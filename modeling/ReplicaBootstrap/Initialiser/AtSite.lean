import ReplicaBootstrap.Catalog
import ReplicaBootstrap.Copy.NodeData
import ReplicaBootstrap.Initialiser
import ReplicaBootstrap.Slot.Provision
import ReplicaBootstrap.Tool.Schema

/-! # Initialisation at a site

The services that a site offers: the catalog behind the local connection, the servers of both nodes
and the schema tools.
-/

namespace ReplicaBootstrap.Initialiser

/-- The services of a site, with the catalog and the origins of the target behind `conn`. -/
def atSite (i : Initialiser) (conn : Nat) : Services Site SchemaTool :=
  let extension := i.settings.extensionName.plain
  let plugin := i.settings.outputPlugin.plain
  { nodeStatus := fun id => .outside (Catalog.nodeStatus conn extension id)
    setNodeStatus := fun id status => .outside (Catalog.setNodeStatus conn extension id status)
    setRemoteNodeStatus := fun remote name status =>
      .outside (Catalog.setRemoteNodeStatus remote extension name status)
    databaseName := .outside (Catalog.databaseName conn)
    schemaTool := .outside do
      return { serverVersion := ← Catalog.serverVersion conn
               directory := i.settings.tools.directory.plain }
    checkVersion := fun tool => .outside tool.checkVersion
    dump := fun tool snapshot archive dsn => .outside (tool.dump snapshot archive dsn)
    restore := fun tool part archive dsn => .outside (tool.restore part archive dsn)
    createSlot := fun remote name => .outside (SlotProvision.createSlot remote plugin name)
    provisionOrigin := fun slot => .outside do
      let _ ← SlotProvision.provisionOrigin conn slot
    makeOtherSlots := fun target => .outside do
      let _ ← SlotProvision.makeOtherSlots target
    copyNodeData := fun snapshot => .outside do
      let _ ← Copy.nodeData i.pair snapshot extension i.settings.initApplicationName
    connect := fun purpose dsn application => .outside (Session.connect purpose dsn application)
    close := fun remote => .outside (Session.close remote)
    checkInterrupts := .outside ReplicaBootstrap.checkInterrupts
    log := fun level text => .outside (ReplicaBootstrap.log level text) }

def runAtSite (i : Initialiser) (conn : Nat) : Action Site Unit := fun w =>
  let start : Progress Site := ⟨i.pair.origin.status, i.pair.target.status, w⟩
  let (r, p) := (i.run (i.atSite conn)).outcome start
  (r, p.outside)

end ReplicaBootstrap.Initialiser
