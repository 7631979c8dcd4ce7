import Mathlib.Data.List.Forall2
import Mathlib.Data.List.Nodup
import ReplicaBootstrap.Proofs.Tool.Find

/-! # Tools that are used

Calls of the schema tools, one after another, while files and commands may change from call to call.
No tool is run that was not found right before, and what was found right stays so and is not asked
again.
-/

namespace ReplicaBootstrap

open ReplicaBootstrap.Action

namespace Path

theorem takeWhile_reverse_joinChars (dir : List Char) {name : List Char} (h : '/' ∉ name) :
    (joinChars dir name).reverse.takeWhile (· ≠ '/') = name.reverse := by
  obtain ⟨front, hJoin, hFront⟩ : ∃ front, joinChars dir name = front ++ name ∧
      front.reverse.takeWhile (· ≠ '/') = [] := by
    unfold joinChars
    split
    · exact ⟨[], rfl, rfl⟩
    · split
      · rename_i hDir
        refine ⟨dir, rfl, ?_⟩
        rw [Bool.or_eq_true, List.isEmpty_iff, beq_iff_eq, ← List.head?_reverse] at hDir
        rcases hDir with rfl | hLast
        · rfl
        · obtain ⟨cs, hcs⟩ := List.head?_eq_some_iff.mp hLast
          rw [hcs]
          rfl
      · exact ⟨dir ++ ['/'], by simp, by simp⟩
  have hName : ∀ c ∈ name.reverse, decide (c ≠ '/') = true := by
    intro c hc
    simp only [ne_eq, decide_eq_true_eq]
    rintro rfl
    exact h (List.mem_reverse.mp hc)
  rw [hJoin, List.reverse_append, List.takeWhile_append_of_pos hName, hFront, List.append_nil]

theorem eq_of_join_eq {dir dir' name name' : String} (h : '/' ∉ name.toList) (h' : '/' ∉ name'.toList)
    (hJoin : join dir name = join dir' name') : name = name' := by
  have hChars : joinChars dir.toList name.toList = joinChars dir'.toList name'.toList := by
    simpa [join] using congrArg String.toList hJoin
  have hReverse := takeWhile_reverse_joinChars dir.toList h
  rw [hChars, takeWhile_reverse_joinChars dir'.toList h'] at hReverse
  exact String.toList_injective (List.reverse_injective hReverse).symm

end Path

namespace SchemaTool

open Site

/-! ## Calls -/

inductive Call where
  | checkVersion
  | find (name : String)
  | dump (snapshot : Value) (archive : String) (source : Value)
  | restore (part archive : String) (target : Value)

def Call.perform (tool : SchemaTool) : Call → Action Site Unit
  | .checkVersion => tool.checkVersion
  | .find name => do let _ ← tool.find name
  | .dump snapshot archive source => tool.dump snapshot archive source
  | .restore part archive target => tool.restore part archive target

def Call.names : Call → List String
  | .checkVersion => ["pg_dump", "pg_restore"]
  | .find name => [name]
  | .dump _ _ _ => ["pg_dump"]
  | .restore _ _ _ => ["pg_restore"]

/-- A call, with the files and the commands as they are when it is made. -/
structure Occasion where
  host : Host
  commands : Script
  call : Call

def Occasion.site (o : Occasion) (w : Site) : Site := { w with host := o.host, commands := o.commands }

def Occasion.outcome (tool : SchemaTool) (o : Occasion) (w : Site) : Except Fault Unit × Site :=
  Action.outcome (o.call.perform tool) (o.site w)

def after (tool : SchemaTool) (w : Site) (os : List Occasion) : Site :=
  os.foldl (fun w o => (o.outcome tool w).2) w

/-! ## What a call does -/

variable {w : Site} {server : Int} {names : List String} {known found : List (String × String)}
  {did : List Entry}

def Confirms (server : Int) (entry : String × String) (x : Entry) : Prop :=
  ∃ r, x = asked entry.2 r ∧ Vouches server r

/-- Tools that are new are found right one after another. -/
inductive Kept (server : Int) (names : List String) :
    List (String × String) → List Entry → List (String × String) → Prop
  | nil {known : List (String × String)} : Kept server names known [] []
  | cons {known found : List (String × String)} {did : List Entry} {name directory : String}
      {r : Reply} (hName : name ∈ names) (hNew : known.lookup name = none)
      (hVouches : Vouches server r)
      (hKept : Kept server names (known ++ [(name, Path.join directory name)]) did found) :
      Kept server names known (asked (Path.join directory name) r :: did)
        ((name, Path.join directory name) :: found)

/-- What follows on the tools that were found right: nothing, a new tool that is not, or the use of
one that is known. -/
inductive Followed {α : Type} (names : List String) (known : List (String × String)) :
    Except Fault α → List Entry → Prop
  | nothing {result : Except Fault α} : Followed names known result []
  | refused {name directory : String} {r : Reply} {f : Fault} (hName : name ∈ names)
      (hNew : known.lookup name = none) :
      Followed names known (.error f) [asked (Path.join directory name) r]
  | used {name path : String} {arguments : List String} {r : Reply} {result : Except Fault α}
      (hName : name ∈ names) (hKnown : known.lookup name = some path) (hUse : arguments ≠ ["-V"]) :
      Followed names known result [.exchange (.run (path :: arguments)) r]

def Course {α : Type} (server : Int) (names : List String) (known : List (String × String))
    (result : Except Fault α) (did : List Entry) (found : List (String × String)) : Prop :=
  ∃ verified rest, did = verified ++ rest ∧ Kept server names known verified found ∧
    Followed names (known ++ found) result rest

theorem Kept.append {did' : List Entry} {found' : List (String × String)}
    (h : Kept server names known did found) (h' : Kept server names (known ++ found) did' found') :
    Kept server names known (did ++ did') (found ++ found') := by
  induction h with
  | nil => rwa [List.append_nil] at h'
  | cons hName hNew hVouches _ ih =>
    refine .cons hName hNew hVouches (ih ?_)
    rwa [List.append_assoc]

theorem course_of_followed {α : Type} {result : Except Fault α}
    (h : Followed names known result did) : Course server names known result did [] :=
  ⟨[], did, rfl, .nil, by rwa [List.append_nil]⟩

theorem Course.after {α : Type} {did' : List Entry} {found' : List (String × String)}
    {result : Except Fault α} (h : Kept server names known did found)
    (h' : Course server names (known ++ found) result did' found') :
    Course server names known result (did ++ did') (found ++ found') := by
  obtain ⟨verified, rest, rfl, hKept, hFollowed⟩ := h'
  refine ⟨did ++ verified, rest, (List.append_assoc _ _ _).symm, h.append hKept, ?_⟩
  rwa [← List.append_assoc]

/-! ## The course of each call -/

theorem Sought.kept {tool : SchemaTool} {name path : String} (hName : name ∈ names)
    (h : Sought tool w name (.ok path) did found) :
    Kept tool.serverVersion names w.verifiedTools did found ∧
      (w.verifiedTools ++ found).lookup name = some path := by
  cases h with
  | known hKnown => exact ⟨.nil, by rwa [List.append_nil]⟩
  | verified hNew _ _ hVouches =>
    refine ⟨.cons hName hNew hVouches .nil, ?_⟩
    rw [List.lookup_append, hNew, List.lookup_cons_self]
    rfl

theorem Sought.followed {α : Type} {tool : SchemaTool} {name : String} {f : Fault}
    (hName : name ∈ names) (h : Sought tool w name (.error f) did found) :
    found = [] ∧ Followed names w.verifiedTools (.error f : Except Fault α) did := by
  cases h with
  | missing => exact ⟨rfl, .nothing⟩
  | refused hNew => exact ⟨rfl, .refused hName hNew⟩

theorem finds_find_bind {α : Type} (tool : SchemaTool) {name : String} {k : String → Action Site α}
    (hName : name ∈ names)
    (hk : ∀ path v, v.verifiedTools.lookup name = some path →
      Finds (k path) v (Course tool.serverVersion names v.verifiedTools)) :
    Finds (tool.find name >>= k) w (Course tool.serverVersion names w.verifiedTools) := by
  apply finds_bind (finds_find tool name)
  · intro path did found v hSought hTools
    obtain ⟨hKept, hKnown⟩ := hSought.kept hName
    rw [← hTools] at hKnown
    apply (hk path v hKnown).weaken
    intro result did' found' h
    rw [hTools] at h
    exact Course.after hKept h
  · intro f did found hSought
    obtain ⟨rfl, hFollowed⟩ := hSought.followed hName
    exact course_of_followed hFollowed

theorem finds_run {name path : String} {arguments : List String} (dsn : Value) (hName : name ∈ names)
    (hKnown : w.verifiedTools.lookup name = some path) (hUse : arguments ≠ ["-V"]) :
    Finds (run (path :: arguments) dsn) w (Course server names w.verifiedTools) := by
  unfold run
  apply finds_still_bind rfl
  · intro shown _
    apply finds_bind (finds_log _ _)
    · rintro _ _ _ v ⟨-, rfl, rfl⟩ -
      apply finds_bind (finds_command _ _)
      · intro reply _ _ v' hRan _
        cases hRan with
        | ok =>
          split
          · exact finds_throw (course_of_followed (.used hName hKnown hUse))
          · exact finds_pure (course_of_followed (.used hName hKnown hUse))
      · intro f _ _ hRan
        cases hRan with
        | error => exact course_of_followed (.used hName hKnown hUse)
    · rintro _ _ _ ⟨⟨⟩, -⟩
  · intro f _
    exact course_of_followed .nothing

theorem outcome_restore_other (tool : SchemaTool) {part : String} (archive : String) (target : Value)
    (w : Site) (hPart : part ≠ "pre-data" ∧ part ≠ "post-data") :
    ∃ f, outcome (tool.restore part archive target) w = (.error f, w) := by
  unfold restore
  rw [if_pos (by simpa [sections] using hPart)]
  exact ⟨_, rfl⟩

theorem finds_perform (tool : SchemaTool) (call : Call) :
    Finds (call.perform tool) w (Course tool.serverVersion call.names w.verifiedTools) := by
  have hUse {first second : String} {rest : List String} : first :: second :: rest ≠ ["-V"] := by simp
  cases call with
  | checkVersion =>
    apply finds_find_bind tool List.mem_cons_self
    intro _ v _
    apply finds_find_bind tool (List.mem_cons_of_mem _ List.mem_cons_self)
    intro _ v _
    exact finds_pure (course_of_followed .nothing)
  | find name =>
    apply finds_find_bind tool List.mem_cons_self
    intro _ v _
    exact finds_pure (course_of_followed .nothing)
  | dump snapshot archive source =>
    apply finds_find_bind tool List.mem_cons_self
    intro path v hKnown
    cases source with
    | text dsn => exact finds_run _ List.mem_cons_self hKnown hUse
    | _ => exact finds_throw (course_of_followed .nothing)
  | restore part archive target =>
    change Finds (tool.restore part archive target) w _
    by_cases hPart : part ∈ sections
    · have hContains : ¬ (!sections.contains part) = true := by simpa using hPart
      cases target with
      | text dsn =>
        unfold restore
        dsimp only
        rw [if_neg hContains]
        apply finds_find_bind tool List.mem_cons_self
        intro path v hKnown
        exact finds_run _ List.mem_cons_self hKnown hUse
      | _ =>
        unfold restore
        dsimp only
        rw [if_neg hContains]
        apply finds_find_bind tool List.mem_cons_self
        intro path v _
        exact finds_throw (course_of_followed .nothing)
    · have hNeither : part ≠ "pre-data" ∧ part ≠ "post-data" := by simpa [sections] using hPart
      obtain ⟨f, hOther⟩ := outcome_restore_other tool archive target w hNeither
      unfold Finds
      rw [hOther]
      exact finds_throw (course_of_followed .nothing)

/-! ## What a course tells -/

theorem Kept.confirmed (h : Kept server names known did found) :
    List.Forall₂ (Confirms server) found did := by
  induction h with
  | nil => exact .nil
  | cons _ _ hVouches _ ih => exact .cons ⟨_, rfl, hVouches⟩ ih

theorem Kept.new {front back : List Entry} {x : Entry} (h : Kept server names known did found)
    (hDid : did = front ++ x :: back) :
    ∃ name ∈ names, ∃ directory r, x = asked (Path.join directory name) r ∧
      (known ++ found.take front.length).lookup name = none := by
  -- each question found one tool, so the questions and the tools found go in step
  induction h generalizing front with
  | nil => simp at hDid
  | cons hName hNew _ _ ih =>
    cases front with
    | nil =>
      cases hDid
      exact ⟨_, hName, _, _, rfl, by rwa [List.length_nil, List.take_zero, List.append_nil]⟩
    | cons y front =>
      rw [List.cons_append] at hDid
      injection hDid with hFirst hDid
      obtain ⟨name, hMem, directory, r, rfl, hLookup⟩ := ih hDid
      refine ⟨name, hMem, directory, r, rfl, ?_⟩
      rwa [List.append_assoc] at hLookup

/-! ## What is kept -/

structure Stocked (server : Int) (said : List Entry) (tools : List (String × String)) : Prop where
  confirmed : ∀ entry ∈ tools, ∃ x ∈ said, Confirms server entry x
  placed : ∀ entry ∈ tools, ∃ directory, entry.2 = Path.join directory entry.1
  once : (tools.map Prod.fst).Nodup

theorem stocked_nil : Stocked server [] [] where
  confirmed _ h := by cases h
  placed _ h := by cases h
  once := .nil

theorem Stocked.mono {said : List Entry} (h : Stocked server said known) (more : List Entry) :
    Stocked server (said ++ more) known where
  confirmed entry hEntry := by
    obtain ⟨x, hx, hConfirms⟩ := h.confirmed entry hEntry
    exact ⟨x, List.mem_append_left more hx, hConfirms⟩
  placed := h.placed
  once := h.once

theorem Stocked.add {said : List Entry} {name directory : String} {r : Reply}
    (h : Stocked server said known) (hNew : known.lookup name = none) (hVouches : Vouches server r) :
    Stocked server (said ++ [asked (Path.join directory name) r])
      (known ++ [(name, Path.join directory name)]) where
  confirmed entry hEntry := by
    rcases List.mem_append.mp hEntry with hOld | hEntry
    · exact (h.mono _).confirmed entry hOld
    · cases List.mem_singleton.mp hEntry
      exact ⟨_, List.mem_append_right said List.mem_cons_self, r, rfl, hVouches⟩
  placed entry hEntry := by
    rcases List.mem_append.mp hEntry with hOld | hEntry
    · exact h.placed entry hOld
    · cases List.mem_singleton.mp hEntry
      exact ⟨directory, rfl⟩
  once := by
    rw [List.map_append, List.map_singleton, ← List.concat_eq_append]
    refine List.Nodup.concat ?_ h.once
    intro hMem
    obtain ⟨entry, hEntry, hName⟩ := List.mem_map.mp hMem
    simpa [hName] using List.lookup_eq_none_iff.mp hNew entry hEntry

theorem Stocked.kept {said : List Entry} (h : Stocked server said known)
    (hKept : Kept server names known did found) : Stocked server (said ++ did) (known ++ found) := by
  induction hKept generalizing said with
  | nil => rwa [List.append_nil, List.append_nil]
  | cons _ hNew hVouches _ ih =>
    have hMore := ih (h.add hNew hVouches)
    rwa [List.append_assoc, List.append_assoc] at hMore

theorem Stocked.course {α : Type} {said : List Entry} {result : Except Fault α}
    (h : Stocked server said known) (hCourse : Course server names known result did found) :
    Stocked server (said ++ did) (known ++ found) := by
  obtain ⟨verified, rest, rfl, hKept, -⟩ := hCourse
  rw [← List.append_assoc]
  exact (h.kept hKept).mono rest

theorem stocked_after (tool : SchemaTool) (w : Site) (os : List Occasion) {said : List Entry}
    (h : Stocked tool.serverVersion said w.verifiedTools) :
    ∃ did, (after tool w os).acts = w.acts ++ did ∧
      w.verifiedTools <+: (after tool w os).verifiedTools ∧
      Stocked tool.serverVersion (said ++ did) (after tool w os).verifiedTools := by
  induction os generalizing w said with
  | nil => exact ⟨[], (List.append_nil _).symm, List.prefix_rfl, by rwa [List.append_nil]⟩
  | cons o os ih =>
    obtain ⟨did, found, hActs, hTools, hCourse⟩ := finds_perform (w := o.site w) tool o.call
    have hStep : Stocked tool.serverVersion (said ++ did) (o.outcome tool w).2.verifiedTools := by
      rw [Occasion.outcome, hTools]
      exact h.course hCourse
    obtain ⟨more, hMore, hPrefix, hStocked⟩ := ih _ hStep
    refine ⟨did ++ more, ?_, ?_, ?_⟩
    · change (after tool (o.outcome tool w).2 os).acts = _
      rw [hMore, ← List.append_assoc]
      exact congrArg (· ++ more) hActs
    · exact (List.prefix_append w.verifiedTools found).trans (hTools ▸ hPrefix)
    · rwa [← List.append_assoc]

/-! ## Every call -/

/-- What a call adds to the commands `said` and to the tools `known` before it. -/
structure Proper (server : Int) (names : List String) (said : List Entry)
    (known : List (String × String)) (did : List Entry) (found : List (String × String)) : Prop where
  /-- a question is about a tool that is not known yet, be it from before the call or from its earlier
  questions, and never about the path of one that is, if both have names without slashes -/
  asks : ∀ front path r back, did = front ++ asked path r :: back →
    ∃ name ∈ names, (∃ directory, path = Path.join directory name) ∧
      ∀ entry ∈ known ++ found.take front.length, entry.1 ≠ name ∧
        ('/' ∉ entry.1.toList → '/' ∉ name.toList → entry.2 ≠ path)
  /-- any other command runs a tool that was confirmed before -/
  uses : ∀ front x back, did = front ++ x :: back →
    (∃ path r, x = asked path r) ∨
      ∃ name ∈ names, ∃ path arguments r, x = .exchange (.run (path :: arguments)) r ∧
        (name, path) ∈ known ++ found ∧ ∃ y ∈ said ++ front, Confirms server (name, path) y
  /-- what is kept was confirmed before the last command, unless that confirms it -/
  keeps : ∃ verified rest, did = verified ++ rest ∧ rest.length ≤ 1 ∧
    List.Forall₂ (Confirms server) found verified

theorem Followed.alone {α : Type} {result : Except Fault α} {front back : List Entry} {x : Entry}
    (h : Followed names known result (front ++ x :: back)) :
    front = [] ∧
      ((∃ name ∈ names, ∃ directory r, x = asked (Path.join directory name) r ∧
          known.lookup name = none) ∨
        ∃ name ∈ names, ∃ path arguments r, x = .exchange (.run (path :: arguments)) r ∧
          known.lookup name = some path ∧ arguments ≠ ["-V"]) := by
  generalize hDid : front ++ x :: back = rest at h
  cases h with
  | nothing => simp at hDid
  | refused hName hNew =>
    obtain ⟨rfl, hx⟩ := List.append_eq_singleton_iff.mp hDid |>.resolve_right (by simp)
    cases hx
    exact ⟨rfl, .inl ⟨_, hName, _, _, rfl, hNew⟩⟩
  | used hName hKnown hUse =>
    obtain ⟨rfl, hx⟩ := List.append_eq_singleton_iff.mp hDid |>.resolve_right (by simp)
    cases hx
    exact ⟨rfl, .inr ⟨_, hName, _, _, _, rfl, hKnown, hUse⟩⟩

theorem Course.command {α : Type} {result : Except Fault α} {front back : List Entry} {x : Entry}
    (h : Course server names known result (front ++ x :: back) found) :
    (∃ name ∈ names, ∃ directory r, x = asked (Path.join directory name) r ∧
        (known ++ found.take front.length).lookup name = none) ∨
      ∃ name ∈ names, ∃ path arguments r, x = .exchange (.run (path :: arguments)) r ∧
        arguments ≠ ["-V"] ∧ (name, path) ∈ known ++ found ∧ Kept server names known front found := by
  obtain ⟨verified, rest, hDid, hKept, hFollowed⟩ := h
  rcases split_append hDid.symm with ⟨m, hSplit, -⟩ | ⟨u, hFront, hRest⟩
  · exact .inl (hKept.new hSplit)
  · rw [hRest] at hFollowed
    obtain ⟨rfl, hAlone⟩ := hFollowed.alone
    rw [List.append_nil] at hFront
    rw [hFront]
    rcases hAlone with ⟨name, hName, directory, r, hAsked, hNew⟩ | ⟨name, hName, path, arguments, r,
      hRun, hKnown, hOther⟩
    · refine .inl ⟨name, hName, directory, r, hAsked, ?_⟩
      rwa [← hKept.confirmed.length_eq, List.take_length]
    · obtain ⟨before, after, hTools, -⟩ := List.lookup_eq_some_iff.mp hKnown
      refine .inr ⟨name, hName, path, arguments, r, hRun, hOther, ?_, hKept⟩
      rw [hTools]
      exact List.mem_append_right before List.mem_cons_self

theorem Stocked.proper {α : Type} {said : List Entry} {result : Except Fault α}
    (h : Stocked server said known) (hCourse : Course server names known result did found) :
    Proper server names said known did found where
  asks front path r back hDid := by
    subst hDid
    rcases hCourse.command with ⟨name, hName, directory, r', hAsked, hNew⟩ | ⟨_, _, _, _, _, hRun, hOther, -⟩
    · obtain rfl : path = Path.join directory name := by
        cases hAsked
        rfl
      refine ⟨name, hName, ⟨directory, rfl⟩, fun entry hEntry => ?_⟩
      have hDifferent : entry.1 ≠ name := by
        rintro rfl
        simpa using List.lookup_eq_none_iff.mp hNew entry hEntry
      refine ⟨hDifferent, fun hPlain hPlain' hSame => hDifferent ?_⟩
      have hAll : entry ∈ known ++ found := by
        rcases List.mem_append.mp hEntry with hKnown | hFound
        · exact List.mem_append_left found hKnown
        · exact List.mem_append_right known (List.mem_of_mem_take hFound)
      obtain ⟨directory', hPlace⟩ := (h.course hCourse).placed entry hAll
      exact Path.eq_of_join_eq hPlain hPlain' (hPlace.symm.trans hSame)
    · cases hRun
      exact (hOther rfl).elim
  uses front x back hDid := by
    subst hDid
    rcases hCourse.command with ⟨name, -, directory, r, hAsked, -⟩ | ⟨name, hName, path, arguments, r,
      hRun, -, hKnown, hKept⟩
    · exact .inl ⟨_, r, hAsked⟩
    · refine .inr ⟨name, hName, path, arguments, r, hRun, hKnown, ?_⟩
      exact (h.kept hKept).confirmed (name, path) hKnown
  keeps := by
    obtain ⟨verified, rest, rfl, hKept, hFollowed⟩ := hCourse
    refine ⟨verified, rest, rfl, ?_, hKept.confirmed⟩
    cases hFollowed <;> simp

/-- Whatever is called, one call after another: the tools that are kept at any time were confirmed by
what was said before, no name is kept twice, and what is kept stays for ever. Each call is proper, and
one for another section changes nothing. -/
theorem calls_use_confirmed_tools (tool : SchemaTool) (w : Site) (before later : List Occasion)
    (o : Occasion) :
    let v := after tool { w with verifiedTools := [] } before
    let v' := (o.outcome tool v).2
    ∃ said did found, v.acts = w.acts ++ said ∧ v'.acts = v.acts ++ did ∧
      v'.verifiedTools = v.verifiedTools ++ found ∧
      (∀ entry ∈ v.verifiedTools, ∃ x ∈ said, Confirms tool.serverVersion entry x) ∧
      (v'.verifiedTools.map Prod.fst).Nodup ∧
      v'.verifiedTools <+: (after tool v' later).verifiedTools ∧
      Proper tool.serverVersion o.call.names said v.verifiedTools did found ∧
      ∀ part archive target, o.call = .restore part archive target →
        part ≠ "pre-data" → part ≠ "post-data" →
          v' = o.site v ∧ ∃ f, (o.outcome tool v).1 = .error f := by
  intro v v'
  obtain ⟨said, hSaid, -, hStocked⟩ :=
    stocked_after tool { w with verifiedTools := [] } before stocked_nil
  obtain ⟨did, found, hDid, hFound, hCourse⟩ := finds_perform (w := o.site v) tool o.call
  have hAfter : Stocked tool.serverVersion (said ++ did) v'.verifiedTools := by
    change Stocked _ _ (outcome (o.call.perform tool) (o.site v)).2.verifiedTools
    rw [hFound]
    exact hStocked.course hCourse
  obtain ⟨-, -, hStays, -⟩ := stocked_after tool v' later hAfter
  refine ⟨said, did, found, hSaid, hDid, hFound, hStocked.confirmed, hAfter.once, hStays,
    hStocked.proper hCourse, ?_⟩
  intro part archive target hCall hPre hPost
  obtain ⟨f, hOther⟩ := outcome_restore_other tool archive target (o.site v) ⟨hPre, hPost⟩
  have hOutcome : o.outcome tool v = (.error f, o.site v) := by
    rw [Occasion.outcome, hCall]
    exact hOther
  exact ⟨congrArg Prod.snd hOutcome, f, congrArg Prod.fst hOutcome⟩

end SchemaTool

end ReplicaBootstrap
