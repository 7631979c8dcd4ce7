import ReplicaBootstrap.Copy.Stream
import ReplicaBootstrap.Proofs.Sql

/-! # Which table a statement copies

The statement of a copy holds the two names of its table in quotes, and they are read back from it. So
a statement tells its table, whatever the names hold, and nothing else of it depends on the table.
-/

namespace ReplicaBootstrap.Copy

def tableNamed (names : String × String) : Table := ⟨.text names.1, .text names.2⟩

theorem tableNamed_injective : Function.Injective tableNamed := by
  rintro ⟨schema, name⟩ ⟨schema', name'⟩ h
  cases h
  rfl

theorem statement_tableNamed (direction : Direction) (names : String × String) :
    statement direction (tableNamed names) =
      .ok ("COPY " ++ Sql.qualifiedName names ++ direction.clause) := rfl

theorem closes_clause (direction : Direction) : Sql.Closes direction.clause.toList := by
  cases direction <;> decide

theorem statement_tableNamed_inj (direction : Direction) {names names' : String × String}
    (h : statement direction (tableNamed names) = statement direction (tableNamed names')) :
    names = names' := by
  rw [statement_tableNamed, statement_tableNamed, Except.ok.injEq] at h
  have hChars := congrArg String.toList h
  simp only [String.toList_append, List.append_assoc, List.append_cancel_left_eq] at hChars
  exact (Sql.qualifiedName_append_inj (closes_clause direction) (closes_clause direction) hChars).1

theorem readQualified_clause (direction : Direction) (names : String × String) :
    Sql.readQualified (Sql.qualifiedName names ++ direction.clause).toList =
      some (names, direction.clause.toList) :=
  Sql.readQualified_eq_some_iff.mpr ⟨String.toList_append, closes_clause direction⟩

/-- A text asks for the copy of a table: the names of the table are read from it, and leave the keywords
of the direction. -/
inductive CopyOf : Table → Direction → String → Prop
  | fromServer {names : String × String} {qualified : String}
      (hRead : Sql.readQualified (qualified ++ " TO STDOUT").toList =
        some (names, " TO STDOUT".toList)) :
      CopyOf (tableNamed names) .fromServer ("COPY " ++ qualified ++ " TO STDOUT")
  | toServer {names : String × String} {qualified : String}
      (hRead : Sql.readQualified (qualified ++ " FROM STDIN").toList =
        some (names, " FROM STDIN".toList)) :
      CopyOf (tableNamed names) .toServer ("COPY " ++ qualified ++ " FROM STDIN")

theorem eq_qualifiedName_of_read {names : String × String} {qualified words : String}
    (h : Sql.readQualified (qualified ++ words).toList = some (names, words.toList)) :
    qualified = Sql.qualifiedName names := by
  obtain ⟨hText, -⟩ := Sql.readQualified_eq_some_iff.mp h
  rw [String.toList_append, List.append_cancel_right_eq] at hText
  exact String.toList_injective hText

theorem statement_eq_ok_iff {direction : Direction} {t : Table} {query : String} :
    statement direction t = .ok query ↔ CopyOf t direction query := by
  constructor
  · intro h
    obtain ⟨names, rfl⟩ : ∃ names, t = tableNamed names := by
      obtain ⟨schema, name⟩ := t
      cases schema with
      | text schema =>
        cases name with
        | text name => exact ⟨(schema, name), rfl⟩
        | _ => cases h
      | _ => cases h
    rw [statement_tableNamed, Except.ok.injEq] at h
    subst h
    cases direction with
    | fromServer => exact .fromServer (readQualified_clause .fromServer names)
    | toServer => exact .toServer (readQualified_clause .toServer names)
  · rintro (hRead | hRead)
    · rw [eq_qualifiedName_of_read hRead]
      rfl
    · rw [eq_qualifiedName_of_read hRead]
      rfl

/-- The two statements of a table hold the same quoted name. It is read as the names of the table and
leaves the words of the statement, so the statements of two tables are alike just when the tables are
the same. -/
theorem statement_tells_table (names names' : String × String) :
    (∃ qualified : String,
      (statement .fromServer (tableNamed names) = .ok ("COPY " ++ qualified ++ " TO STDOUT") ∧
        Sql.readQualified (qualified ++ " TO STDOUT").toList = some (names, " TO STDOUT".toList)) ∧
      statement .toServer (tableNamed names) = .ok ("COPY " ++ qualified ++ " FROM STDIN") ∧
        Sql.readQualified (qualified ++ " FROM STDIN").toList = some (names, " FROM STDIN".toList)) ∧
    ∀ direction, statement direction (tableNamed names) = statement direction (tableNamed names') ↔
      tableNamed names = tableNamed names' := by
  constructor
  · exact ⟨Sql.qualifiedName names, ⟨rfl, readQualified_clause .fromServer names⟩, rfl,
      readQualified_clause .toServer names⟩
  · intro direction
    constructor
    · exact fun h => congrArg tableNamed (statement_tableNamed_inj direction h)
    · exact congrArg (statement direction)

-- the description of a copy, which faults and the log show, does not tell its table
example : description .toServer (tableNamed ("a.b", "c")) =
    description .toServer (tableNamed ("a", "b.c")) := by
  decide

end ReplicaBootstrap.Copy
