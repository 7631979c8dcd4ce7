import ReplicaBootstrap.Sql

/-! # Reading quoted names

A name in double quotes is read up to the quote that closes it, and two quotes within it stand for one.
What is read as a name is exactly what is written for it, so a name has one quoted form, whatever
characters it holds. A literal is related to the text that it stands for.
-/

namespace ReplicaBootstrap.Sql

variable {cs rest : List Char}

/-! ## One name -/

/-- The name that a quote closes, and what follows the quote. -/
def readClosed : List Char → Option (List Char × List Char)
  | [] => none
  | '"' :: '"' :: rest => (readClosed rest).map fun (name, after) => ('"' :: name, after)
  | '"' :: rest => some ([], rest)
  | c :: rest => (readClosed rest).map fun (name, after) => (c :: name, after)

def readName : List Char → Option (String × List Char)
  | '"' :: rest => (readClosed rest).map fun (name, after) => (String.ofList name, after)
  | _ => none

def Closes (rest : List Char) : Prop := rest.head? ≠ some '"'

instance (rest : List Char) : Decidable (Closes rest) :=
  inferInstanceAs (Decidable (rest.head? ≠ some '"'))

theorem doubled_cons (mark c : Char) (cs : List Char) :
    doubled mark (c :: cs) = (if c = mark then [c, c] else [c]) ++ doubled mark cs :=
  List.flatMap_cons

theorem readClosed_doubled (name : List Char) (hRest : Closes rest) :
    readClosed (doubled '"' name ++ '"' :: rest) = some (name, rest) := by
  induction name with
  | nil =>
    match rest with
    | [] => rfl
    | d :: rest =>
      have hd : d ≠ '"' := fun h => hRest (congrArg some h)
      change readClosed ('"' :: d :: rest) = some ([], d :: rest)
      rw [readClosed]
      rintro _ ⟨⟩
      exact hd rfl
  | cons c name ih =>
    rw [doubled_cons, List.append_assoc]
    by_cases hc : c = '"'
    · rw [if_pos hc, hc]
      change (readClosed (doubled '"' name ++ '"' :: rest)).map _ = _
      rw [ih]
      rfl
    · rw [if_neg hc, List.singleton_append, readClosed, ih]
      · rfl
      · rintro _ rfl
        exact absurd rfl hc
      · exact hc

theorem eq_doubled_of_readClosed {name : List Char} (h : readClosed cs = some (name, rest)) :
    cs = doubled '"' name ++ '"' :: rest ∧ Closes rest := by
  fun_induction readClosed cs generalizing name with
  | case1 => cases h
  | case2 more ih =>
    obtain ⟨⟨name, after⟩, hMore, h⟩ := Option.map_eq_some_iff.mp h
    cases h
    obtain ⟨rfl, hRest⟩ := ih hMore
    exact ⟨rfl, hRest⟩
  | case3 more hMore =>
    cases h
    refine ⟨rfl, fun hHead => ?_⟩
    obtain ⟨tail, rfl⟩ := List.head?_eq_some_iff.mp hHead
    exact hMore tail rfl
  | case4 c more _ hc ih =>
    obtain ⟨⟨name, after⟩, hMore, h⟩ := Option.map_eq_some_iff.mp h
    cases h
    obtain ⟨rfl, hRest⟩ := ih hMore
    rw [doubled_cons, if_neg hc]
    exact ⟨rfl, hRest⟩

theorem toList_quotedName (name : String) :
    (quotedName name).toList = '"' :: (doubled '"' name.toList ++ ['"']) := by
  rw [quotedName, String.toList_ofList]
  rfl

theorem readName_quotedName (name : String) (hRest : Closes rest) :
    readName ((quotedName name).toList ++ rest) = some (name, rest) := by
  rw [toList_quotedName, List.cons_append, List.append_assoc, List.singleton_append, readName,
    readClosed_doubled name.toList hRest]
  change some (String.ofList name.toList, rest) = _
  rw [String.ofList_toList]

/-- What is read as a name is its quoted form, up to a quote that closes it. -/
theorem readName_eq_some_iff {name : String} :
    readName cs = some (name, rest) ↔ cs = (quotedName name).toList ++ rest ∧ Closes rest := by
  constructor
  · intro h
    unfold readName at h
    split at h
    · obtain ⟨⟨chars, after⟩, hClosed, h⟩ := Option.map_eq_some_iff.mp h
      cases h
      obtain ⟨rfl, hRest⟩ := eq_doubled_of_readClosed hClosed
      rw [toList_quotedName, String.toList_ofList]
      exact ⟨by simp, hRest⟩
    · cases h
  · rintro ⟨rfl, hRest⟩
    exact readName_quotedName name hRest

/-! ## Qualified names -/

def readQualified (cs : List Char) : Option ((String × String) × List Char) := do
  let (schema, more) ← readName cs
  match more with
  | '.' :: more =>
    let (name, rest) ← readName more
    return ((schema, name), rest)
  | _ => none

def qualifiedName (names : String × String) : String :=
  quotedName names.1 ++ "." ++ quotedName names.2

/-- What is read as a qualified name is its quoted form, up to a quote that closes it. -/
theorem readQualified_eq_some_iff {names : String × String} :
    readQualified cs = some (names, rest) ↔
      cs = (qualifiedName names).toList ++ rest ∧ Closes rest := by
  have hWhole (schema name : String) : (qualifiedName (schema, name)).toList ++ rest =
      (quotedName schema).toList ++ '.' :: ((quotedName name).toList ++ rest) := by
    simp [qualifiedName, String.toList_append]
  obtain ⟨schema, name⟩ := names
  rw [hWhole]
  constructor
  · intro hRead
    obtain ⟨⟨schema', more⟩, hSchema, h⟩ := Option.bind_eq_some_iff.mp hRead
    obtain ⟨hcs, -⟩ := readName_eq_some_iff.mp hSchema
    dsimp only at h
    split at h
    · obtain ⟨⟨name', rest'⟩, hName, h⟩ := Option.bind_eq_some_iff.mp h
      cases h
      obtain ⟨rfl, hRest⟩ := readName_eq_some_iff.mp hName
      exact ⟨hcs, hRest⟩
    · cases h
  · rintro ⟨rfl, hRest⟩
    have hDot : Closes ('.' :: ((quotedName name).toList ++ rest)) := by
      simp [Closes]
    refine Option.bind_eq_some_iff.mpr ⟨_, readName_quotedName schema hDot, ?_⟩
    exact Option.bind_eq_some_iff.mpr ⟨_, readName_quotedName name hRest, rfl⟩

theorem qualifiedName_append_inj {names names' : String × String} {rest' : List Char}
    (hRest : Closes rest) (hRest' : Closes rest')
    (h : (qualifiedName names).toList ++ rest = (qualifiedName names').toList ++ rest') :
    names = names' ∧ rest = rest' := by
  have hRead := readQualified_eq_some_iff.mpr ⟨h, hRest'⟩
  rw [readQualified_eq_some_iff.mpr ⟨rfl, hRest⟩] at hRead
  cases hRead
  exact ⟨rfl, rfl⟩

/-! ## Text literals -/

/-- What stands between the opening quote of a literal and its end, and the text that it stands for. A
doubled quote is one, and so is a doubled backslash if backslashes escape. -/
inductive Body (escapes : Bool) : List Char → List Char → Prop
  | close : Body escapes ['\''] []
  | quote {cs text : List Char} (hRest : Body escapes cs text) :
      Body escapes ('\'' :: '\'' :: cs) ('\'' :: text)
  | backslash {cs text : List Char} (hEscapes : escapes = true) (hRest : Body escapes cs text) :
      Body escapes ('\\' :: '\\' :: cs) ('\\' :: text)
  | plain {c : Char} {cs text : List Char} (hQuote : c ≠ '\'')
      (hBackslash : escapes = true → c ≠ '\\') (hRest : Body escapes cs text) :
      Body escapes (c :: cs) (c :: text)

inductive StandsFor (text : String) : String → Prop
  | plain {cs : List Char} (hBody : Body false cs text.toList) :
      StandsFor text (String.ofList ('\'' :: cs))
  | escaped {cs : List Char} (hBody : Body true cs text.toList) :
      StandsFor text (String.ofList (' ' :: 'E' :: '\'' :: cs))

theorem body_doubled (text : List Char) : Body false (doubled '\'' text ++ ['\'']) text := by
  induction text with
  | nil => exact .close
  | cons c text ih =>
    rw [doubled_cons, List.append_assoc]
    by_cases hQuote : c = '\''
    · rw [if_pos hQuote, hQuote]
      exact .quote ih
    · rw [if_neg hQuote]
      exact .plain hQuote (fun h => by cases h) ih

theorem body_doubled_doubled (text : List Char) :
    Body true (doubled '\\' (doubled '\'' text) ++ ['\'']) text := by
  induction text with
  | nil => exact .close
  | cons c text ih =>
    rw [doubled_cons]
    by_cases hQuote : c = '\''
    · rw [if_pos hQuote, hQuote]
      exact .quote ih
    rw [if_neg hQuote, List.singleton_append, doubled_cons, List.append_assoc]
    by_cases hBackslash : c = '\\'
    · rw [if_pos hBackslash, hBackslash]
      exact .backslash rfl ih
    · rw [if_neg hBackslash]
      exact .plain hQuote (fun _ => hBackslash) ih

theorem standsFor_literal {text written : String} (h : literal (.text text) = .ok written) :
    StandsFor text written := by
  unfold literal textLiteral at h
  dsimp only at h
  split at h
  · cases h
  split at h
  · cases h
    exact .escaped (body_doubled_doubled text.toList)
  · cases h
    exact .plain (body_doubled text.toList)

end ReplicaBootstrap.Sql
