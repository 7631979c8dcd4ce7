import ReplicaBootstrap.Conninfo.Basic

/-! # Connection strings of keywords and values

The form `keyword = value …` with blanks between settings. A value is bare, up to the next blank, or
stands between single quotes; in both a backslash takes the next character as it is.
-/

namespace ReplicaBootstrap.Conninfo

open Text

def bareValue : List Char → List Char × List Char
  | [] => ([], [])
  | '\\' :: c :: rest => let (value, after) := bareValue rest; (c :: value, after)
  | c :: rest =>
    if c = '\\' then ([], [])
    else if isAsciiBlank c then ([], rest)
    else let (value, after) := bareValue rest; (c :: value, after)

def quotedValue : List Char → Option (List Char × List Char)
  | [] => none
  | '\\' :: c :: rest => (quotedValue rest).map fun (value, after) => (c :: value, after)
  | c :: rest =>
    if c = '\\' then none
    else if c = '\'' then some ([], rest)
    else (quotedValue rest).map fun (value, after) => (c :: value, after)

def readValue : List Char → Option (List Char × List Char)
  | '\'' :: rest => quotedValue rest
  | cs => some (bareValue cs)

def isKeywordChar (c : Char) : Bool := c ≠ '=' && !isAsciiBlank c

theorem bareValue_length (cs : List Char) : (bareValue cs).2.length ≤ cs.length := by
  fun_induction bareValue cs <;> simp_all <;> omega

theorem quotedValue_length {cs value after : List Char} (h : quotedValue cs = some (value, after)) :
    after.length ≤ cs.length := by
  fun_induction quotedValue cs generalizing value after with
  | case1 => simp at h
  | case2 c rest ih =>
    obtain ⟨⟨v, a⟩, hv, h⟩ := Option.map_eq_some_iff.1 h
    simp only [Prod.mk.injEq] at h
    have := ih hv
    simp only [List.length_cons, ← h.2]
    omega
  | case3 => simp at h
  | case4 c rest => simp_all
  | case5 c rest _ _ _ ih =>
    obtain ⟨⟨v, a⟩, hv, h⟩ := Option.map_eq_some_iff.1 h
    simp only [Prod.mk.injEq] at h
    have := ih hv
    simp only [List.length_cons, ← h.2]
    omega

theorem readValue_length {cs value after : List Char} (h : readValue cs = some (value, after)) :
    after.length ≤ cs.length := by
  unfold readValue at h
  split at h
  · have := quotedValue_length h
    simp only [List.length_cons]
    omega
  · have := bareValue_length cs
    simp only [Option.some.injEq] at h
    simpa [h] using this

theorem dropWhile_length_le (p : Char → Bool) (cs : List Char) :
    (cs.dropWhile p).length ≤ cs.length :=
  (List.dropWhile_sublist p).length_le

def keyValueEntries (cs : List Char) : Except Error (List Entry) :=
  match _hStart : cs.dropWhile isAsciiBlank with
  | [] => .ok []
  | c :: tail =>
    let keyword := String.ofList ((c :: tail).takeWhile isKeywordChar)
    match _hEquals : ((c :: tail).dropWhile isKeywordChar).dropWhile isAsciiBlank with
    | '=' :: rest =>
      match _hValue : readValue (rest.dropWhile isAsciiBlank) with
      | none => .error .unterminatedQuote
      | some (value, after) =>
        match accept keyword (String.ofList value) with
        | none => .error (.invalidOption keyword)
        | some (k, v) => do
          let more ← keyValueEntries after
          return (k, .ok v) :: more
    | _ => .error (.missingEquals keyword)
termination_by cs.length
decreasing_by
  have h₁ := readValue_length _hValue
  have h₂ := dropWhile_length_le isAsciiBlank rest
  have h₃ := dropWhile_length_le isAsciiBlank ((c :: tail).dropWhile isKeywordChar)
  have h₄ := dropWhile_length_le isKeywordChar (c :: tail)
  have h₅ := dropWhile_length_le isAsciiBlank cs
  rw [_hEquals] at h₃
  rw [_hStart] at h₅
  simp only [List.length_cons] at *
  omega

end ReplicaBootstrap.Conninfo
