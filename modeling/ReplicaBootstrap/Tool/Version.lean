import ReplicaBootstrap.Number.Radix

/-! # Versions of tools and servers

The version in the answer of a tool, the major version that a server number stands for, and when the
two agree.
-/

namespace ReplicaBootstrap.Version

open Text Number

/-- The words of a text without its surrounding blanks: up to `count` of them, then the rest. -/
def wordsThenRest : (count : Nat) → List Char → List (List Char) × List Char
  | 0, cs => ([], cs)
  | count + 1, cs =>
    let word := cs.takeWhile (!isBlank ·)
    let after := (cs.drop word.length).dropWhile isBlank
    let (words, rest) := wordsThenRest count after
    (word :: words, rest)

def dottedDigits (cs : List Char) : Option (List Char × List Char) :=
  let first := cs.takeWhile isDigit
  match cs.drop first.length with
  | '.' :: rest =>
    let second := rest.takeWhile isDigit
    if first.isEmpty || second.isEmpty then none else some (first, second)
  | _ => none

def parseTool (output : String) : Except (RadixError × String) (Option (List Int)) :=
  match wordsThenRest 2 (trimChars isBlank output.toList) with
  | (words, third) =>
    if words.any List.isEmpty then .ok none
    else
      match dottedDigits third with
      | none => .ok none
      | some (major, minor) => do
        let number (cs : List Char) : Except (RadixError × String) Int :=
          (readInt 10 (String.ofList cs)).mapError (·, String.ofList cs)
        return some [← number major, ← number minor]

/-- The numbers of the major version: one from ten on, two before. -/
def ofServer (number : Int) : List Int :=
  if 100000 ≤ number then [number.fdiv 10000]
  else [number.fdiv 10000, (number.fdiv 100).fmod 100]

def text (version : List Int) : String :=
  ".".intercalate (version.map toString)

def agrees (tool server : List Int) : Bool := tool.take server.length == server

end ReplicaBootstrap.Version
