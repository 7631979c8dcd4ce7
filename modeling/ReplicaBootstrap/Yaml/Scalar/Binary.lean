/-! # Bytes in documents

Bytes are written with sixty-four characters, four for three bytes, and filled up at the end.
Characters outside of the alphabet are passed over.
-/

namespace ReplicaBootstrap.Yaml

def sixBits? (c : Char) : Option Nat :=
  if 'A' ≤ c && c ≤ 'Z' then some (c.toNat - 65)
  else if 'a' ≤ c && c ≤ 'z' then some (c.toNat - 71)
  else if c.isDigit then some (c.toNat + 4)
  else if c = '+' then some 62
  else if c = '/' then some 63
  else none

/-- The bytes of characters, where the group in progress has `count` characters whose last bits not
yet used are `bits`, and `fills` fill characters have come since. The group is complete when filled
up; without that it must not be left incomplete. -/
def decodeGroups (count bits fills : Nat) : List Char → Option (List UInt8)
  | [] => if count = 0 then some [] else none
  | c :: rest =>
    if c = '=' then
      if 2 ≤ count then
        if 4 ≤ count + fills + 1 then some [] else decodeGroups count bits (fills + 1) rest
      else decodeGroups count bits fills rest
    else
      match sixBits? c with
      | none => decodeGroups count bits fills rest
      | some n =>
        let byte (b : Nat) := UInt8.ofNat b
        match count with
        | 0 => decodeGroups 1 n 0 rest
        | 1 => (decodeGroups 2 (n % 16) 0 rest).map (byte (bits * 4 + n / 16) :: ·)
        | 2 => (decodeGroups 3 (n % 4) 0 rest).map (byte (bits * 16 + n / 4) :: ·)
        | _ => (decodeGroups 0 0 0 rest).map (byte (bits * 64 + n) :: ·)

def decodeBase64? (s : String) : Option (List UInt8) :=
  if s.toList.all (·.toNat < 128) then decodeGroups 0 0 0 s.toList else none

end ReplicaBootstrap.Yaml
