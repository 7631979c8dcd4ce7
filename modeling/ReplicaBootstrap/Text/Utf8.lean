/-! # Reading UTF-8

Strict reading of bytes as UTF-8, with the place and the reason of the first failure.
-/

namespace ReplicaBootstrap.Text

inductive Utf8Error where
  | badStart (byte : UInt8) (position : Nat)
  | badContinuation (byte : UInt8) (position length : Nat)
  | truncated (byte : UInt8) (position length : Nat)
  deriving DecidableEq, Repr

/-- Whether the byte after `lead` lies where `lead` allows: no overlong form, no surrogate, nothing
above U+10FFFF. -/
def secondByteFits (lead second : UInt8) : Bool :=
  if lead == 0xe0 then 0xa0 ≤ second && second ≤ 0xbf
  else if lead == 0xed then 0x80 ≤ second && second ≤ 0x9f
  else if lead == 0xf0 then 0x90 ≤ second && second ≤ 0xbf
  else if lead == 0xf4 then 0x80 ≤ second && second ≤ 0x8f
  else 0x80 ≤ second && second ≤ 0xbf

def isContinuation (b : UInt8) : Bool := 0x80 ≤ b && b ≤ 0xbf

def sequenceLength? (lead : UInt8) : Option Nat :=
  if lead < 0x80 then some 1
  else if 0xc2 ≤ lead && lead ≤ 0xdf then some 2
  else if 0xe0 ≤ lead && lead ≤ 0xef then some 3
  else if 0xf0 ≤ lead && lead ≤ 0xf4 then some 4
  else none

/-- How many of the bytes after `lead` continue its character, at most `missing`. -/
def goodContinuations (lead : UInt8) (missing : Nat) (rest : List UInt8) : Nat :=
  match rest.take missing with
  | [] => 0
  | second :: more =>
    if secondByteFits lead second then 1 + (more.takeWhile isContinuation).length else 0

def assemble (lead : UInt8) (tail : List UInt8) : Char :=
  let top := match tail.length with
    | 0 => lead.toNat
    | 1 => lead.toNat % 32
    | 2 => lead.toNat % 16
    | _ => lead.toNat % 8
  Char.ofNat (tail.foldl (fun n b => n * 64 + b.toNat % 64) top)

def decodeUtf8From (position : Nat) (bytes : List UInt8) : Except Utf8Error (List Char) :=
  match bytes with
  | [] => .ok []
  | lead :: rest =>
    match sequenceLength? lead with
    | none => .error (.badStart lead position)
    | some length =>
      let good := goodContinuations lead (length - 1) rest
      if good + 1 = length then
        match decodeUtf8From (position + length) (rest.drop (length - 1)) with
        | .ok cs => .ok (assemble lead (rest.take (length - 1)) :: cs)
        | .error e => .error e
      else if rest.length ≤ good then .error (.truncated lead position (good + 1))
      else .error (.badContinuation lead position (good + 1))
termination_by bytes.length
decreasing_by
  rw [List.length_drop, List.length_cons]
  omega

def decodeUtf8 (bytes : List UInt8) : Except Utf8Error String :=
  (decodeUtf8From 0 bytes).map String.ofList

def encodeUtf8 (s : String) : List UInt8 :=
  s.toUTF8.toList

end ReplicaBootstrap.Text
