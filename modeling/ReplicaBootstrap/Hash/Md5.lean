import ReplicaBootstrap.Text.Quoted

/-! # MD5

The 128-bit digest of RFC 1321 and its hexadecimal text.
-/

namespace ReplicaBootstrap.Md5

structure State where
  a : UInt32
  b : UInt32
  c : UInt32
  d : UInt32
  deriving DecidableEq, Repr

def initial : State := ⟨0x67452301, 0xefcdab89, 0x98badcfe, 0x10325476⟩

def constants : Array UInt32 := #[
    0xd76aa478, 0xe8c7b756, 0x242070db, 0xc1bdceee, 0xf57c0faf, 0x4787c62a, 0xa8304613, 0xfd469501,
    0x698098d8, 0x8b44f7af, 0xffff5bb1, 0x895cd7be, 0x6b901122, 0xfd987193, 0xa679438e, 0x49b40821,
    0xf61e2562, 0xc040b340, 0x265e5a51, 0xe9b6c7aa, 0xd62f105d, 0x02441453, 0xd8a1e681, 0xe7d3fbc8,
    0x21e1cde6, 0xc33707d6, 0xf4d50d87, 0x455a14ed, 0xa9e3e905, 0xfcefa3f8, 0x676f02d9, 0x8d2a4c8a,
    0xfffa3942, 0x8771f681, 0x6d9d6122, 0xfde5380c, 0xa4beea44, 0x4bdecfa9, 0xf6bb4b60, 0xbebfbc70,
    0x289b7ec6, 0xeaa127fa, 0xd4ef3085, 0x04881d05, 0xd9d4d039, 0xe6db99e5, 0x1fa27cf8, 0xc4ac5665,
    0xf4292244, 0x432aff97, 0xab9423a7, 0xfc93a039, 0x655b59c3, 0x8f0ccc92, 0xffeff47d, 0x85845dd1,
    0x6fa87e4f, 0xfe2ce6e0, 0xa3014314, 0x4e0811a1, 0xf7537e82, 0xbd3af235, 0x2ad7d2bb, 0xeb86d391]

def rotations : Array (Array UInt32) :=
  #[#[7, 12, 17, 22], #[5, 9, 14, 20], #[4, 11, 16, 23], #[6, 10, 15, 21]]

def rotateLeft (x n : UInt32) : UInt32 := x <<< n ||| x >>> (32 - n)

/-- The mixing function of round `i` and the message word it uses. -/
def mix (i : Nat) (s : State) : UInt32 × Nat :=
  if i < 16 then ((s.b &&& s.c) ||| (~~~s.b &&& s.d), i)
  else if i < 32 then ((s.d &&& s.b) ||| (~~~s.d &&& s.c), (5 * i + 1) % 16)
  else if i < 48 then (s.b ^^^ s.c ^^^ s.d, (3 * i + 5) % 16)
  else (s.c ^^^ (s.b ||| ~~~s.d), 7 * i % 16)

def round (words : Array UInt32) (s : State) (i : Nat) : State :=
  let (f, g) := mix i s
  let sum := f + s.a + constants[i]?.getD 0 + words[g]?.getD 0
  let turn := ((rotations[i / 16]?.getD #[])[i % 4]?).getD 0
  ⟨s.d, s.b + rotateLeft sum turn, s.b, s.c⟩

def wordOf (bytes : List UInt8) : UInt32 :=
  bytes.reverse.foldl (fun w b => w <<< 8 ||| b.toUInt32) 0

def wordsOf : (count : Nat) → List UInt8 → List UInt32
  | 0, _ => []
  | count + 1, bytes => wordOf (bytes.take 4) :: wordsOf count (bytes.drop 4)

def compress (s : State) (block : List UInt8) : State :=
  let t := (List.range 64).foldl (round (wordsOf 16 block).toArray) s
  ⟨s.a + t.a, s.b + t.b, s.c + t.c, s.d + t.d⟩

def littleEndian : (width n : Nat) → List UInt8
  | 0, _ => []
  | width + 1, n => UInt8.ofNat n :: littleEndian width (n / 256)

/-- The message, a one bit, zeros up to eight bytes before the end of a block, and the length in bits. -/
def pad (bytes : List UInt8) : List UInt8 :=
  bytes ++ 0x80 :: List.replicate ((119 - bytes.length % 64) % 64) 0 ++
    littleEndian 8 (8 * bytes.length)

def compressBlocks (s : State) : (count : Nat) → List UInt8 → State
  | 0, _ => s
  | count + 1, bytes => compressBlocks (compress s (bytes.take 64)) count (bytes.drop 64)

def digest (bytes : List UInt8) : List UInt8 :=
  let padded := pad bytes
  let s := compressBlocks initial (padded.length / 64) padded
  [s.a, s.b, s.c, s.d].flatMap fun w => littleEndian 4 w.toNat

def hexDigest (bytes : List UInt8) : List Char :=
  (digest bytes).flatMap fun b => Text.hexDigits 2 b.toNat

theorem littleEndian_length (width n : Nat) : (littleEndian width n).length = width := by
  induction width generalizing n with
  | zero => rfl
  | succ width ih => simp [littleEndian, ih]

theorem digest_length (bytes : List UInt8) : (digest bytes).length = 16 := by
  simp [digest, littleEndian_length]

theorem hexDigest_length (bytes : List UInt8) : (hexDigest bytes).length = 32 := by
  simp [hexDigest, List.length_flatMap, Text.hexDigits_length, List.map_const', digest_length]

end ReplicaBootstrap.Md5
