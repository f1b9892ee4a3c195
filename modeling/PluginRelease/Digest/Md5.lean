import PluginRelease.Text.Utf8

/-!
The MD5 digest. The message is closed by a one bit, zeros and its length in bits, and
each block of sixteen little-endian words goes through four rounds of sixteen steps.
-/
namespace PluginRelease.Md5

structure State where
  a : UInt32
  b : UInt32
  c : UInt32
  d : UInt32

def initial : State := ⟨0x67452301, 0xEFCDAB89, 0x98BADCFE, 0x10325476⟩

/-- Left rotations, four per round. -/
def shifts : List (List UInt32) :=
  [[7, 12, 17, 22], [5, 9, 14, 20], [4, 11, 16, 23], [6, 10, 15, 21]]

/-- The whole part of `2 ^ 32 * |sin (i + 1)|`. -/
def sines : List UInt32 :=
  [0xD76AA478, 0xE8C7B756, 0x242070DB, 0xC1BDCEEE, 0xF57C0FAF, 0x4787C62A, 0xA8304613, 0xFD469501,
    0x698098D8, 0x8B44F7AF, 0xFFFF5BB1, 0x895CD7BE, 0x6B901122, 0xFD987193, 0xA679438E, 0x49B40821,
    0xF61E2562, 0xC040B340, 0x265E5A51, 0xE9B6C7AA, 0xD62F105D, 0x02441453, 0xD8A1E681, 0xE7D3FBC8,
    0x21E1CDE6, 0xC33707D6, 0xF4D50D87, 0x455A14ED, 0xA9E3E905, 0xFCEFA3F8, 0x676F02D9, 0x8D2A4C8A,
    0xFFFA3942, 0x8771F681, 0x6D9D6122, 0xFDE5380C, 0xA4BEEA44, 0x4BDECFA9, 0xF6BB4B60, 0xBEBFBC70,
    0x289B7EC6, 0xEAA127FA, 0xD4EF3085, 0x04881D05, 0xD9D4D039, 0xE6DB99E5, 0x1FA27CF8, 0xC4AC5665,
    0xF4292244, 0x432AFF97, 0xAB9423A7, 0xFC93A039, 0x655B59C3, 0x8F0CCC92, 0xFFEFF47D, 0x85845DD1,
    0x6FA87E4F, 0xFE2CE6E0, 0xA3014314, 0x4E0811A1, 0xF7537E82, 0xBD3AF235, 0x2AD7D2BB, 0xEB86D391]

def rotate (x s : UInt32) : UInt32 := (x <<< s) ||| (x >>> (32 - s))

/-- Mixing function and word index of step `i`. -/
def mix (i : Nat) (s : State) : UInt32 × Nat :=
  match i / 16 with
  | 0 => ((s.b &&& s.c) ||| ((~~~ s.b) &&& s.d), i)
  | 1 => ((s.d &&& s.b) ||| ((~~~ s.d) &&& s.c), (5 * i + 1) % 16)
  | 2 => (s.b ^^^ s.c ^^^ s.d, (3 * i + 5) % 16)
  | _ => (s.c ^^^ (s.b ||| (~~~ s.d)), 7 * i % 16)

def shiftAt (i : Nat) : UInt32 := (shifts.getD (i / 16) []).getD (i % 4) 0

def step (block : Array UInt32) (s : State) (i : Nat) (sine : UInt32) : State :=
  let (f, g) := mix i s
  let x := f + s.a + sine + block.getD g 0
  ⟨s.d, s.b + rotate x (shiftAt i), s.b, s.c⟩

def addBlock (s : State) (block : Array UInt32) : State :=
  let t := sines.zipIdx.foldl (fun t p => step block t p.2 p.1) s
  ⟨s.a + t.a, s.b + t.b, s.c + t.c, s.d + t.d⟩

/-- `n` in `count` bytes, the lowest first. -/
def littleEndian : Nat → Nat → Bytes
  | 0, _ => []
  | count + 1, n => UInt8.ofNat (n % 256) :: littleEndian count (n / 256)

@[simp] theorem littleEndian_length (count n : Nat) : (littleEndian count n).length = count := by
  induction count generalizing n with
  | zero => rfl
  | succ k ih => simp [littleEndian, ih]

/-- The message closed by its padding: a multiple of 64 bytes. -/
def padded (m : Bytes) : Bytes :=
  m ++ 0x80 :: List.replicate ((119 - m.length % 64) % 64) 0 ++ littleEndian 8 (8 * m.length)

def word : Bytes → UInt32
  | [] => 0
  | b :: bs => b.toUInt32 ||| (word bs <<< 8)

/-- Sixteen words from each full group of 64 bytes. -/
def blocks (m : Bytes) : List (Array UInt32) :=
  go (m.length / 64) m
where
  words : Nat → Bytes → List UInt32
    | 0, _ => []
    | n + 1, bs => word (bs.take 4) :: words n (bs.drop 4)
  go : Nat → Bytes → List (Array UInt32)
    | 0, _ => []
    | n + 1, bs => (words 16 bs).toArray :: go n (bs.drop 64)

/-- The sixteen bytes of the digest. -/
def digest (m : Bytes) : Bytes :=
  let s := (blocks (padded m)).foldl addBlock initial
  [s.a, s.b, s.c, s.d].flatMap fun w => littleEndian 4 w.toNat

theorem digest_length (m : Bytes) : (digest m).length = 16 := by
  simp [digest]

def hexDigit (n : Nat) : Char :=
  if n < 10 then Char.ofNat (48 + n) else Char.ofNat (87 + n)

/-- Two lower-case hexadecimal digits for each byte. -/
def hex (bs : Bytes) : List Char :=
  bs.flatMap fun b => [hexDigit (b.toNat / 16), hexDigit (b.toNat % 16)]

theorem hex_length (bs : Bytes) : (hex bs).length = 2 * bs.length := by
  induction bs with
  | nil => rfl
  | cons b bs ih => simp only [hex, List.flatMap_cons, List.length_append] at ih ⊢; simp [ih]; omega

/-- The digest as 32 hexadecimal digits. -/
def hexDigest (m : Bytes) : String := String.ofList (hex (digest m))

theorem hexDigest_length (m : Bytes) : (hexDigest m).toList.length = 32 := by
  rw [hexDigest, String.toList_ofList, hex_length, digest_length]

end PluginRelease.Md5
