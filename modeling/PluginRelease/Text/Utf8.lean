/-!
UTF-8. Decoding cuts bytes into pieces: a character, or a maximal part of one that
breaks off. Strict decoding refuses broken pieces, lossy decoding puts the
replacement character in the place of each.
-/
namespace PluginRelease

abbrev Bytes := List UInt8

namespace Utf8

def encode (s : List Char) : Bytes := s.flatMap String.utf8EncodeChar

def ofText (s : String) : Bytes := encode s.toList

/-- What the first byte of a longer character says: how many bytes follow, and the
range of the first of them. -/
def lead (b : UInt8) : Option (Nat × UInt8 × UInt8) :=
  if 0xC2 ≤ b ∧ b ≤ 0xDF then some (1, 0x80, 0xBF)
  else if b = 0xE0 then some (2, 0xA0, 0xBF)
  else if b = 0xED then some (2, 0x80, 0x9F)
  else if 0xE1 ≤ b ∧ b ≤ 0xEF then some (2, 0x80, 0xBF)
  else if b = 0xF0 then some (3, 0x90, 0xBF)
  else if b = 0xF4 then some (3, 0x80, 0x8F)
  else if 0xF1 ≤ b ∧ b ≤ 0xF3 then some (3, 0x80, 0xBF)
  else none

def payload (b : UInt8) : Nat := b.toNat % 64

/-- `none` stands for a broken piece. -/
def pieces : Bytes → List (Option Char)
  | [] => []
  | b :: bs =>
    if b < 0x80 then some (Char.ofNat b.toNat) :: pieces bs
    else match lead b with
      | none => none :: pieces bs
      | some (n, lo, hi) =>
        match bs with
        | [] => [none]
        | c :: cs =>
          if c < lo ∨ hi < c then none :: pieces (c :: cs)
          else if n = 1 then some (Char.ofNat (b.toNat % 32 * 64 + payload c)) :: pieces cs
          else match cs with
            | [] => [none]
            | d :: ds =>
              if d < 0x80 ∨ 0xBF < d then none :: pieces (d :: ds)
              else if n = 2 then
                some (Char.ofNat ((b.toNat % 16 * 64 + payload c) * 64 + payload d)) :: pieces ds
              else match ds with
                | [] => [none]
                | e :: es =>
                  if e < 0x80 ∨ 0xBF < e then none :: pieces (e :: es)
                  else some (Char.ofNat
                    (((b.toNat % 8 * 64 + payload c) * 64 + payload d) * 64 + payload e)) ::
                      pieces es
  termination_by bs => bs.length

def replacement : Char := Char.ofNat 0xFFFD

def decode? (bs : Bytes) : Option (List Char) := (pieces bs).mapM id

def decodeLossy (bs : Bytes) : List Char := (pieces bs).map fun c => c.getD replacement

@[simp] theorem decodeLossy_nil : decodeLossy [] = [] := by simp [decodeLossy, pieces]

def text? (bs : Bytes) : Option String := (decode? bs).map String.ofList

/-- The text that bytes are shown as. -/
def shown (bs : Bytes) : String := String.ofList (decodeLossy bs)

end Utf8
end PluginRelease
