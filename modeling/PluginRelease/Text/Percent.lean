import PluginRelease.Text.Digit
import PluginRelease.Text.Utf8

/-!
Percent-encoding. Controls and all beyond ASCII are always encoded, and so are the marks of a
set; decoding takes every `%` that two digits follow.
-/
namespace PluginRelease.Text.Percent

def encodeByte (b : UInt8) : List Char := '%' :: hexDigits true 2 b.toNat

/-- Characters that stand for themselves beside the marks of a set. -/
def isPlain (marks : List Char) (c : Char) : Bool :=
  0x20 ≤ c.toNat && c.toNat < 0x7F && !marks.contains c

def encodeChar (marks : List Char) (c : Char) : List Char :=
  if isPlain marks c then [c] else (Utf8.encode [c]).flatMap encodeByte

def encode (marks : List Char) (s : List Char) : List Char := s.flatMap (encodeChar marks)

private def digitOf? (b : UInt8) : Option Nat := hexDigitValue? (Char.ofNat b.toNat)

def decode : Bytes → Bytes
  | 0x25 :: a :: b :: r =>
    match digitOf? a, digitOf? b with
    | some x, some y => (16 * x + y).toUInt8 :: decode r
    | _, _ => 0x25 :: decode (a :: b :: r)
  | b :: r => b :: decode r
  | [] => []

end PluginRelease.Text.Percent
