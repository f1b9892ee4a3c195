import PluginRelease.Decimal.Binary64
import PluginRelease.Text.Digit

/-!
Decimal numerals and the nearest binary number. A numeral is read as an exact
coefficient and a power of ten, and rounded once.
-/
namespace PluginRelease

structure Decimal where
  negative : Bool
  coefficient : Nat
  exponent : Int
deriving DecidableEq, Repr

namespace Decimal
open Text

/-- A value from `10 ^ 310` on is infinite and one below `10 ^ -330` is zero, so the
power of ten stays small. -/
def toBinary64 (d : Decimal) : Binary64 :=
  let digits : Int := (Nat.toDigits 10 d.coefficient).length
  if d.coefficient = 0 then ⟨d.negative, 0⟩
  else if 310 < digits + d.exponent then ⟨d.negative, Binary64.infinity⟩
  else if digits + d.exponent < -330 then ⟨d.negative, 0⟩
  else ⟨d.negative, Binary64.roundMagnitude (d.coefficient * Nat.pow 10 d.exponent.toNat)
    (Nat.pow 10 (-d.exponent).toNat)⟩

/-- An optional sign: whether it is a minus, and the rest. -/
def takeSign : List Char → Bool × List Char
  | '-' :: s => (true, s)
  | '+' :: s => (false, s)
  | s => (false, s)

def ofParts (negative : Bool) (whole part : List Char) (exponent : Int) : Decimal :=
  ⟨negative, decimalValue (whole ++ part), exponent - part.length⟩

def exponentValue? (s : List Char) : Option Int :=
  let (negative, ds) := takeSign s
  if ds.isEmpty || !ds.all Char.isDigit then none
  else some (if negative then -(decimalValue ds : Int) else decimalValue ds)

/-- A numeral: a sign, digits with at most one point among them and at least one digit
in all, and an exponent. -/
def parse? (s : List Char) : Option Decimal :=
  let (negative, s) := takeSign s
  let whole := s.takeWhile Char.isDigit
  let s := s.dropWhile Char.isDigit
  let (part, s) := match s with
    | '.' :: r => (r.takeWhile Char.isDigit, r.dropWhile Char.isDigit)
    | _ => ([], s)
  if whole.isEmpty && part.isEmpty then none
  else match s with
    | [] => some (ofParts negative whole part 0)
    | c :: r =>
      if c = 'e' ∨ c = 'E' then (exponentValue? r).map (ofParts negative whole part)
      else none

end Decimal
end PluginRelease
