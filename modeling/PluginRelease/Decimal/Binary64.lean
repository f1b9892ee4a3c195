/-!
Binary floating-point numbers with 53 significant bits, as exact integers: a sign and
the 63 bits below it. Those bits grow with the magnitude, so they are compared as
natural numbers, and infinity is the largest. There is no NaN.
-/
namespace PluginRelease

structure Binary64 where
  negative : Bool
  magnitude : Nat
deriving DecidableEq, Repr

namespace Binary64

def infinity : Nat := 0x7FF * Nat.pow 2 52

def zero : Binary64 := ⟨false, 0⟩

def IsZero (x : Binary64) : Prop := x.magnitude = 0

instance (x : Binary64) : Decidable x.IsZero := inferInstanceAs (Decidable (_ = _))

def isFinite (x : Binary64) : Bool := x.magnitude < infinity

/-- The 64 bits of the interchange format. -/
def bits (x : Binary64) : Nat := (if x.negative then Nat.pow 2 63 else 0) + x.magnitude

/-- `num / den` to the nearest integer, a tie to the even one. -/
def roundHalfEven (num den : Nat) : Nat :=
  let q := num / den
  let r := num % den
  if 2 * r < den then q
  else if den < 2 * r then q + 1
  else q + q % 2

/-- The largest `k` with `2 ^ k ≤ num / den`, for positive `num` and `den`. -/
def floorLog2 (num den : Nat) : Int :=
  let k : Int := (Nat.log2 num : Int) - (Nat.log2 den : Int)
  if den * Nat.pow 2 k.toNat ≤ num * Nat.pow 2 (-k).toNat then k else k - 1

/-- The bits of the number nearest to `num / den`. With `e` the weight of the last
significant bit, a significand of 53 bits or fewer counts in units of `2 ^ e`; adding it
to the scaled exponent also carries a significand that rounds up to `2 ^ 53`. -/
def roundMagnitude (num den : Nat) : Nat :=
  if num = 0 then 0
  else
    let e : Int := max (-1074) (floorLog2 num den - 52)
    let m := roundHalfEven (num * Nat.pow 2 (-e).toNat) (den * Nat.pow 2 e.toNat)
    min infinity ((e + 1074).toNat * Nat.pow 2 52 + m)

/-- The significand and the weight of its last bit. -/
def significand (magnitude : Nat) : Nat × Int :=
  let biased : Nat := magnitude / Nat.pow 2 52
  if biased = 0 then (magnitude, -1074)
  else (magnitude % Nat.pow 2 52 + Nat.pow 2 52, (biased : Int) - 1075)

/-- The exact value of a finite magnitude as a fraction. -/
def fraction (magnitude : Nat) : Nat × Nat :=
  let (m, e) := significand magnitude
  (m * Nat.pow 2 e.toNat, Nat.pow 2 (-e).toNat)

/-- The number divided by `n`, rounded once. -/
def divNat (x : Binary64) (n : Nat) : Binary64 :=
  if x.isFinite then
    let (num, den) := fraction x.magnitude
    ⟨x.negative, roundMagnitude num (den * n)⟩
  else x

/-- Order by value: the two zeros are equal. -/
def compare (x y : Binary64) : Ordering :=
  if x.magnitude = 0 ∧ y.magnitude = 0 then .eq
  else match x.negative, y.negative with
    | false, false => Ord.compare x.magnitude y.magnitude
    | true, true => Ord.compare y.magnitude x.magnitude
    | true, false => .lt
    | false, true => .gt

@[simp] theorem compare_self (x : Binary64) : compare x x = .eq := by
  unfold compare
  cases x.negative <;> simp

end Binary64
end PluginRelease
