import PluginRelease.Decimal.Binary64

/-!
The shortest decimal that reads back as a given binary number, and the two layouts in
which numbers are shown.
-/
namespace PluginRelease.Decimal.Shortest
open Binary64

/-- The fraction `n * 10 ^ k`. -/
def gridPoint (n : Nat) (k : Int) : Nat × Nat := (n * Nat.pow 10 k.toNat, Nat.pow 10 (-k).toNat)

def readsBack (magnitude n : Nat) (k : Int) : Bool :=
  let (num, den) := gridPoint n k
  roundMagnitude num den == magnitude

/-- Twice the distance of `num / den` from the grid point, over a common denominator. -/
def distance (num den n : Nat) (k : Int) : Nat :=
  let (a, b) := gridPoint n k
  let x := num * b
  let y := a * den
  if x ≤ y then y - x else x - y

/-- The neighbour of the value on the grid of step `10 ^ k` that reads back, the nearer
one if both do, and the even one of two equally near. -/
def onGrid (magnitude : Nat) (k : Int) : Option Nat :=
  let (num, den) := fraction magnitude
  let low := num * Nat.pow 10 (-k).toNat / (den * Nat.pow 10 k.toNat)
  match readsBack magnitude low k && low != 0, readsBack magnitude (low + 1) k with
  | true, true =>
    let a := distance num den low k
    let b := distance num den (low + 1) k
    if a < b then some low
    else if b < a then some (low + 1)
    else some (low + low % 2)
  | true, false => some low
  | false, true => some (low + 1)
  | false, false => none

/-- Tries coarse grids first: `fuel` steps down from `10 ^ k`. -/
def searchGrid (magnitude : Nat) : Nat → Int → Nat × Int
  | 0, k => (0, k)
  | fuel + 1, k =>
    match onGrid magnitude k with
    | some n => (n, k)
    | none => searchGrid magnitude fuel (k - 1)

/-- Coefficient and power of ten of the shortest decimal of a positive finite magnitude. -/
def digits (magnitude : Nat) : Nat × Int :=
  let (num, den) := fraction magnitude
  let top : Int := (floorLog2 num den * 30103).fdiv 100000 + 2
  searchGrid magnitude 20 top

private def strip (fuel n : Nat) (k : Int) : Nat × Int :=
  match fuel with
  | 0 => (n, k)
  | fuel + 1 => if n ≠ 0 ∧ n % 10 = 0 then strip fuel (n / 10) (k + 1) else (n, k)

private def zeros (n : Nat) : List Char := List.replicate n '0'

/-- Digits with a point after the first `point` of them. -/
private def positional (ds : List Char) (point : Int) : List Char :=
  if point ≤ 0 then ['0', '.'] ++ zeros (-point).toNat ++ ds
  else if (ds.length : Int) ≤ point then ds ++ zeros (point.toNat - ds.length) ++ ['.', '0']
  else ds.take point.toNat ++ ['.'] ++ ds.drop point.toNat

private def scientific (ds : List Char) (point : Int) : List Char :=
  let e := point - 1
  let mantissa := match ds with
    | [] => []
    | [d] => [d]
    | d :: r => d :: '.' :: r
  mantissa ++ ['e'] ++ (toString e).toList

/-- Where positional notation ends: exponents outside `low < point ≤ high` are written
with an `e`. -/
structure Layout where
  low : Int
  high : Int

/-- Compact numbers switch to an exponent below `1e-5` and from `1e16` on. -/
def compact : Layout := ⟨-5, 16⟩

/-- Plain numbers never use an exponent. -/
def plain : Layout := ⟨-400, 400⟩

def render (layout : Layout) (magnitude : Nat) : List Char :=
  if magnitude = 0 then ['0', '.', '0']
  else
    let (n, k) := digits magnitude
    let (n, k) := strip 20 n k
    let ds := Nat.toDigits 10 n
    let point := k + ds.length
    if layout.low < point ∧ point ≤ layout.high then positional ds point
    else scientific ds point

/-- A finite number with its sign. -/
def text (layout : Layout) (x : Binary64) : String :=
  String.ofList ((if x.negative then ['-'] else []) ++ render layout x.magnitude)

end PluginRelease.Decimal.Shortest
