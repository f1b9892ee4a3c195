import PluginRelease.Text.Digit
import PluginRelease.Text.Split

/-!
Maps on characters as sorted ranges of code points, and sets of characters as maps to nothing.
Ranges are read from rows of text such as `30-39 41 61-66`.
-/
namespace PluginRelease.Text

/-- First and last code point of each range with what it maps to. -/
structure RangeMap (α : Type) where
  entries : Array (Nat × Nat × α)

namespace RangeMap

/-- Ranges in any order. -/
def ofEntries {α : Type} (entries : List (Nat × Nat × α)) : RangeMap α :=
  ⟨(entries.mergeSort fun a b => a.1 ≤ b.1).toArray⟩

/-- Halves the window `lo ≤ i < hi` of candidates until `fuel` runs out. -/
private def search {α : Type} (entries : Array (Nat × Nat × α)) (n : Nat) :
    Nat → Nat → Nat → Option (Nat × α)
  | 0, _, _ => none
  | fuel + 1, lo, hi =>
    if lo < hi then
      let mid := (lo + hi) / 2
      match entries[mid]? with
      | none => none
      | some (a, b, x) =>
        if n < a then search entries n fuel lo mid
        else if b < n then search entries n fuel (mid + 1) hi
        else some (n - a, x)
    else none

/-- What the range of a code point maps to, and how far inside the range it lies. -/
def find? {α : Type} (m : RangeMap α) (n : Nat) : Option (Nat × α) :=
  search m.entries n (m.entries.size + 1) 0 m.entries.size

def get? {α : Type} (m : RangeMap α) (c : Char) : Option α := (m.find? c.toNat).map (·.2)

end RangeMap

def codeOfHex (s : List Char) : Nat := (natOfDigits? 16 s).getD 0

/-- The ends of a range such as `30-39` or `41`. -/
def boundsOf (s : List Char) : Nat × Nat :=
  let a := s.takeWhile (· ≠ '-')
  match s.dropWhile (· ≠ '-') with
  | [] => (codeOfHex a, codeOfHex a)
  | _ :: b => (codeOfHex a, codeOfHex b)

def boundsOfRows (rows : List String) : List (Nat × Nat) :=
  rows.flatMap fun s => (splitOn ' ' s.toList).map boundsOf

/-- A map from the rows of each class. -/
def RangeMap.ofClasses {α : Type} (classes : List (α × List String)) : RangeMap α :=
  .ofEntries (classes.flatMap fun e => (boundsOfRows e.2).map fun r => (r.1, r.2, e.1))

abbrev Ranges := RangeMap Unit

namespace Ranges

def ofRows (rows : List String) : Ranges := .ofClasses [((), rows)]

def contains (r : Ranges) (c : Char) : Bool := (r.find? c.toNat).isSome

end Ranges
end PluginRelease.Text
