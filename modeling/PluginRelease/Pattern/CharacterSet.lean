import PluginRelease.Text.Blank
import PluginRelease.Text.Category
import PluginRelease.Text.Folding
import PluginRelease.Text.Ranges
import PluginRelease.Text.Script

/-!
Sets of characters as ranges of code points, with the operations of character classes and the
sets that have names.
-/
namespace PluginRelease.Pattern
open Text

structure CharacterSet where
  ranges : List (Nat × Nat)
deriving Repr

namespace CharacterSet

def contains (s : CharacterSet) (c : Char) : Bool :=
  s.ranges.any fun r => r.1 ≤ c.toNat && c.toNat ≤ r.2

def empty : CharacterSet := ⟨[]⟩

def ofRange (a b : Char) : CharacterSet := ⟨[(a.toNat, b.toNat)]⟩

def ofChar (c : Char) : CharacterSet := ofRange c c

def lastCode : Nat := 0x10FFFF

def all : CharacterSet := ⟨[(0, lastCode)]⟩

/-- Joins sorted ranges that meet; `(a, b)` comes before all others. -/
def mergeFrom (a b : Nat) : List (Nat × Nat) → List (Nat × Nat)
  | [] => [(a, b)]
  | r :: rs =>
    if r.1 ≤ b + 1 then mergeFrom a (max b r.2) rs else (a, b) :: mergeFrom r.1 r.2 rs

def sorted (rs : List (Nat × Nat)) : List (Nat × Nat) :=
  match rs.mergeSort fun a b => a.1 ≤ b.1 with
  | [] => []
  | r :: rs => mergeFrom r.1 r.2 rs

def union (s t : CharacterSet) : CharacterSet := ⟨sorted (s.ranges ++ t.ranges)⟩

/-- The gaps between sorted ranges, from `start` on. -/
def gaps (start : Nat) : List (Nat × Nat) → List (Nat × Nat)
  | [] => if start ≤ lastCode then [(start, lastCode)] else []
  | r :: rs => if start < r.1 then (start, r.1 - 1) :: gaps (r.2 + 1) rs else gaps (r.2 + 1) rs

def complement (s : CharacterSet) : CharacterSet := ⟨gaps 0 (sorted s.ranges)⟩

def intersection (s t : CharacterSet) : CharacterSet :=
  (s.complement.union t.complement).complement

def difference (s t : CharacterSet) : CharacterSet := s.intersection t.complement

def symmetricDifference (s t : CharacterSet) : CharacterSet :=
  (s.difference t).union (t.difference s)

private def containsCode (s : CharacterSet) (n : Nat) : Bool :=
  s.ranges.any fun r => r.1 ≤ n && n ≤ r.2

/-- With every character all that differ from it in case only. -/
def foldCase (s : CharacterSet) : CharacterSet :=
  let more := (foldingGroups.filter fun g => g.any s.containsCode).flatten
  s.union ⟨more.map fun n => (n, n)⟩

def ofRows (rows : List String) : CharacterSet := ⟨boundsOfRows rows⟩

/-! ## Named sets -/

/-- A name without case, spaces, hyphens and underscores, and without an `is` before it. -/
def plainName (name : List Char) : List Char :=
  let n := (name.filter fun c => !(c == ' ' || c == '-' || c == '_' || isBlank c)).map Char.toLower
  match n with
  | ['i', 's', 'c'] => n
  | 'i' :: 's' :: r => r
  | n => n

private def hasName (name : List Char) (names : String) : Bool :=
  (splitOn ' ' names.toList).any fun n => plainName n == name

private def lookUp? (table : List (String × List String)) (name : List Char) :
    Option CharacterSet :=
  (table.find? fun e => hasName name e.1).map fun e => ofRows e.2

def category (short : String) : CharacterSet :=
  match categoryRows.find? fun e => short.toList.isPrefixOf e.1.toList with
  | some e => ofRows e.2
  | none => empty

/-- Categories that stand for several others, with their names. -/
def categoryGroups : List (String × List String) :=
  [("L Letter", ["Lu", "Ll", "Lt", "Lm", "Lo"]),
    ("LC Cased_Letter", ["Lu", "Ll", "Lt"]),
    ("M Mark Combining_Mark", ["Mn", "Mc", "Me"]),
    ("N Number", ["Nd", "Nl", "No"]),
    ("P Punctuation punct", ["Pc", "Pd", "Ps", "Pe", "Pi", "Pf", "Po"]),
    ("S Symbol", ["Sm", "Sc", "Sk", "So"]),
    ("Z Separator", ["Zs", "Zl", "Zp"])]

def group (shorts : List String) : CharacterSet :=
  shorts.foldl (fun s c => s.union (category c)) empty

def assigned : CharacterSet := group (categoryRows.map fun e => String.ofList (e.1.toList.take 2))

def letters : CharacterSet := group ["Lu", "Ll", "Lt", "Lm", "Lo"]

def category? (name : List Char) : Option CharacterSet :=
  match lookUp? categoryRows name with
  | some s => some s
  | none =>
    match categoryGroups.find? fun e => hasName name e.1 with
    | some e => some (group e.2)
    | none =>
      if name = "any".toList then some all
      else if name = "ascii".toList then some ⟨[(0, 0x7F)]⟩
      else if name = "assigned".toList then some assigned
      else if hasName name "Cn Unassigned" then some assigned.complement
      else if hasName name "C Other" then
        some (assigned.complement.union (group ["Cc", "Cf", "Co"]))
      else if hasName name "Cs Surrogate" then some empty
      else none

def script? (name : List Char) : Option CharacterSet := lookUp? scriptRows name

def alphabetic : CharacterSet :=
  (letters.union (category "Nl")).union (ofRows otherAlphabeticRows)

def blank : CharacterSet := ⟨blankRanges⟩

def decimalDigit : CharacterSet := category "Nd"

/-- Characters of words: alphabetic ones, marks, digits, connectors and joiners. -/
def word : CharacterSet :=
  ((alphabetic.union (group ["Mn", "Mc", "Me", "Nd", "Pc"]))).union ⟨[(0x200C, 0x200D)]⟩

def property? (name : List Char) : Option CharacterSet :=
  let is (names : String) := hasName name names
  if is "Alphabetic alpha" then some alphabetic
  else if is "Uppercase upper" then some ((category "Lu").union (ofRows otherUppercaseRows))
  else if is "Lowercase lower" then some ((category "Ll").union (ofRows otherLowercaseRows))
  else if is "White_Space wspace space" then some blank
  else if is "ASCII_Hex_Digit ahex" then some ⟨[(0x30, 0x39), (0x41, 0x46), (0x61, 0x66)]⟩
  else if is "Hex_Digit hex" then
    some ⟨[(0x30, 0x39), (0x41, 0x46), (0x61, 0x66), (0xFF10, 0xFF19), (0xFF21, 0xFF26),
      (0xFF41, 0xFF46)]⟩
  else if is "Join_Control joinc" then some ⟨[(0x200C, 0x200D)]⟩
  else none

/-- The set that a name stands for: a property, a category or a script, in this order. -/
def named? (name : List Char) : Option CharacterSet :=
  let n := plainName name
  let ambiguous := [['c', 'f'], ['s', 'c'], ['l', 'c']]
  ((if ambiguous.contains n then none else property? n).or (category? n)).or (script? n)

/-- The set that a property and its value stand for. -/
def valued? (property value : List Char) : Option CharacterSet :=
  let p := plainName property
  let v := plainName value
  if hasName p "General_Category gc" then category? v
  else if hasName p "Script sc" then script? v
  else if hasName p "Script_Extensions scx" then script? v
  else none

/-- The sets that class brackets know by an ASCII name. -/
def posix? (name : List Char) : Option CharacterSet :=
  let lower : Nat × Nat := (0x61, 0x7A)
  let upper : Nat × Nat := (0x41, 0x5A)
  let digit : Nat × Nat := (0x30, 0x39)
  match String.ofList name with
  | "alnum" => some ⟨[digit, upper, lower]⟩
  | "alpha" => some ⟨[upper, lower]⟩
  | "ascii" => some ⟨[(0, 0x7F)]⟩
  | "blank" => some ⟨[(0x09, 0x09), (0x20, 0x20)]⟩
  | "cntrl" => some ⟨[(0, 0x1F), (0x7F, 0x7F)]⟩
  | "digit" => some ⟨[digit]⟩
  | "graph" => some ⟨[(0x21, 0x7E)]⟩
  | "lower" => some ⟨[lower]⟩
  | "print" => some ⟨[(0x20, 0x7E)]⟩
  | "punct" => some ⟨[(0x21, 0x2F), (0x3A, 0x40), (0x5B, 0x60), (0x7B, 0x7E)]⟩
  | "space" => some ⟨[(0x09, 0x0D), (0x20, 0x20)]⟩
  | "upper" => some ⟨[upper]⟩
  | "word" => some ⟨[digit, upper, (0x5F, 0x5F), lower]⟩
  | "xdigit" => some ⟨[digit, (0x41, 0x46), (0x61, 0x66)]⟩
  | _ => none

end CharacterSet
end PluginRelease.Pattern
