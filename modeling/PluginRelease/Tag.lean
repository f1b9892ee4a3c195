import PluginRelease.Text.Blank
import PluginRelease.Decimal.Reading

/-!
Release tags and their order. A tag of digits, perhaps after a `v`, counts in hundredths;
any other tag has the value of the number it starts with, or zero. Tags that are worth
zero are ordered by name.
-/
namespace PluginRelease.Tag
open Text

/-- Further digits of a group in which single underscores may stand between digits. -/
def groupTail : List Char → List Char × List Char
  | [] => ([], [])
  | '_' :: c :: cs =>
    if isDecimalDigit c then (c :: (groupTail cs).1, (groupTail cs).2) else ([], '_' :: c :: cs)
  | c :: cs =>
    if isDecimalDigit c then (c :: (groupTail cs).1, (groupTail cs).2) else ([], c :: cs)

/-- A group of digits without its underscores, and what follows it. -/
def group? : List Char → Option (List Char × List Char)
  | [] => none
  | c :: cs =>
    if isDecimalDigit c then some (c :: (groupTail cs).1, (groupTail cs).2) else none

def takeSign : List Char → List Char × List Char
  | '+' :: s => (['+'], s)
  | '-' :: s => (['-'], s)
  | s => ([], s)

/-- A point with a group after it. -/
def pointGroup? : List Char → Option (List Char × List Char)
  | '.' :: s => (group? s).map fun g => ('.' :: g.1, g.2)
  | _ => none

def mantissa? (s : List Char) : Option (List Char × List Char) :=
  match group? s with
  | some (whole, r) =>
    match pointGroup? r with
    | some (part, r) => some (whole ++ part, r)
    | none => some (whole, r)
  | none => pointGroup? s

/-- An exponent, or nothing. -/
def exponent (s : List Char) : List Char :=
  match s with
  | [] => []
  | c :: r =>
    if c = 'e' ∨ c = 'E' then
      match group? (takeSign r).2 with
      | some (digits, _) => c :: (takeSign r).1 ++ digits
      | none => []
    else []

/-- The longest numeral at the start of a text, blanks before it skipped. -/
def numeral? (s : List Char) : Option (List Char) :=
  let (sign, r) := takeSign (trimStart s)
  (mantissa? r).map fun m => sign ++ m.1 ++ exponent m.2

/-- The digits of a tag that counts in hundredths. -/
def hundredths? (s : List Char) : Option (List Char) :=
  let digits := if s.head? = some 'v' then s.tail else s
  if !digits.isEmpty && digits.all isDecimalDigit then some digits else none

/-- Numerals with digits beyond ASCII count as zero. -/
def numeralValue (s : List Char) : Binary64 :=
  ((Decimal.parse? s).map Decimal.toBinary64).getD .zero

def value (tag : String) : Binary64 :=
  match hundredths? tag.toList with
  | some digits => (numeralValue digits).divNat 100
  | none => ((numeral? tag.toList).map numeralValue).getD .zero

def compare (a b : String) : Ordering :=
  if (value a).IsZero ∧ (value b).IsZero then Ord.compare a b
  else (value a).compare (value b)

/-- Lowest first; equal tags keep their order. -/
def sort (tags : List String) : List String :=
  tags.mergeSort fun a b => compare a b != .gt

def latest? (tags : List String) : Option String := (sort tags).getLast?

end PluginRelease.Tag
