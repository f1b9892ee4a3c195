import PluginRelease.Html.ReferenceNames
import PluginRelease.Text.Digit
import PluginRelease.Text.Split

/-!
Character references. The longest name counts; without its semicolon a name counts only if it
may, and in the value of an attribute only if no letter, digit or `=` follows.
-/
namespace PluginRelease.Html.Reference
open Text

private def entryOf (s : List Char) : List Char × List Char :=
  let name := s.takeWhile (· ≠ '=')
  let codes := splitOn '+' (s.drop (name.length + 1))
  (name, codes.map fun c => Char.ofNat ((natOfDigits? 16 c).getD 0))

private def spellings (s : List Char) : List (List Char × List Char) :=
  match entryOf s with
  | ('*' :: name, value) => [(name ++ [';'], value), (name, value)]
  | (name, value) => [(name ++ [';'], value)]

def names : List (List Char × List Char) :=
  referenceRows.flatMap fun r => (splitOn ' ' r.toList).flatMap spellings

/-- What the numbers of the C1 controls stand for, from 80 to 9F. -/
def control1 : List Nat :=
  [0x20AC, 0x81, 0x201A, 0x0192, 0x201E, 0x2026, 0x2020, 0x2021, 0x02C6, 0x2030, 0x0160, 0x2039,
    0x0152, 0x8D, 0x017D, 0x8F, 0x90, 0x2018, 0x2019, 0x201C, 0x201D, 0x2022, 0x2013, 0x2014,
    0x02DC, 0x2122, 0x0161, 0x203A, 0x0153, 0x9D, 0x017E, 0x0178]

def replacement : Char := Char.ofNat 0xFFFD

/-- No character has the number 0, that of a surrogate, or one beyond the last. -/
def ofNumber (n : Nat) : Char :=
  if n = 0 ∨ 0x10FFFF < n ∨ (0xD800 ≤ n ∧ n < 0xE000) then replacement
  else if 0x80 ≤ n ∧ n ≤ 0x9F then Char.ofNat ((control1[n - 0x80]?).getD n)
  else Char.ofNat n

/-- A reference: what it stands for, and how many characters after the `&` it takes. -/
structure Match where
  value : List Char
  size : Nat
deriving DecidableEq, Repr

def number? (base skipped : Nat) (s : List Char) : Option Match := do
  let digits := s.takeWhile fun c => ((hexDigitValue? c).any (· < base))
  let n ← natOfDigits? base digits
  let size := skipped + digits.length
  pure ⟨[ofNumber n], if (s.drop digits.length).head? = some ';' then size + 1 else size⟩

def longer (a : Option (List Char × List Char)) (b : List Char × List Char) :
    Option (List Char × List Char) :=
  match a with
  | none => some b
  | some x => if x.1.length < b.1.length then some b else some x

def name? (inAttribute : Bool) (s : List Char) : Option Match := do
  let (name, value) ← (names.filter (·.1.isPrefixOf s)).foldl longer none
  let barred := inAttribute && name.getLast? ≠ some ';' &&
    (s.drop name.length).head?.any fun c => c.isAlphanum || c = '='
  if barred then none else pure ⟨value, name.length⟩

/-- The reference at the start of a text, after its `&`. -/
def read? (inAttribute : Bool) (s : List Char) : Option Match :=
  match s with
  | '#' :: 'x' :: r => number? 16 2 r
  | '#' :: 'X' :: r => number? 16 2 r
  | '#' :: r => number? 10 1 r
  | c :: _ => if c.isAlphanum then name? inAttribute s else none
  | [] => none

/-- The value of an attribute, with its references replaced. -/
def decode : List Char → List Char
  | [] => []
  | '&' :: s =>
    match read? true s with
    | some m => m.value ++ decode (s.drop m.size)
    | none => '&' :: decode s
  | c :: s => c :: decode s
termination_by s => s.length
decreasing_by all_goals (simp only [List.length_drop, List.length_cons]; omega)

end PluginRelease.Html.Reference
