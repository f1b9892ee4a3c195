import PluginRelease.Text.CombiningClass
import PluginRelease.Text.CompositionRows

/-!
Composed text: a character and a mark behind it become one where Unicode has one for the two.
Text is first taken apart, then marks are put in order, then all is put together again; a character
that no two others make stays as it is.
-/
namespace PluginRelease.Text

/-! ## Pairs -/

private def pairsUnder (group : List Char) : List (Nat × Nat × Nat) :=
  match splitOn ' ' group with
  | [] => []
  | second :: pairs => (boundsOfRows (pairs.map String.ofList)).map fun p =>
    (p.1, codeOfHex second, p.2)

/-- First character, second character and the whole. -/
def compositions : List (Nat × Nat × Nat) :=
  compositionRows.flatMap fun r =>
    (splitOn ',' r.toList).flatMap fun g => pairsUnder (g.dropWhile (· = ' '))

private def wholes : RangeMap (Nat × Nat) :=
  .ofEntries (compositions.map fun p => (p.2.2, p.2.2, p.1, p.2.1))

/-! ## Syllables of Hangul

A syllable is numbered by its leading consonant, its vowel and a trailing consonant, of which
there may be none. -/

def firstSyllable : Nat := 0xAC00

def firstLead : Nat := 0x1100

def firstVowel : Nat := 0x1161

/-- The code of no trailing consonant. -/
def noTrail : Nat := 0x11A7

def leadCount : Nat := 19

def vowelCount : Nat := 21

def trailCount : Nat := 28

def syllableParts? (n : Nat) : Option (Nat × Nat) :=
  let i := n - firstSyllable
  if n < firstSyllable ∨ leadCount * vowelCount * trailCount ≤ i then none
  else if i % trailCount = 0 then
    some (firstLead + i / trailCount / vowelCount, firstVowel + i / trailCount % vowelCount)
  else some (n - i % trailCount, noTrail + i % trailCount)

def syllable? (a b : Nat) : Option Nat :=
  if firstLead ≤ a ∧ a < firstLead + leadCount ∧ firstVowel ≤ b ∧ b < firstVowel + vowelCount then
    some (firstSyllable + ((a - firstLead) * vowelCount + (b - firstVowel)) * trailCount)
  else if noTrail < b ∧ b < noTrail + trailCount ∧ firstSyllable ≤ a ∧
      a < firstSyllable + leadCount * vowelCount * trailCount ∧
      (a - firstSyllable) % trailCount = 0 then
    some (a + (b - noTrail))
  else none

/-! ## Taking apart and putting together -/

def parts? (c : Char) : Option (Char × Char) :=
  ((syllableParts? c.toNat).or (wholes.get? c)).map fun p => (Char.ofNat p.1, Char.ofNat p.2)

def whole? (a b : Char) : Option Char :=
  ((syllable? a.toNat b.toNat).or
    ((compositions.find? fun p => p.1 = a.toNat && p.2.1 = b.toNat).map (·.2.2))).map Char.ofNat

/-- At most `depth` marks are taken off a character; Unicode has none with more than three. -/
def decomposeChar : Nat → Char → List Char
  | 0, c => [c]
  | depth + 1, c =>
    match parts? c with
    | none => [c]
    | some (a, b) => decomposeChar depth a ++ [b]

/-- A mark moves behind the marks of lower classes. -/
def place (c : Char) : List Char → List Char
  | [] => [c]
  | d :: r =>
    if combiningClass d ≠ 0 ∧ combiningClass d < combiningClass c then d :: place c r
    else c :: d :: r

def decompose (s : List Char) : List Char := (s.flatMap (decomposeChar 4)).foldr place []

/-- A mark joins the last starting character unless a mark of its own class or a higher one stands
between. `marks` are those that stay between, the last one first. -/
def composeFrom (start : Char) (marks : List Char) : List Char → List Char
  | [] => start :: marks.reverse
  | c :: r =>
    let near := match marks with
      | [] => true
      | m :: _ => combiningClass m < combiningClass c
    match if near then whole? start c else none with
    | some d => composeFrom d marks r
    | none =>
      if combiningClass c = 0 then start :: (marks.reverse ++ composeFrom c [] r)
      else composeFrom start (c :: marks) r

def compose (s : List Char) : List Char :=
  match decompose s with
  | [] => []
  | c :: r => composeFrom c [] r

def isComposed (s : List Char) : Bool := compose s = s

end PluginRelease.Text
