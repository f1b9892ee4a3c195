import PluginRelease.Text.Category
import PluginRelease.Text.Composition
import PluginRelease.Text.Direction
import PluginRelease.Text.Joining
import PluginRelease.Text.Percent
import PluginRelease.Url.DomainRows
import PluginRelease.Url.Punycode

/-!
Domain names. Names that look the same to a reader are the same: characters are mapped and composed.
A label beyond ASCII is written `xn--` and its punycode.
-/
namespace PluginRelease.Domain
open Text

/-- Characters that no domain may have, besides controls and blanks. -/
def forbiddenMarks : List Char :=
  ['%', '#', '/', ':', '<', '>', '?', '@', '[', '\\', ']', '^', '|']

def isForbidden (c : Char) : Bool := c.toNat ≤ 0x20 || c.toNat = 0x7F || forbiddenMarks.contains c

/-! ## Mapping -/

/-- What stands for the characters of a range: the same text for all, or, with a step, the character
as far behind the text as the mapped one is behind the first, for every `step`th. -/
structure Replacement where
  step : Nat
  text : List Char
deriving DecidableEq, Repr

def Replacement.textAt? (r : Replacement) (offset : Nat) : Option (List Char) :=
  if offset = 0 ∨ r.step = 0 then some r.text
  else if offset % r.step = 0 then some (r.text.map fun c => Char.ofNat (c.toNat + offset))
  else none

private def textOfCodes (s : List Char) : List Char :=
  (splitOn '+' s).map fun t => Char.ofNat (codeOfHex t)

private def replacementsOf (item : List Char) : List (Nat × Nat × Replacement) :=
  let isMark (c : Char) := c = '=' || c = '/' || c = ':'
  let (first, last) := boundsOf (item.takeWhile (!isMark ·))
  match item.dropWhile (!isMark ·) with
  | ':' :: text => [(first, last, ⟨0, textOfCodes text⟩)]
  | '/' :: text => [(first, last, ⟨2, textOfCodes text⟩)]
  | mark => (splitOn ',' mark.tail).mapIdx fun i text =>
    (first + i, last + i, ⟨1, textOfCodes text⟩)

private def replacements : RangeMap Replacement :=
  .ofEntries (mappingRows.flatMap fun r => (splitOn ' ' r.toList).flatMap replacementsOf)

private def disallowed : Ranges := .ofRows disallowedRows

private def ignored : Ranges := .ofRows ignoredRows

/-- Nothing for a character that no name may have. -/
def mapChar? (c : Char) : Option (List Char) :=
  if disallowed.contains c then none
  else if ignored.contains c then some []
  else some (((replacements.find? c.toNat).bind fun r => r.2.textAt? r.1).getD [c])

def isValid (c : Char) : Bool := mapChar? c = some [c]

/-! ## Labels -/

/-- What a label says: `xn--` stands before punycode of composed text that has more than ASCII. -/
def readLabel? (label : List Char) : Option (List Char) :=
  match label with
  | 'x' :: 'n' :: '-' :: '-' :: code =>
    if code.isEmpty ∨ code.getLast? = some '-' then none
    else (Punycode.decode? code).filter fun s => s.all isValid && isComposed s
  | _ => some label

def writeLabel (label : List Char) : List Char :=
  if label.all Punycode.isAscii then label else "xn--".toList ++ Punycode.encode label

private def marks : Ranges :=
  .ofRows ((categoryRows.filter fun e => e.1.startsWith "M").flatMap (·.2))

def startsWithMark (label : List Char) : Bool := label.head?.any marks.contains

/-! ## Joiners -/

def nonJoiner : Char := Char.ofNat 0x200C

def joiner : Char := Char.ofNat 0x200D

def viramaClass : Nat := 9

/-- The joining of the first character that is not transparent. -/
def nextJoining? (s : List Char) : Option Joining :=
  (s.dropWhile fun c => joining? c = some .transparent).head?.bind joining?

/-- A joiner stands behind a virama. A non-joiner may also part two characters that would join.
`before` is reversed. -/
def joinerFits (c : Char) (before after : List Char) : Bool :=
  before.head?.any (fun d => combiningClass d = viramaClass) ||
    (c = nonJoiner && [some .left, some .dual].contains (nextJoining? before) &&
      [some .right, some .dual].contains (nextJoining? after))

def joinersFit (before : List Char) : List Char → Bool
  | [] => true
  | c :: r =>
    (!(c = nonJoiner || c = joiner) || joinerFits c before r) && joinersFit (c :: before) r

/-! ## Directions -/

def runsLeft (c : Char) : Bool :=
  [Direction.right, .arabicLetter, .arabicNumber].contains (direction c)

def weakDirections : List Direction :=
  [.number, .numberSeparator, .commonSeparator, .numberTerminator, .neutral, .boundaryNeutral,
    .mark]

/-- The direction of the last character that is no mark. -/
def lastDirection? (s : List Direction) : Option Direction := (dropEndWhile (· = .mark) s).getLast?

/-- Whether a label keeps its order next to text that runs the other way. -/
def isSettled (label : List Char) : Bool :=
  let ds := label.map direction
  match ds with
  | [] => true
  | .left :: _ =>
    ds.all (fun d => d = .left || weakDirections.contains d) &&
      [some .left, some .number].contains (lastDirection? ds)
  | .right :: _ | .arabicLetter :: _ =>
    ds.all (fun d => [.right, .arabicLetter, .arabicNumber].contains d ||
        weakDirections.contains d) &&
      [some .right, some .arabicLetter, some .number, some .arabicNumber].contains
        (lastDirection? ds) &&
      !(ds.contains .number && ds.contains .arabicNumber)
  | _ => false

/-! ## Names -/

/-- The labels of a name, if each is one that a name may have. -/
def labels? (name : List Char) : Option (List (List Char)) := do
  let mapped ← name.mapM mapChar?
  let labels ← (splitOn '.' (compose mapped.flatten)).mapM readLabel?
  if labels.any startsWithMark ∨ !labels.all (joinersFit []) then none
  else if labels.any (·.any runsLeft) ∧ !labels.all isSettled then none
  else pure labels

def toAscii? (name : List Char) : Option (List Char) := do
  let s := joinWith ['.'] ((← labels? name).map writeLabel)
  if s.any isForbidden then none else pure s

end PluginRelease.Domain
