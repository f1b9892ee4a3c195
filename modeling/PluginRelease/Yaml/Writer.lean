import PluginRelease.Yaml.Character
import PluginRelease.Yaml.Meaning

/-!
Writing texts so that they read back as themselves. A text of several lines becomes a literal
block, one that would mean something else is quoted, and the rest stands plain.
-/
namespace PluginRelease.Yaml.Writer
open Text

/-- Characters that show as themselves; the others need an escape. -/
def isPrintable (c : Char) : Bool :=
  let n := c.toNat
  n == 0x0A || (0x20 ≤ n && n ≤ 0x7E) || (0xA0 ≤ n && n ≤ 0xD7FF) ||
    (0xE000 ≤ n && n ≤ 0xFFFD && n != 0xFEFF) || 0x10000 ≤ n

/-- What a text shows to one who has to choose how to write it. -/
structure Traits where
  leading : Bool
  trailing : Bool
  trailingSpace : Bool
  breakThenSpace : Bool
  spaceThenBreak : Bool
  hasBreak : Bool
  hasUnprintable : Bool
  hasIndicator : Bool

/-- Whether two neighbours satisfy `p` and `q`. -/
def hasPair (p q : Char → Bool) : List Char → Bool
  | a :: b :: r => (p a && q b) || hasPair p q (b :: r)
  | _ => false

/-- Characters with a meaning of their own at the start of a text. -/
def isStartIndicator (c : Char) : Bool := "#,[]\x7b\x7d&*!|>'\"%@`".toList.contains c

def startsWithIndicator : List Char → Bool
  | [] => false
  | c :: cs =>
    isStartIndicator c || ((c == '?' || c == ':' || c == '-') && atGap cs) ||
      "---".toList.isPrefixOf (c :: cs) || "...".toList.isPrefixOf (c :: cs)

/-- A colon before a gap, or a number sign after one. -/
def hasInnerIndicator : List Char → Bool
  | a :: b :: r =>
    (b == ':' && atGap r) || (b == '#' && isBlankOrBreak a) || hasInnerIndicator (b :: r)
  | _ => false

def isSpaceOrBreak (c : Char) : Bool := isSpace c || isBreak c

def traits (s : List Char) : Traits where
  leading := s.head?.any isSpaceOrBreak
  trailing := s.getLast?.any isSpaceOrBreak
  trailingSpace := s.getLast?.any isSpace
  breakThenSpace := hasPair isBreak isSpace s
  spaceThenBreak := hasPair isSpace isBreak s
  hasBreak := s.any isBreak
  hasUnprintable := s.any fun c => !isPrintable c
  hasIndicator := startsWithIndicator s || hasInnerIndicator s

namespace Traits

def allowsPlain (t : Traits) : Bool :=
  !(t.leading || t.trailing || t.breakThenSpace || t.spaceThenBreak || t.hasBreak ||
    t.hasUnprintable || t.hasIndicator)

def allowsSingle (t : Traits) : Bool :=
  !(t.breakThenSpace || t.spaceThenBreak || t.hasUnprintable)

def allowsLiteral (t : Traits) : Bool :=
  !(t.trailingSpace || t.spaceThenBreak || t.hasUnprintable)

end Traits

inductive Style
  | plain
  | single
  | double
  | literal
deriving DecidableEq, Repr

/-- Whether a plain scalar with this text would not be read as the text. -/
def needsQuotes (s : List Char) : Bool := Meaning.ofPlain s != .text || Meaning.isZeroPadded s

def style (s : List Char) : Style :=
  let t := traits s
  if s.contains '\n' then if t.allowsLiteral then .literal else .double
  else if t.allowsPlain && !needsQuotes s then .plain
  else if t.allowsSingle then .single
  else .double

/-- The margin of a text below its key. -/
def margin : List Char := [' ', ' ']

/-- The margin goes before each character that follows a break. -/
def indented (afterBreak : Bool) : List Char → List Char
  | [] => []
  | c :: cs =>
    if isBreak c then c :: indented true cs
    else if afterBreak then margin ++ c :: indented false cs
    else c :: indented false cs

/-- A break that is not LF stands as it is, with a margin after it. -/
def singleBody (afterBreak : Bool) : List Char → List Char
  | [] => if afterBreak then margin else []
  | c :: cs =>
    if isBreak c then c :: singleBody true cs
    else (if afterBreak then margin else []) ++ (if c == '\'' then ['\'', '\''] else [c]) ++
      singleBody false cs

def escape (c : Char) : List Char :=
  let n := c.toNat
  if n = 0x00 then ['\\', '0']
  else if n = 0x07 then ['\\', 'a']
  else if n = 0x08 then ['\\', 'b']
  else if n = 0x09 then ['\\', 't']
  else if n = 0x0A then ['\\', 'n']
  else if n = 0x0B then ['\\', 'v']
  else if n = 0x0C then ['\\', 'f']
  else if n = 0x0D then ['\\', 'r']
  else if n = 0x1B then ['\\', 'e']
  else if n = 0x22 then ['\\', '"']
  else if n = 0x5C then ['\\', '\\']
  else if n = 0x85 then ['\\', 'N']
  else if n = 0xA0 then ['\\', '_']
  else if n = 0x2028 then ['\\', 'L']
  else if n = 0x2029 then ['\\', 'P']
  else if n ≤ 0xFF then ['\\', 'x'] ++ hexDigits true 2 n
  else if n ≤ 0xFFFF then ['\\', 'u'] ++ hexDigits true 4 n
  else ['\\', 'U'] ++ hexDigits true 8 n

def doubleBody (s : List Char) : List Char :=
  s.flatMap fun c =>
    if !isPrintable c || isBreak c || c == '"' || c == '\\' then escape c else [c]

/-- The depth must be said when it cannot be seen from the first line. -/
def depthHint (s : List Char) : List Char :=
  if s.head?.any isSpaceOrBreak then ['2'] else []

/-- Whether the end of the text has no break, one, or more. -/
def chompHint (s : List Char) : List Char :=
  match s.reverse with
  | [] => ['-']
  | [c] => if isBreak c then ['+'] else ['-']
  | c :: d :: _ => if !isBreak c then ['-'] else if isBreak d then ['+'] else []

/-- A text behind its key, up to the end of its last line. -/
def scalar (s : List Char) : List Char :=
  match style s with
  | .plain => s ++ ['\n']
  | .single => '\'' :: singleBody false s ++ ['\'', '\n']
  | .double => '"' :: doubleBody s ++ ['"', '\n']
  | .literal =>
    '|' :: depthHint s ++ chompHint s ++ ['\n'] ++ indented true s ++
      (if s.getLast?.any isBreak then [] else ['\n'])

def entry (key : List Char) (value : Option (List Char)) : List Char :=
  key ++ [':', ' '] ++
    match value with
    | none => "null\n".toList
    | some s => scalar s

/-- A mapping of plain keys to texts. -/
def mapping (entries : List (List Char × Option (List Char))) : List Char :=
  entries.flatMap fun e => entry e.1 e.2

end PluginRelease.Yaml.Writer
