/-!
Characters as YAML sorts them. The end of the text counts as the end of a line, so the tests
on what comes next look at the rest of the text.
-/
namespace PluginRelease.Yaml

def lineSeparator : Char := Char.ofNat 0x2028

def paragraphSeparator : Char := Char.ofNat 0x2029

def nextLine : Char := Char.ofNat 0x85

def byteOrderMark : Char := Char.ofNat 0xFEFF

def isSpace (c : Char) : Bool := c == ' '

def isBlank (c : Char) : Bool := c == ' ' || c == '\t'

def isBreak (c : Char) : Bool :=
  c == '\n' || c == '\r' || c == nextLine || c == lineSeparator || c == paragraphSeparator

def isBlankOrBreak (c : Char) : Bool := isBlank c || isBreak c

/-- At a blank, at a line break, or at the end. -/
def atGap : List Char → Bool
  | [] => true
  | c :: _ => isBlankOrBreak c

/-- At a line break or at the end. -/
def atLineEnd : List Char → Bool
  | [] => true
  | c :: _ => isBreak c

/-- Letters, digits, `_` and `-`, all of ASCII. -/
def isWordCharacter (c : Char) : Bool := c.isAlphanum || c == '_' || c == '-'

/-- Characters that may stand in a text at all. -/
def isAllowed (c : Char) : Bool :=
  let n := c.toNat
  n == 0x09 || n == 0x0A || n == 0x0D || (0x20 ≤ n && n ≤ 0x7E) || n == 0x85 ||
    (0xA0 ≤ n && n ≤ 0xD7FF) || (0xE000 ≤ n && n ≤ 0xFFFD) || 0x10000 ≤ n

def isFlowMark (c : Char) : Bool := c == ',' || c == '[' || c == ']' || c == '{' || c == '}'

/-- A line break as it is kept: every kind but the separators becomes LF. -/
def keptBreak (c : Char) : Char :=
  if c == lineSeparator || c == paragraphSeparator then c else '\n'

/-- Three dashes or dots with a gap after them. -/
def atDocumentMark : List Char → Bool
  | '-' :: '-' :: '-' :: r => atGap r
  | '.' :: '.' :: '.' :: r => atGap r
  | _ => false

end PluginRelease.Yaml
