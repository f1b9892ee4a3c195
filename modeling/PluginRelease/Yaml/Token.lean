import PluginRelease.Yaml.Tag
import PluginRelease.Yaml.Scalar.Plain
import PluginRelease.Yaml.Scalar.Quoted
import PluginRelease.Yaml.Scalar.Block

/-!
Tokens of a text. Indentation shows as tokens that open and close block collections. That a
scalar is a key is known only at the colon behind it, so the place of a possible key is
remembered and its tokens are put there later.
-/
namespace PluginRelease.Yaml

/-- How a scalar is written. -/
inductive ScalarStyle
  | plain
  | quoted
  | literal
  | folded
deriving DecidableEq, Repr

inductive Token
  | directive (d : Directive)
  | documentStart
  | documentEnd
  | blockSequenceStart
  | blockMappingStart
  | blockEnd
  | flowSequenceStart
  | flowSequenceEnd
  | flowMappingStart
  | flowMappingEnd
  | blockEntry
  | flowEntry
  | key
  | value
  | alias (name : List Char)
  | anchor (name : List Char)
  | tag (t : WrittenTag)
  | scalar (style : ScalarStyle) (text : List Char)
  | streamEnd
deriving DecidableEq, Repr

/-- The token with this number may turn out to be a key. A required key stands where nothing
else can. -/
structure PendingKey where
  number : Nat
  required : Bool
  place : Place
deriving Repr

/-- A key stands on one line and within 1024 characters. -/
def PendingKey.isStale (k : PendingKey) (p : Place) : Bool :=
  k.place.line < p.line || k.place.index + 1024 < p.index

structure Scan where
  cursor : Cursor
  tokens : List Token
  /-- The column of the innermost block collection; before any, `-1`. -/
  indent : Int
  indents : List Int
  pending : Option PendingKey
  /-- Possible keys outside the innermost flow collection, one for each collection. -/
  outer : List (Option PendingKey)
  keyAllowed : Bool
deriving Repr

namespace Scan

def start (text : List Char) : Scan :=
  ⟨⟨text, Place.start⟩, [], -1, [], none, [], true⟩

def inFlow (s : Scan) : Bool := !s.outer.isEmpty

def place (s : Scan) : Place := s.cursor.place

def rest (s : Scan) : List Char := s.cursor.rest

def column (s : Scan) : Nat := s.cursor.place.column

def emit (t : Token) (s : Scan) : Scan := { s with tokens := s.tokens ++ [t] }

def emitAt (n : Nat) (ts : List Token) (s : Scan) : Scan :=
  { s with tokens := s.tokens.take n ++ ts ++ s.tokens.drop n }

def advance (n : Nat) (s : Scan) : Scan :=
  { s with cursor := ⟨s.rest.drop n, s.place.skip n⟩ }

def moveTo (c : Cursor) (s : Scan) : Scan := { s with cursor := c }

def allowKey (allowed : Bool) (s : Scan) : Scan := { s with keyAllowed := allowed }

/-- Past blanks, comments and line breaks. Where a key may stand in a block, a tab is no
blank. -/
def skipToToken (inFlow keyAllowed inComment : Bool) : List Char → Place → Cursor × Bool
  | [], p => (⟨[], p⟩, keyAllowed)
  | '\r' :: '\n' :: cs, p =>
    skipToToken inFlow (keyAllowed || !inFlow) false cs (p.nextLine 2)
  | c :: cs, p =>
    if isBreak c then skipToToken inFlow (keyAllowed || !inFlow) false cs (p.nextLine 1)
    else if inComment then skipToToken inFlow keyAllowed true cs p.next
    else if c == ' ' || (c == '\t' && (inFlow || !keyAllowed)) then
      skipToToken inFlow keyAllowed false cs p.next
    else if c == '#' then skipToToken inFlow keyAllowed true cs p.next
    else if c == byteOrderMark && p.column == 0 then
      skipToToken inFlow keyAllowed false cs p.next
    else (⟨c :: cs, p⟩, keyAllowed)

def skipBlank (s : Scan) : Scan :=
  let (c, allowed) := skipToToken s.inFlow s.keyAllowed false s.rest s.place
  { s with cursor := c, keyAllowed := allowed }

def checkStale (p : Place) : Option PendingKey → Except Malformation (Option PendingKey)
  | none => .ok none
  | some k =>
    if k.isStale p then if k.required then .error .keyWithoutColon else .ok none
    else .ok (some k)

/-- Forgets keys that are over; a required one must not be. -/
def dropStale (s : Scan) : Except Malformation Scan := do
  let outer ← s.outer.reverse.mapM (checkStale s.place)
  let pending ← checkStale s.place s.pending
  pure { s with pending := pending, outer := outer.reverse }

/-- Forgets the innermost possible key. -/
def dropKey (s : Scan) : Except Malformation Scan :=
  if s.pending.any (·.required) then .error .keyWithoutColon
  else .ok { s with pending := none }

/-- Remembers the next token as a possible key. -/
def saveKey (s : Scan) : Except Malformation Scan :=
  if s.keyAllowed then do
    let required := !s.inFlow && s.indent == (s.column : Int)
    let s ← s.dropKey
    pure { s with pending := some ⟨s.tokens.length, required, s.place⟩ }
  else .ok s

/-- The closing tokens of blocks that are deeper than `column`. -/
def closeTo (column indent : Int) : List Int → Int × List Int × List Token
  | [] => (indent, [], [])
  | i :: is =>
    if column < indent then
      let (indent, indents, ts) := closeTo column i is
      (indent, indents, .blockEnd :: ts)
    else (indent, i :: is, [])

def close (column : Int) (s : Scan) : Scan :=
  if s.inFlow then s
  else
    let (indent, indents, ts) := closeTo column s.indent s.indents
    { s with indent := indent, indents := indents, tokens := s.tokens ++ ts }

/-- Whether a block collection starts at this column. -/
def deepens (column : Nat) (s : Scan) : Bool := !s.inFlow && decide (s.indent < (column : Int))

def deepen (column : Nat) (s : Scan) : Scan :=
  { s with indent := column, indents := s.indent :: s.indents }

def openBlock (start : Token) (s : Scan) : Scan :=
  if s.deepens s.column then (s.deepen s.column).emit start else s

/-- The end of the text ends its last line. -/
def readEnd (s : Scan) : Except Malformation Scan := do
  let s := if s.column = 0 then s else s.moveTo ⟨[], s.place.nextLine 0⟩
  let s ← (s.close (-1)).dropKey
  pure ((s.allowKey false).emit .streamEnd)

def readDirective (s : Scan) : Except Malformation Scan := do
  let s ← (s.close (-1)).dropKey
  let s := s.allowKey false
  let (d, c) ← Directive.read s.rest.tail s.place.next
  pure ((s.moveTo c).emit (.directive d))

def readDocumentMark (t : Token) (s : Scan) : Except Malformation Scan := do
  let s ← (s.close (-1)).dropKey
  pure (((s.allowKey false).advance 3).emit t)

def readFlowStart (t : Token) (s : Scan) : Except Malformation Scan := do
  let s ← s.saveKey
  let s := { s with outer := s.pending :: s.outer, pending := none }
  pure (((s.allowKey true).advance 1).emit t)

def readFlowEnd (t : Token) (s : Scan) : Except Malformation Scan := do
  let s ← s.dropKey
  let s := match s.outer with
    | [] => s
    | k :: ks => { s with pending := k, outer := ks }
  pure (((s.allowKey false).advance 1).emit t)

def readFlowEntry (s : Scan) : Except Malformation Scan := do
  let s ← s.dropKey
  pure (((s.allowKey true).advance 1).emit .flowEntry)

def readBlockEntry (s : Scan) : Except Malformation Scan :=
  if !s.inFlow && !s.keyAllowed then .error .misplacedEntry
  else do
    let s ← (s.openBlock .blockSequenceStart).dropKey
    pure (((s.allowKey true).advance 1).emit .blockEntry)

def readKey (s : Scan) : Except Malformation Scan :=
  if !s.inFlow && !s.keyAllowed then .error .misplacedKey
  else do
    let s ← (s.openBlock .blockMappingStart).dropKey
    pure (((s.allowKey !s.inFlow).advance 1).emit .key)

/-- The colon turns a possible key into one, and opens a mapping at its column if it is the
first. -/
def readValue (s : Scan) : Except Malformation Scan :=
  match s.pending with
  | some k =>
    let s := { s with pending := none }
    let s :=
      if s.deepens k.place.column then
        (s.deepen k.place.column).emitAt k.number [.blockMappingStart, .key]
      else s.emitAt k.number [.key]
    .ok (((s.allowKey false).advance 1).emit .value)
  | none =>
    if !s.inFlow && !s.keyAllowed then .error .misplacedValue
    else
      let s := s.openBlock .blockMappingStart
      .ok (((s.allowKey !s.inFlow).advance 1).emit .value)

def readAnchorLike (t : List Char → Token) (s : Scan) : Except Malformation Scan := do
  let s ← s.saveKey
  let (name, c) ← readAnchor s.rest.tail s.place.next
  pure (((s.allowKey false).moveTo c).emit (t name))

def readTag (s : Scan) : Except Malformation Scan := do
  let s ← s.saveKey
  let (tag, c) ← WrittenTag.read s.inFlow s.rest s.place
  pure (((s.allowKey false).moveTo c).emit (.tag tag))

def readBlockScalar (literal : Bool) (s : Scan) : Except Malformation Scan := do
  let s ← s.dropKey
  let (text, c) ← Block.read literal s.indent s.rest.tail s.place.next
  let style := if literal then ScalarStyle.literal else .folded
  pure (((s.allowKey true).moveTo c).emit (.scalar style text))

def readQuoted (style : Quoted.Style) (s : Scan) : Except Malformation Scan := do
  let s ← s.saveKey
  let (text, c) ← Quoted.read style .text [] .none s.rest.tail s.place.next
  pure (((s.allowKey false).moveTo c).emit (.scalar .quoted text))

def readPlain (s : Scan) : Except Malformation Scan := do
  let s ← s.saveKey
  let r ← Plain.read s.inFlow (s.indent + 1) [] .none s.rest s.place
  pure (((s.allowKey r.endsLine).moveTo r.cursor).emit (.scalar .plain r.text))

/-- Characters that start no plain scalar, unless what follows allows it. -/
def isIndicator (c : Char) : Bool := "-?:,[]\x7b\x7d#&*!|>'\"%@`".toList.contains c

def startsPlain (inFlow : Bool) : List Char → Bool
  | [] => false
  | c :: cs =>
    !(isBlankOrBreak c || isIndicator c) || (c == '-' && !cs.head?.any isBlank) ||
      (!inFlow && (c == '?' || c == ':') && !atGap cs)

/-- The token at the cursor. -/
def readToken (s : Scan) : Except Malformation Scan :=
  match s.rest with
  | [] => s.readEnd
  | c :: cs =>
    if s.column == 0 && c == '%' then s.readDirective
    else if s.column == 0 && atDocumentMark (c :: cs) then
      s.readDocumentMark (if c == '-' then .documentStart else .documentEnd)
    else if c == '[' then s.readFlowStart .flowSequenceStart
    else if c == '{' then s.readFlowStart .flowMappingStart
    else if c == ']' then s.readFlowEnd .flowSequenceEnd
    else if c == '}' then s.readFlowEnd .flowMappingEnd
    else if c == ',' then s.readFlowEntry
    else if c == '-' && atGap cs then s.readBlockEntry
    else if c == '?' && (s.inFlow || atGap cs) then s.readKey
    else if c == ':' && (s.inFlow || atGap cs) then s.readValue
    else if c == '*' then s.readAnchorLike .alias
    else if c == '&' then s.readAnchorLike .anchor
    else if c == '!' then s.readTag
    else if c == '|' && !s.inFlow then s.readBlockScalar true
    else if c == '>' && !s.inFlow then s.readBlockScalar false
    else if c == '\'' then s.readQuoted .single
    else if c == '"' then s.readQuoted .double
    else if startsPlain s.inFlow (c :: cs) then s.readPlain
    else .error .strayCharacter

def step (s : Scan) : Except Malformation Scan := do
  let s ← s.skipBlank.dropStale
  let s ← (s.close s.column).readToken
  s.dropStale

/-- Tokens that no possible key holds back. -/
def settled (s : Scan) : List Token :=
  let numbers := (s.pending :: s.outer).filterMap fun k => k.map (·.number)
  s.tokens.take (numbers.foldl min s.tokens.length)

def isFinished (s : Scan) : Bool := s.tokens.getLast? == some .streamEnd

/-- Each step takes at least one character, so `fuel` above their number is never used up. -/
def run : Nat → Scan → List Token × Option Malformation
  | 0, s => (s.settled, some .textEnded)
  | fuel + 1, s =>
    match s.step with
    | .error e => (s.settled, some e)
    | .ok t => if t.isFinished then (t.tokens, none) else run fuel t

end Scan

/-- The tokens of a text, as far as it is well formed, and its first fault. A mark of the
byte order at the very start is no part of the text. -/
def tokens (text : List Char) : List Token × Option Malformation :=
  if text.all isAllowed then
    Scan.run (text.length + 2)
      (Scan.start (if text.head? == some byteOrderMark then text.tail else text))
  else ([], some .controlCharacter)

end PluginRelease.Yaml
