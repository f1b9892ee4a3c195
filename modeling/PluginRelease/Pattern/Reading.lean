import PluginRelease.Pattern.Matching
import PluginRelease.Text.Digit

/-!
Reading patterns from text: groups, alternatives, repetitions, classes with set operations,
escapes and flags. Whether a repetition is greedy does not matter for what is matched.
-/
namespace PluginRelease.Pattern
open Text

inductive PatternFault
  | groupUnclosed
  | groupUnopened
  | groupName
  | lookAround
  | flags
  | repetitionMissing
  | repetitionCount
  | escape
  | backreference
  | number
  | classUnclosed
  | classRange
  | classEscape
  | boundary
  | property
  | notText
  | tooDeep
  | tooLarge
deriving DecidableEq, Repr

def PatternFault.message : PatternFault → String
  | groupUnclosed => "unclosed group"
  | groupUnopened => "unopened group"
  | groupName => "invalid capture group name"
  | lookAround => "look-around, including look-ahead and look-behind, is not supported"
  | flags => "invalid flags"
  | repetitionMissing => "repetition operator missing expression"
  | repetitionCount => "invalid repetition count"
  | escape => "unrecognized escape sequence"
  | backreference => "backreferences are not supported"
  | number => "invalid hexadecimal code point"
  | classUnclosed => "unclosed character class"
  | classRange => "invalid character class range"
  | classEscape => "invalid escape sequence found in character class"
  | boundary => "invalid special word boundary"
  | property => "Unicode property not found"
  | notText => "pattern can match invalid UTF-8"
  | tooDeep => "exceeded the maximum number of nested parentheses and brackets"
  | tooLarge => "compiled pattern exceeds size limit"

structure Flags where
  ignoreCase : Bool
  multiLine : Bool
  dotAll : Bool
  swapGreed : Bool
  unicode : Bool
  extended : Bool
  crlf : Bool
deriving DecidableEq, Repr

namespace Flags

def default : Flags := ⟨false, false, false, false, true, false, false⟩

def set? (f : Flags) (c : Char) (on : Bool) : Option Flags :=
  if c == 'i' then some { f with ignoreCase := on }
  else if c == 'm' then some { f with multiLine := on }
  else if c == 's' then some { f with dotAll := on }
  else if c == 'U' then some { f with swapGreed := on }
  else if c == 'u' then some { f with unicode := on }
  else if c == 'x' then some { f with extended := on }
  else if c == 'R' then some { f with crlf := on }
  else none

/-- Flags up to a colon or a closing parenthesis, which comes back with the rest. Each flag
may stand there once. -/
def read (f : Flags) (seen : List Char) (on : Bool) :
    List Char → Except PatternFault (Flags × List Char × Char × List Char)
  | [] => .error .flags
  | c :: cs =>
    if c == ':' || c == ')' then
      if seen.head? == some '-' then .error .flags else .ok (f, seen, c, cs)
    else if seen.contains c then .error .flags
    else if c == '-' then read f (c :: seen) false cs
    else match f.set? c on with
      | none => .error .flags
      | some f => read f (c :: seen) on cs

end Flags

/-- In extended mode blanks and comments do not count. -/
def skipSpace (extended : Bool) (s : List Char) : List Char :=
  if extended then go false s else s
where
  go : Bool → List Char → List Char
    | _, [] => []
    | true, c :: cs => go (c != '\n') cs
    | false, c :: cs =>
      if isBlank c then go false cs else if c == '#' then go true cs else c :: cs

def letterFold (s : CharacterSet) (f : Flags) : CharacterSet :=
  if !f.ignoreCase then s
  else if f.unicode then s.foldCase
  else
    let swap (a b : Char) (d : Int) := ((s.intersection (.ofRange a b)).ranges).map fun r =>
      ((r.1 + d).toNat, (r.2 + d).toNat)
    s.union ⟨swap 'a' 'z' (-32) ++ swap 'A' 'Z' 32⟩

/-- Outside Unicode mode a set may hold ASCII only. -/
def checked (f : Flags) (s : CharacterSet) : Except PatternFault CharacterSet :=
  if f.unicode || s.ranges.all (·.2 ≤ 0x7F) then .ok s else .error .notText

/-! ## Escapes -/

inductive Primitive
  | character (c : Char)
  | look (l : Look)
  | set (s : CharacterSet)

def isMeta (c : Char) : Bool := "\\.+*?()|[]\x7b\x7d^$#&-~".toList.contains c

/-- Characters that a backslash may stand before without need. -/
def isEscapable (c : Char) : Bool :=
  isMeta c || (c.toNat < 0x80 && !c.isAlphanum && c != '<' && c != '>')

def ofCode (f : Flags) (isShort : Bool) (n : Nat) : Except PatternFault Primitive :=
  if !n.isValidChar then .error .number
  else if isShort && !f.unicode && 0x7F < n then .error .notText
  else .ok (.character (Char.ofNat n))

/-- Hexadecimal digits up to `count` of them, blanks skipped in extended mode. -/
def takeHex (extended : Bool) : Nat → List Char → List Char × List Char
  | 0, s => ([], s)
  | n + 1, s =>
    match s with
    | [] => ([], [])
    | c :: cs =>
      if (hexDigitValue? c).isSome then
        let (ds, r) := takeHex extended n (skipSpace extended cs)
        (c :: ds, r)
      else ([], c :: cs)

def readCode (f : Flags) (width : Nat) (s : List Char) :
    Except PatternFault (Primitive × List Char) := do
  match skipSpace f.extended s with
  | '{' :: cs =>
    let (digits, r) := takeHex f.extended cs.length (skipSpace f.extended cs)
    match natOfDigits? 16 digits, r with
    | some n, '}' :: r => pure (← ofCode f false n, skipSpace f.extended r)
    | _, _ => .error .number
  | s =>
    let (digits, r) := takeHex f.extended width s
    if digits.length < width then .error .number
    else match natOfDigits? 16 digits with
      | some n => pure (← ofCode f (width = 2) n, r)
      | none => .error .number

private def splitAtText (mark s : List Char) : Option (List Char × List Char) :=
  match s with
  | [] => none
  | c :: cs =>
    if mark.isPrefixOf (c :: cs) then some ([], (c :: cs).drop mark.length)
    else (splitAtText mark cs).map fun p => (c :: p.1, p.2)

/-- The set behind `\p`, by what stands in the braces. -/
def propertySet (name : List Char) : Option CharacterSet :=
  match splitAtText ['!', '='] name with
  | some (p, v) => (CharacterSet.valued? p v).map CharacterSet.complement
  | none =>
    match splitAtText [':'] name with
    | some (p, v) => CharacterSet.valued? p v
    | none =>
      match splitAtText ['='] name with
      | some (p, v) => CharacterSet.valued? p v
      | none => CharacterSet.named? name

def readProperty (f : Flags) (negated : Bool) (s : List Char) :
    Except PatternFault (Primitive × List Char) := do
  if !f.unicode then .error .notText
  let finish (found : Option CharacterSet) (r : List Char) :
      Except PatternFault (Primitive × List Char) :=
    match found with
    | none => .error .property
    | some t =>
      let t := letterFold t f
      .ok (.set (if negated then t.complement else t), r)
  match skipSpace f.extended s with
  | [] => .error .escape
  | '{' :: cs =>
    let cs := skipSpace f.extended cs
    match splitAtText ['}'] cs with
    | none => .error .escape
    | some (name, r) => finish (propertySet name) r
  | c :: cs =>
    if c == '\\' then .error .property
    else finish (CharacterSet.category? (CharacterSet.plainName [c])) (skipSpace f.extended cs)

def shorthand (f : Flags) (c : Char) : Except PatternFault (Option CharacterSet) :=
  let ascii (name : String) := (CharacterSet.posix? name.toList).getD .empty
  let negatable (s : CharacterSet) (negated : Bool) : Except PatternFault (Option CharacterSet) :=
    (checked f (if negated then s.complement else s)).map some
  if c == 'd' || c == 'D' then
    negatable (if f.unicode then .decimalDigit else ascii "digit") (c == 'D')
  else if c == 's' || c == 'S' then
    negatable (if f.unicode then .blank else ascii "space") (c == 'S')
  else if c == 'w' || c == 'W' then
    negatable (if f.unicode then .word else ascii "word") (c == 'W')
  else .ok none

private def isBoundaryLetter (c : Char) : Bool := c.isAlpha || c == '-'

/-- Perhaps a kind of word boundary in braces. A brace before anything else starts a count. -/
def readBoundary (f : Flags) (s : List Char) : Except PatternFault (Primitive × List Char) :=
  let ascii := !f.unicode
  match s with
  | '{' :: cs =>
    match skipSpace f.extended cs with
    | [] => .error .boundary
    | c :: cs =>
      if !isBoundaryLetter c then .ok (.look (.wordBoundary ascii), s)
      else
        let letters := if f.extended then (c :: cs).filter (!isBlank ·) else c :: cs
        let name := letters.takeWhile isBoundaryLetter
        match letters.dropWhile isBoundaryLetter with
        | '}' :: r =>
          match String.ofList name with
          | "start" => .ok (.look (.wordStart ascii), r)
          | "end" => .ok (.look (.wordEnd ascii), r)
          | "start-half" => .ok (.look (.wordStartHalf ascii), r)
          | "end-half" => .ok (.look (.wordEndHalf ascii), r)
          | _ => .error .boundary
        | _ => .error .boundary
  | s => .ok (.look (.wordBoundary ascii), s)

/-- After a backslash. -/
def readEscape (f : Flags) (s : List Char) : Except PatternFault (Primitive × List Char) :=
  let ascii := !f.unicode
  match s with
  | [] => .error .escape
  | c :: cs =>
    let char (n : Nat) : Except PatternFault (Primitive × List Char) :=
      .ok (.character (Char.ofNat n), cs)
    let look (l : Look) : Except PatternFault (Primitive × List Char) := .ok (.look l, cs)
    if c.isDigit then .error .backreference
    else if c == 'x' then readCode f 2 cs
    else if c == 'u' then readCode f 4 cs
    else if c == 'U' then readCode f 8 cs
    else if c == 'p' || c == 'P' then readProperty f (c == 'P') cs
    else match shorthand f c with
      | .error e => .error e
      | .ok (some t) => .ok (.set t, cs)
      | .ok none =>
        if isEscapable c then .ok (.character c, cs)
        else if c == 'a' then char 7
        else if c == 'f' then char 12
        else if c == 't' then char 9
        else if c == 'n' then char 10
        else if c == 'r' then char 13
        else if c == 'v' then char 11
        else if c == 'A' then look .textStart
        else if c == 'z' then look .textEnd
        else if c == 'b' then readBoundary f cs
        else if c == 'B' then look (.noWordBoundary ascii)
        else if c == '<' then look (.wordStart ascii)
        else if c == '>' then look (.wordEnd ascii)
        else .error .escape

/-! ## Classes -/

inductive SetOperation
  | intersection
  | difference
  | symmetricDifference

def SetOperation.apply : SetOperation → CharacterSet → CharacterSet → CharacterSet
  | intersection, a, b => a.intersection b
  | difference, a, b => a.difference b
  | symmetricDifference, a, b => a.symmetricDifference b

/-- An ASCII class such as `[:alpha:]`, after the outer bracket. -/
def readPosix? (f : Flags) (s : List Char) : Option (CharacterSet × List Char) :=
  match s with
  | ':' :: cs =>
    let (negated, cs) := match cs with
      | '^' :: r => (true, r)
      | r => (false, r)
    let name := cs.takeWhile (· != ':')
    match cs.dropWhile (· != ':') with
    | ':' :: ']' :: r => (CharacterSet.posix? name).map fun t =>
        let t := letterFold t f
        (if negated then t.complement else t, r)
    | _ => none
  | _ => none

def readClassItem (f : Flags) (s : List Char) : Except PatternFault (Primitive × List Char) :=
  match s with
  | [] => .error .classUnclosed
  | '\\' :: cs => readEscape f cs
  | c :: cs =>
    if !f.unicode && 0x7F < c.toNat then .error .notText else .ok (.character c, cs)

/-- One member of a class: a character, a range, or a set that an escape names. -/
def readClassRange (f : Flags) (s : List Char) :
    Except PatternFault (CharacterSet × List Char) := do
  let (a, r) ← readClassItem f s
  let single : Except PatternFault CharacterSet := match a with
    | .character c => .ok (.ofChar c)
    | .set t => .ok t
    | .look _ => .error .classEscape
  match skipSpace f.extended r with
  | [] => .error .classUnclosed
  | '-' :: cs =>
    let after := (skipSpace f.extended cs).head?
    if after == some ']' || after == some '-' then
      pure (← single, '-' :: cs)
    else
      let (b, r) ← readClassItem f (skipSpace f.extended cs)
      match a, b with
      | .character x, .character y =>
        if x ≤ y then pure (.ofRange x y, r) else .error .classRange
      | _, _ => .error .classRange
  | r => pure (← single, r)

/-- What was read of a class: the result of the operations so far with the operation that
waits, the members after it, and how deep classes lie inside. -/
structure ClassState where
  waiting : Option (CharacterSet × SetOperation)
  members : CharacterSet
  deep : Nat

namespace ClassState

def add (s : CharacterSet) (c : ClassState) : ClassState := { c with members := c.members.union s }

def result (f : Flags) (c : ClassState) : CharacterSet :=
  match c.waiting with
  | none => c.members
  | some (left, op) => op.apply (letterFold left f) (letterFold c.members f)

def operate (f : Flags) (op : SetOperation) (c : ClassState) : ClassState :=
  ⟨some (c.result f, op), .empty, c.deep + 1⟩

end ClassState

private def takeHyphens (extended : Bool) : Nat → List Char → Bool × List Char
  | 0, s => (false, s)
  | fuel + 1, s =>
    match s with
    | '-' :: cs => (true, (takeHyphens extended fuel (skipSpace extended cs)).2)
    | s => (false, s)

/-- After an opening bracket: whether the class is negated, and its first members. Hyphens and
a closing bracket stand for themselves there. -/
def openClass (f : Flags) (s : List Char) :
    Except PatternFault (Bool × ClassState × List Char) := do
  let s := skipSpace f.extended s
  let (negated, s) := match s with
    | '^' :: r => (true, skipSpace f.extended r)
    | r => (false, r)
  let (hyphen, s) := takeHyphens f.extended s.length s
  let start : ClassState := ⟨none, if hyphen then .ofChar '-' else .empty, 0⟩
  match s with
  | [] => .error .classUnclosed
  | ']' :: r =>
    if hyphen then pure (negated, start, s)
    else if (skipSpace f.extended r).isEmpty then .error .classUnclosed
    else pure (negated, start.add (.ofChar ']'), skipSpace f.extended r)
  | s => pure (negated, start, s)

/-- A class whose brackets are open; `outer` holds the classes around it, each with whether it
is negated. -/
def readClass (f : Flags) : Nat → Bool → ClassState → List (Bool × ClassState) → List Char →
    Except PatternFault (CharacterSet × Nat × List Char)
  | 0, _, _, _, _ => .error .classUnclosed
  | fuel + 1, negated, state, outer, s =>
    match skipSpace f.extended s with
    | [] => .error .classUnclosed
    | '[' :: cs =>
      match readPosix? f cs with
      | some (t, r) => readClass f fuel negated (state.add t) outer r
      | none =>
        match openClass f cs with
        | .error e => .error e
        | .ok (n, inner, r) => readClass f fuel n inner ((negated, state) :: outer) r
    | ']' :: cs =>
      let t := letterFold (state.result f) f
      let t := if negated then t.complement else t
      match outer with
      | [] => (checked f t).map fun t => (t, state.deep + 1, cs)
      | (n, around) :: outer =>
        readClass f fuel n { around.add t with deep := max around.deep (state.deep + 2) } outer cs
    | '&' :: '&' :: cs => readClass f fuel negated (state.operate f .intersection) outer cs
    | '-' :: '-' :: cs => readClass f fuel negated (state.operate f .difference) outer cs
    | '~' :: '~' :: cs => readClass f fuel negated (state.operate f .symmetricDifference) outer cs
    | s =>
      match readClassRange f s with
      | .error e => .error e
      | .ok (t, r) => readClass f fuel negated (state.add t) outer r

/-! ## Patterns -/

/-- A pattern with the depth of its nesting. What cannot be repeated is marked. -/
structure Piece where
  pattern : Pattern
  deep : Nat
  repeatable : Bool

/-- Pieces one after the other; they come in reverse. -/
def Piece.sequence (items : List Piece) : Piece :=
  match items with
  | [] => ⟨.empty, 0, true⟩
  | [p] => p
  | ps =>
    ⟨ps.foldl (fun r p => match r with
      | .empty => p.pattern
      | r => .seq p.pattern r) .empty, 1 + (ps.map (·.deep)).foldl max 0, true⟩

/-- Branches to choose from; they come in reverse. -/
def Piece.choice (branches : List Piece) : Piece :=
  match branches with
  | [] => ⟨.empty, 0, true⟩
  | [p] => p
  | p :: ps => ⟨ps.foldl (fun r q => .alt q.pattern r) p.pattern,
      1 + ((p :: ps).map (·.deep)).foldl max 0, true⟩

/-- An open group: what was read around it, and the flags to return to. -/
structure Frame where
  flags : Flags
  branches : List Piece
  items : List Piece

structure Reader where
  flags : Flags
  branches : List Piece
  items : List Piece
  frames : List Frame
  names : List (List Char)

namespace Reader

def start : Reader := ⟨.default, [], [], [], []⟩

def push (p : Piece) (r : Reader) : Reader := { r with items := p :: r.items }

def pushPattern (p : Pattern) (r : Reader) : Reader := r.push ⟨p, 0, true⟩

/-- What the innermost open group holds. -/
def close (r : Reader) : Piece := Piece.choice (Piece.sequence r.items :: r.branches)

def branch (r : Reader) : Reader :=
  { r with branches := Piece.sequence r.items :: r.branches, items := [] }

def openGroup (inner : Flags) (r : Reader) : Reader :=
  { r with flags := inner, branches := [], items := [],
           frames := ⟨r.flags, r.branches, r.items⟩ :: r.frames }

def closeGroup (r : Reader) : Except PatternFault Reader :=
  match r.frames with
  | [] => .error .groupUnopened
  | fr :: frames =>
    let p := r.close
    .ok { r with flags := fr.flags, branches := fr.branches,
                 items := ⟨p.pattern, p.deep + 1, true⟩ :: fr.items, frames := frames }

/-- Repeats the last piece. -/
def times (least : Nat) (most : Option Nat) (r : Reader) : Except PatternFault Reader :=
  match r.items with
  | [] => .error .repetitionMissing
  | p :: ps =>
    if p.repeatable then
      .ok { r with items := ⟨.times p.pattern least most, p.deep + 1, true⟩ :: ps }
    else .error .repetitionMissing

end Reader

def isNameStart (c : Char) : Bool := c == '_' || CharacterSet.alphabetic.contains c

def isNameCharacter (c : Char) : Bool :=
  isNameStart c || c == '.' || c == '[' || c == ']' ||
    (CharacterSet.group ["Nd", "Nl", "No"]).contains c

def readName (s : List Char) : Except PatternFault (List Char × List Char) :=
  let name := s.takeWhile (· != '>')
  match name, s.dropWhile (· != '>') with
  | c :: cs, _ :: r =>
    if isNameStart c && cs.all isNameCharacter then .ok (name, r) else .error .groupName
  | _, _ => .error .groupName

private def dropText? (mark s : List Char) : Option (List Char) :=
  if mark.isPrefixOf s then some (s.drop mark.length) else none

/-- After an opening parenthesis. -/
def readGroup (r : Reader) (s : List Char) : Except PatternFault (Reader × List Char) :=
  let s := skipSpace r.flags.extended s
  if ["?=", "?!", "?<=", "?<!"].any fun m => m.toList.isPrefixOf s then .error .lookAround
  else match (dropText? "?P<".toList s).or (dropText? "?<".toList s) with
    | some cs => do
      let (name, rest) ← readName cs
      if r.names.contains name then .error .groupName
      else pure ({ r with names := name :: r.names }.openGroup r.flags, rest)
    | none =>
      match s with
      | '?' :: cs => do
        let (flags, seen, ending, rest) ← r.flags.read [] true cs
        if ending == ')' then
          if seen.isEmpty then .error .repetitionMissing
          else pure ({ r with flags := flags }.push ⟨.empty, 0, false⟩, rest)
        else pure (r.openGroup flags, rest)
      | s => .ok (r.openGroup r.flags, s)

private def takeDigits (extended : Bool) : Nat → List Char → List Char × List Char
  | 0, s => ([], s)
  | fuel + 1, s =>
    match s with
    | [] => ([], [])
    | c :: cs =>
      if c.isDigit then
        let (ds, r) := takeDigits extended fuel (skipSpace extended cs)
        (c :: ds, r)
      else ([], c :: cs)

/-- A count of at most 32 bits, with blanks around it. -/
def readCount (extended : Bool) (s : List Char) : Except PatternFault (Nat × List Char) :=
  let s := s.dropWhile isBlank
  let (digits, r) := takeDigits extended s.length s
  if digits.isEmpty || Nat.pow 2 32 ≤ decimalValue digits then .error .repetitionCount
  else .ok (decimalValue digits, skipSpace extended (r.dropWhile isBlank))

/-- After an opening brace: the bounds of a repetition. -/
def readBounds (extended : Bool) (s : List Char) :
    Except PatternFault (Nat × Option Nat × List Char) := do
  let (least, r) ← readCount extended (skipSpace extended s)
  match r with
  | '}' :: r => pure (least, some least, r)
  | ',' :: r =>
    match skipSpace extended r with
    | '}' :: r => pure (least, none, r)
    | r =>
      let (most, r) ← readCount extended r
      match r with
      | '}' :: r => if least ≤ most then pure (least, some most, r) else .error .repetitionCount
      | _ => .error .repetitionCount
  | _ => .error .repetitionCount

private def dropLazy (s : List Char) : List Char :=
  match s with
  | '?' :: r => r
  | r => r

def characterPattern (f : Flags) (c : Char) : Except PatternFault Pattern :=
  if f.ignoreCase && !f.unicode && 0x7F < c.toNat then .error .notText
  else .ok (.set (letterFold (.ofChar c) f))

def anyCharacter (f : Flags) : Except PatternFault Pattern :=
  if !f.unicode then .error .notText
  else if f.dotAll then .ok (.set .all)
  else if f.crlf then .ok (.set ((CharacterSet.ofChar '\n').union (.ofChar '\r')).complement)
  else .ok (.set (CharacterSet.ofChar '\n').complement)

def primitivePattern (f : Flags) : Primitive → Except PatternFault Pattern
  | .character c => characterPattern f c
  | .look l => .ok (.look l)
  | .set s => .ok (.set s)

/-- The next operator or operand of a pattern. -/
def readStep (r : Reader) (c : Char) (cs : List Char) :
    Except PatternFault (Reader × List Char) := do
  let f := r.flags
  if c == '(' then readGroup r cs
  else if c == ')' then pure (← r.closeGroup, cs)
  else if c == '|' then pure (r.branch, cs)
  else if c == '[' then
    let (negated, state, rest) ← openClass f cs
    let (t, deep, rest) ← readClass f (cs.length + 1) negated state [] rest
    pure (r.push ⟨.set t, deep, true⟩, rest)
  else if c == '?' then pure (← r.times 0 (some 1), dropLazy cs)
  else if c == '*' then pure (← r.times 0 none, dropLazy cs)
  else if c == '+' then pure (← r.times 1 none, dropLazy cs)
  else if c == '{' then
    let (least, most, rest) ← readBounds f.extended cs
    pure (← r.times least most, dropLazy (skipSpace f.extended rest))
  else if c == '\\' then
    let (p, rest) ← readEscape f cs
    pure (r.pushPattern (← primitivePattern f p), rest)
  else if c == '.' then pure (r.pushPattern (← anyCharacter f), cs)
  else if c == '^' then
    pure (r.pushPattern (.look (if f.multiLine then .lineStart f.crlf else .textStart)), cs)
  else if c == '$' then
    pure (r.pushPattern (.look (if f.multiLine then .lineEnd f.crlf else .textEnd)), cs)
  else pure (r.pushPattern (← characterPattern f c), cs)

/-- Groups, classes and repetitions may lie this deep inside each other. -/
def depthLimit : Nat := 250

/-- Each step takes a character at least, so `fuel` above their number is never used up. -/
def readAll : Nat → Reader → List Char → Except PatternFault Piece
  | 0, _, _ => .error .groupUnclosed
  | fuel + 1, r, s =>
    match skipSpace r.flags.extended s with
    | [] => if r.frames.isEmpty then .ok r.close else .error .groupUnclosed
    | c :: cs =>
      match readStep r c cs with
      | .error e => .error e
      | .ok (r, rest) => readAll fuel r rest

/-- What a set of characters costs to match: characters beyond ASCII are several bytes. -/
def setCost (s : CharacterSet) : Nat :=
  s.ranges.foldl (fun n r => n + if r.2 < 0x80 then 8 else 60) 24

/-- About how many bytes the states take into which a pattern unfolds. -/
def cost : Pattern → Nat
  | empty => 24
  | set s => setCost s
  | look _ => 24
  | seq a b => a.cost + b.cost
  | alt a b => a.cost + b.cost + 32
  | times a least most =>
    match most with
    | none => a.cost * max least 1 + 32
    | some n => a.cost * n + 32 * (n - least) + 24

/-- A pattern may unfold to ten mebibytes. -/
def costLimit : Nat := 10 * Nat.pow 2 20

def ofText (s : String) : Except PatternFault Pattern :=
  match readAll (s.toList.length + 1) .start s.toList with
  | .error e => .error e
  | .ok p =>
    if depthLimit < p.deep then .error .tooDeep
    else if costLimit < p.pattern.cost then .error .tooLarge
    else .ok p.pattern

end PluginRelease.Pattern
