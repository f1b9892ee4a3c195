import PluginRelease.Html.Token.DoctypeReading
import PluginRelease.Html.Token.ScriptReading

/-!
Reading the next tokens of a page. What cannot be a tag or a reference is text.
-/
namespace PluginRelease.Html.Token
open TagReading

/-- Line ends become line feeds. -/
def joinLineEnds : List Char → List Char
  | '\r' :: '\n' :: s => '\n' :: joinLineEnds s
  | '\r' :: s => '\n' :: joinLineEnds s
  | c :: s => c :: joinLineEnds s
  | [] => []

/-- The text to read: without a byte order mark, with one kind of line end. -/
def prepare (page : String) : List Char :=
  let s := page.toList
  joinLineEnds (if s.head?.any (·.toNat = 0xFEFF) then s.tail else s)

/-- Two dashes and a `>` end a comment, with or without a `!` between. -/
def skipComment : List Char → List Char
  | '-' :: '-' :: '>' :: s => s
  | '-' :: '-' :: '!' :: '>' :: s => s
  | _ :: s => skipComment s
  | [] => []

/-- A comment may be over right after it begins. -/
def skipCommentStart : List Char → List Char
  | '>' :: s => s
  | '-' :: '>' :: s => s
  | s => skipComment s

def cdataStart : List Char := "[CDATA[".toList

def splitCdata : List Char → List Char × List Char
  | ']' :: ']' :: '>' :: s => ([], s)
  | c :: s =>
    let r := splitCdata s
    (c :: r.1, r.2)
  | [] => ([], [])

abbrev Read := List Token × List Char

def characters (s : List Char) : List Token := s.map character

/-- After `<!`. -/
def declaration (foreign : Bool) (s : List Char) : Read :=
  match s with
  | '-' :: '-' :: r => ([comment], skipCommentStart r)
  | _ =>
    if DoctypeReading.startsWith "doctype" s then
      let (d, rest) := DoctypeReading.read (s.drop 7)
      ([doctype d], rest)
    else if foreign && cdataStart.isPrefixOf s then
      let (text, rest) := splitCdata (s.drop cdataStart.length)
      (characters text, rest)
    else ([comment], DoctypeReading.skipTag s)

def start (s : List Char) : Read :=
  match read? s with
  | some (t, rest) => ([startTag t], rest)
  | none => ([], [])

def finishTag (s : List Char) : Read :=
  match read? s with
  | some (t, rest) => ([endTag t], rest)
  | none => ([], [])

def markup (foreign : Bool) (c : Char) (s : List Char) : Read :=
  match c, s with
  | '<', '!' :: r => declaration foreign r
  | '<', '?' :: r => ([comment], DoctypeReading.skipTag r)
  | '<', '/' :: d :: r =>
    if d.isAlpha then finishTag (d :: r)
    else if d = '>' then ([], r)
    else ([comment], DoctypeReading.skipTag (d :: r))
  | '<', d :: r => if d.isAlpha then start (d :: r) else ([character '<'], d :: r)
  | '&', s =>
    match Reference.read? false s with
    | some m => (characters m.value, s.drop m.size)
    | none => ([character '&'], s)
  | c, s => ([character c], s)

def text (tag : String) (references : Bool) (c : Char) (s : List Char) : Read :=
  if isEndOf tag (c :: s) then finishTag s.tail
  else match if references && c = '&' then Reference.read? false s else none with
    | some m => (characters m.value, s.drop m.size)
    | none => ([character (shown c)], s)

def script (s : List Char) : Read :=
  let (code, rest) := ScriptReading.split .outside s
  let last := if rest.isEmpty then ([], []) else finishTag (rest.drop 2)
  (characters (code.map shown) ++ last.1, last.2)

/-- The tokens that a page begins with, and the page after them. -/
def next (reading : Reading) (foreign : Bool) (c : Char) (s : List Char) : Read :=
  match reading with
  | .markup => markup foreign c s
  | .text tag references => text tag references c s
  | .script => script (c :: s)
  | .plain => ([character (shown c)], s)

end PluginRelease.Html.Token
