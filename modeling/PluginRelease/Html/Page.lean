import PluginRelease.Html.Draft.Frames
import PluginRelease.Html.Draft.Select
import PluginRelease.Html.Token.Reading

/-!
Pages from their text: every text is a page. A token goes to the rules of the mode the draft is
in, unless the current element is of another vocabulary.
-/
namespace PluginRelease.Html

namespace Draft

/-- An annotation in MathML that holds HTML, by its encoding. -/
def holdsAnnotatedHtml (d : Draft) (i : Nat) : Bool :=
  match d.content? i with
  | some (.element ⟨.mathml, "annotation-xml"⟩ attributes) =>
    attributes.any fun a => a.name = "encoding" &&
      ["text/html", "application/xhtml+xml"].contains (ElementName.lower a.value)
  | _ => false

/-- Whether the current element is of another vocabulary than HTML. -/
def isAbroad (d : Draft) : Bool := d.currentIs (·.space ≠ .html)

/-- Whether a token goes by the rules of the other vocabulary. -/
def goesAbroad (d : Draft) (t : Token) : Bool :=
  let annotated := d.currentIs (· = ⟨.mathml, "annotation-xml"⟩)
  d.isAbroad && match t with
    | .finish => false
    | .character _ =>
      !(d.currentIs fun n => n.isMathText || n.holdsHtml) &&
        !(annotated && d.current?.any d.holdsAnnotatedHtml)
    | .startTag s =>
      !(d.currentIs (·.isMathText) && !(["mglyph", "malignmark"].contains s.name)) &&
        !d.currentIs (·.holdsHtml) &&
        !(annotated && (s.name = "svg" || d.current?.any d.holdsAnnotatedHtml))
    | _ => true

/-- Leaves the other vocabulary for the nearest element that holds HTML. -/
def comeHome (d : Draft) : Draft :=
  d.popTo fun n => n.space = .html || n.isMathText || n.holdsHtml

def breaksOut (t : Tag) : Bool :=
  ElementName.breakouts.contains t.name ||
    (t.name = "font" && t.attributes.any fun a => ["color", "face", "size"].contains a.name)

def currentSpace (d : Draft) : Space := ((d.current?.bind d.name?).map (·.space)).getD .html

/-- An end tag closes the nearest element with its tag in any case; where HTML elements begin,
the rules of HTML go on. -/
def closeAbroad (d : Draft) (tag : String) : List Nat → Option Draft
  | [] => some d
  | [_] => some d
  | i :: rest =>
    match d.name? i with
    | none => some d
    | some n =>
      if ElementName.lower n.tag = tag then some { d with stack := rest }
      else match rest with
        | j :: _ => if d.is (·.space = .html) j then none else d.closeAbroad tag rest
        | [] => some d

/-- Takes a token by the rules of the mode the draft is in. -/
def takeInMode (d : Draft) (t : Token) : Outcome :=
  match d.mode with
  | .initial => d.inInitial t
  | .beforeHtml => d.inBeforeHtml t
  | .beforeHead => d.inBeforeHead t
  | .head => d.inHead t
  | .afterHead => d.inAfterHead t
  | .body => d.inBody t
  | .text => d.inText t
  | .table => d.inTable t
  | .tableText => d.inTableText t
  | .caption => d.inCaption t
  | .columns => d.inColumns t
  | .tableBody => d.inTableBody t
  | .row => d.inRow t
  | .cell => d.inCell t
  | .select => d.inSelect t
  | .selectInTable => d.inSelectInTable t
  | .template => d.inTemplate t
  | .afterBody => d.inAfterBody t
  | .frameset => d.inFrameset t
  | .afterFrameset => d.inAfterFrameset t
  | .afterAfterBody => d.inAfterBody t
  | .afterAfterFrameset => d.inAfterFrameset t

def takeAbroad (d : Draft) (t : Token) : Outcome :=
  match t with
  | .character c =>
    if c.toNat = 0 then .done (d.insertCharacter Reference.replacement)
    else .done ((if isSpace c then d else d.noFrames).insertCharacter c)
  | .startTag s =>
    if breaksOut s then d.comeHome.takeInMode t
    else if d.currentSpace = .svg then .done (d.openForeign .svg (ElementName.svgTag s.name) s)
    else .done (d.openForeign d.currentSpace s.name s)
  | .endTag e =>
    if e.name = "br" ∨ e.name = "p" then d.comeHome.takeInMode t
    else match d.closeAbroad e.name d.stack with
      | some d => .done d
      | none => d.takeInMode t
  | _ => .done d

/-- Takes a token until some mode is done with it; `fuel` bounds the changes of mode. -/
def takeFor : Nat → Draft → Token → Draft
  | 0, d, _ => d
  | fuel + 1, d, t =>
    match if d.goesAbroad t then d.takeAbroad t else d.takeInMode t with
    | .done d => d
    | .again d => takeFor fuel d t

/-- A doctype counts only at the very beginning. -/
def takeDoctype (d : Draft) (t : Doctype) : Draft :=
  if d.mode = .initial then { d with old := DoctypeReading.isOld t, mode := .beforeHtml } else d

/-- Each change of mode closes an element or moves on in the page. -/
def take (d : Draft) (t : Token) : Draft :=
  let skip := d.skipLineFeed && t = .character '\n'
  let d := { d with skipLineFeed := false }
  match t with
  | .doctype t => d.takeDoctype t
  | _ => if skip then d else takeFor (2 * d.stack.length + 32) d t

/-- Reads on; every step takes at least one character. -/
def readFor : Nat → Draft → List Char → Draft
  | 0, d, _ => d
  | _, d, [] => d.take .finish
  | fuel + 1, d, c :: s =>
    let (tokens, rest) := Token.next d.reading d.isAbroad c s
    readFor fuel (tokens.foldl take d) rest

end Draft

/-- The page that a text is. -/
def parse (text : String) : List Node :=
  let s := Token.prepare text
  (Draft.readFor (s.length + 1) .start s).page

end PluginRelease.Html
