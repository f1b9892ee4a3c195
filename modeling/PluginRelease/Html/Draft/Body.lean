import PluginRelease.Html.Draft.Head

/-!
The body of a page. Start tags close what cannot contain them, and end tags close what still
stands open inside.
-/
namespace PluginRelease.Html.Draft

def isHidden (t : Tag) : Bool := (t.attribute? "type").any (ElementName.lower · = "hidden")

/-- A character in running text. -/
def flow (d : Draft) (c : Char) : Draft :=
  if c.toNat = 0 then d
  else
    let d := d.reconstruct
    (if isSpace c then d else d.noFrames).insertCharacter c

def body? (d : Draft) : Option Nat :=
  match d.stack.reverse with
  | _ :: i :: _ => if d.isTag "body" i then some i else none
  | _ => none

def mergeBody (d : Draft) (t : Tag) : Draft :=
  match d.body? with
  | some i => if d.isInTemplate then d else d.noFrames.addMissing i t.attributes
  | none => d

/-- Frames replace a body that shows nothing yet. -/
def replaceBody (d : Draft) (t : Tag) : Draft :=
  if !d.framesAllowed then d
  else match d.body? with
    | none => d
    | some i =>
      let d := d.detach i
      ({ d with stack := d.stack.drop (d.stack.length - 1) }.openTag t).enter .frameset

/-- A form inside a form is none. -/
def openForm (d : Draft) (t : Tag) : Draft :=
  if d.form.isSome ∧ !d.isInTemplate then d
  else
    let d := d.closeParagraphInScope.openTag t
    if d.isInTemplate then d else { d with form := d.current? }

def closeForm (d : Draft) : Draft :=
  if d.isInTemplate then
    if d.hasTag .default "form" then (d.implyEnds ElementName.impliedEnds).popThroughTag "form"
    else d
  else match d.form with
    | none => d
    | some i =>
      let d := { d with form := none }
      if d.scopeContains .default (· = i) d.stack then
        (d.implyEnds ElementName.impliedEnds).close i
      else d

/-- A new item closes the one before it. -/
def openItem (d : Draft) (t : Tag) : Draft :=
  let closing := if t.name = "li" then ["li"] else ["dd", "dt"]
  let isWall (i : Nat) : Bool :=
    d.is (fun n => n.isSpecial && !n.isOneOf ["address", "div", "p"]) i
  let open? := d.stack.find? fun i => d.is (·.isOneOf closing) i || isWall i
  let d := d.noFrames
  let d := match open?.bind d.name? with
    | some n => if n.isOneOf closing then (d.implyEndsExcept n.tag).popThroughTag n.tag else d
    | none => d
  d.closeParagraphInScope.openTag t

/-- An end tag that closes all inside its element. -/
def closeTag (d : Draft) (s : ElementName.Scope) (tag : String) : Draft :=
  if d.hasTag s tag then (d.implyEnds ElementName.impliedEnds).popThroughTag tag else d

def closeItem (d : Draft) (tag : String) : Draft :=
  if d.hasTag (if tag = "li" then .listItem else .default) tag then
    (d.implyEndsExcept tag).popThroughTag tag
  else d

def closeHeading (d : Draft) : Draft :=
  if d.inScope .default (·.isOneOf ElementName.headings) then
    (d.implyEnds ElementName.impliedEnds).popThrough (·.isOneOf ElementName.headings)
  else d

def closeButton (d : Draft) : Draft := d.closeTag .default "button"

/-- A link inside a link closes the outer one. -/
def openLink (d : Draft) (t : Tag) : Draft :=
  let d := match d.recentFormats.find? fun f => d.isTag "a" f.1 with
    | some f => ((d.closeFormat "a").removeFormat f.1).close f.1
    | none => d
  d.reconstruct.openFormat t

def openUnbroken (d : Draft) (t : Tag) : Draft :=
  let d := d.reconstruct
  let d := if d.hasTag .default "nobr" then (d.closeFormat "nobr").reconstruct else d
  d.openFormat t

def openSelect (d : Draft) (t : Tag) : Draft :=
  let inTable := [Mode.table, .caption, .tableBody, .row, .cell].contains d.mode
  (d.reconstruct.openTag t).noFrames.enter (if inTable then .selectInTable else .select)

/-- Opens an element of another vocabulary. -/
def openForeign (d : Draft) (space : Space) (tag : String) (t : Tag) : Draft :=
  let attributes := t.attributes.map ElementName.foreignAttribute
  if t.selfClosing then (d.insertElement ⟨space, tag⟩ attributes).1
  else d.openElement ⟨space, tag⟩ attributes

def popOption (d : Draft) : Draft := if d.currentIsTag "option" then d.pop else d

def openBlock (d : Draft) (t : Tag) : Draft := d.closeParagraphInScope.openTag t

def openHeading (d : Draft) (t : Tag) : Draft :=
  let d := d.closeParagraphInScope
  (if d.currentIn ElementName.headings then d.pop else d).openTag t

/-- Ruby text closes the one before it, up to a container of such texts. -/
def openRuby (d : Draft) (t : Tag) (container : List String) : Draft :=
  let d := if d.hasTag .default "ruby" then
      d.implyEnds (ElementName.impliedEnds.filter (!container.contains ·))
    else d
  d.openTag t

/-- An element without content in running text. -/
def flowEmpty (d : Draft) (t : Tag) : Draft := d.reconstruct.insertEmpty t

/-- Start tags that mean nothing in a body. -/
def strayStarts : List String :=
  ["caption", "col", "colgroup", "frame", "head", "tbody", "td", "tfoot", "th", "thead", "tr"]

def startInBody (d : Draft) (t : Tag) : Draft :=
  let name := t.name
  if name = "html" then d.mergeRoot t
  else if headTags.contains name then d.openHeadTag t
  else if name = "body" then d.mergeBody t
  else if name = "frameset" then d.replaceBody t
  else if ElementName.blocks.contains name ∨ name = "p" then d.openBlock t
  else if ElementName.headings.contains name then d.openHeading t
  else if name = "pre" ∨ name = "listing" then
    { (d.openBlock t).noFrames with skipLineFeed := true }
  else if name = "form" then d.openForm t
  else if ["li", "dd", "dt"].contains name then d.openItem t
  else if name = "plaintext" then { d.openBlock t with reading := .plain }
  else if name = "button" then (d.closeButton.reconstruct.openTag t).noFrames
  else if name = "a" then d.openLink t
  else if ElementName.formatting.contains name then d.reconstruct.openFormat t
  else if name = "nobr" then d.openUnbroken t
  else if ["applet", "marquee", "object"].contains name then (d.reconstruct.openTag t).mark.noFrames
  else if name = "table" then ((if d.old then d.openTag t else d.openBlock t).noFrames).enter .table
  else if ["area", "br", "embed", "img", "keygen", "wbr"].contains name then
    (d.flowEmpty t).noFrames
  else if name = "image" then (d.flowEmpty { t with name := "img" }).noFrames
  else if name = "input" then if isHidden t then d.flowEmpty t else (d.flowEmpty t).noFrames
  else if ["param", "source", "track"].contains name then d.insertEmpty t
  else if name = "hr" then (d.closeParagraphInScope.insertEmpty t).noFrames
  else if name = "textarea" then
    { (d.openText t (.text name true)).noFrames with skipLineFeed := true }
  else if name = "xmp" then
    (d.closeParagraphInScope.reconstruct.openText t (.text name false)).noFrames
  else if name = "iframe" then (d.openText t (.text name false)).noFrames
  else if name = "noembed" ∨ name = "noscript" then d.openText t (.text name false)
  else if name = "select" then d.openSelect t
  else if name = "optgroup" ∨ name = "option" then d.popOption.reconstruct.openTag t
  else if name = "rb" ∨ name = "rtc" then d.openRuby t []
  else if name = "rp" ∨ name = "rt" then d.openRuby t ["rtc"]
  else if name = "math" then d.reconstruct.openForeign .mathml name t
  else if name = "svg" then d.reconstruct.openForeign .svg name t
  else if strayStarts.contains name then d
  else d.reconstruct.openTag t

/-- The end of a paragraph that is not open makes an empty one. -/
def closeParagraphTag (d : Draft) : Draft :=
  (if d.hasTag .button "p" then d else d.openTag (.plain "p")).closeParagraph

def endInBody (d : Draft) (t : Tag) : Outcome :=
  let name := t.name
  if name = "template" then .done d.closeTemplate
  else if name = "body" then .done (if d.hasTag .default "body" then d.enter .afterBody else d)
  else if name = "html" then
    if d.hasTag .default "body" then .again (d.enter .afterBody) else .done d
  else if ElementName.blocks.contains name ∨ ["button", "listing", "pre"].contains name then
    .done (d.closeTag .default name)
  else if name = "form" then .done d.closeForm
  else if name = "p" then .done d.closeParagraphTag
  else if ["li", "dd", "dt"].contains name then .done (d.closeItem name)
  else if ElementName.headings.contains name then .done d.closeHeading
  else if ElementName.formatting.contains name ∨ name = "a" ∨ name = "nobr" then
    .done (d.closeFormat name)
  else if ["applet", "marquee", "object"].contains name then
    .done (if d.hasTag .default name then (d.closeTag .default name).clearToMark else d)
  else if name = "br" then .done (d.flowEmpty (.plain "br")).noFrames
  else .done (d.closeOther name)

def inBody (d : Draft) : Token → Outcome
  | .character c => .done (d.flow c)
  | .startTag t => .done (d.startInBody t)
  | .endTag t => d.endInBody t
  | .finish => if d.templateModes.isEmpty then .done d else d.abandonTemplate
  | _ => .done d

end PluginRelease.Html.Draft
