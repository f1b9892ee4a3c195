import PluginRelease.Html.Draft.Formatting

/-!
The beginning of a page, where missing tags are supplied, and what belongs into its head
wherever it stands.
-/
namespace PluginRelease.Html

/-- What comes of a token: a draft, or a draft that is to take the token in another mode. -/
inductive Outcome
  | done (d : Draft)
  | again (d : Draft)

namespace Draft

/-- The mode that the open elements, the current one first, put a page in. -/
def modeOf (d : Draft) : List Nat → Mode
  | [] => .body
  | i :: rest =>
    match d.name? i with
    | some ⟨.html, tag⟩ =>
      match tag with
      | "select" =>
        match rest.find? fun j => d.isTag "template" j || d.isTag "table" j with
        | some j => if d.isTag "table" j then .selectInTable else .select
        | none => .select
      | "td" => if rest.isEmpty then .body else .cell
      | "th" => if rest.isEmpty then .body else .cell
      | "tr" => .row
      | "tbody" => .tableBody
      | "thead" => .tableBody
      | "tfoot" => .tableBody
      | "caption" => .caption
      | "colgroup" => .columns
      | "table" => .table
      | "template" => d.templateModes.headD .body
      | "head" => if rest.isEmpty then .body else .head
      | "body" => .body
      | "frameset" => .frameset
      | "html" => if d.head.isNone then .beforeHead else .afterHead
      | _ => d.modeOf rest
    | _ => d.modeOf rest

def resetMode (d : Draft) : Draft := d.enter (d.modeOf d.stack)

/-- A second start tag of the page only adds attributes. -/
def mergeRoot (d : Draft) (t : Tag) : Draft :=
  if d.isInTemplate then d
  else match d.stack.getLast? with
    | some i => d.addMissing i t.attributes
    | none => d

def openTemplate (d : Draft) (t : Tag) : Draft :=
  { ((d.openTag t).mark.noFrames.enter .template) with
    templateModes := .template :: d.templateModes }

def closeTemplate (d : Draft) : Draft :=
  if d.isInTemplate then
    let d := ((d.implyEnds ElementName.thoroughImpliedEnds).popThroughTag "template").clearToMark
    resetMode { d with templateModes := d.templateModes.tail }
  else d

/-- The page ends within a template. -/
def abandonTemplate (d : Draft) : Outcome :=
  if d.isInTemplate then
    let d := (d.popThroughTag "template").clearToMark
    .again (resetMode { d with templateModes := d.templateModes.tail })
  else .done d

def headTags : List String :=
  ["base", "basefont", "bgsound", "link", "meta", "noframes", "script", "style", "template",
    "title"]

def openHeadTag (d : Draft) (t : Tag) : Draft :=
  if t.name = "title" then d.openText t (.text "title" true)
  else if t.name = "script" then d.openText t .script
  else if ["noframes", "noscript", "style"].contains t.name then d.openText t (.text t.name false)
  else if t.name = "template" then d.openTemplate t
  else d.insertEmpty t

/-- End tags that stand for a missing start tag before the body. -/
def earlyEnds : List String := ["head", "body", "html", "br"]

/-- Without a doctype, or with an old one, a page is read in the old way. -/
def inInitial (d : Draft) (t : Token) : Outcome :=
  let leave : Outcome := .again { d with old := true, mode := .beforeHtml }
  match t with
  | .character c => if isSpace c then .done d else leave
  | .comment => .done d
  | _ => leave

def openRoot (d : Draft) (attributes : List Attribute) : Draft :=
  let (d, i) := d.create (.html "html") attributes
  ((d.attach i (.last pageRoot)).push i).enter .beforeHead

def inBeforeHtml (d : Draft) : Token → Outcome
  | .comment => .done d
  | .character c => if isSpace c then .done d else .again (d.openRoot [])
  | .startTag t =>
    if t.name = "html" then .done (d.openRoot t.attributes) else .again (d.openRoot [])
  | .endTag t => if earlyEnds.contains t.name then .again (d.openRoot []) else .done d
  | _ => .again (d.openRoot [])

def openHead (d : Draft) (t : Tag) : Draft :=
  let d := d.openTag t
  { d with head := d.current?, mode := .head }

def inBeforeHead (d : Draft) : Token → Outcome
  | .comment => .done d
  | .character c => if isSpace c then .done d else .again (d.openHead (.plain "head"))
  | .startTag t =>
    if t.name = "html" then .done (d.mergeRoot t)
    else if t.name = "head" then .done (d.openHead t)
    else .again (d.openHead (.plain "head"))
  | .endTag t =>
    if earlyEnds.contains t.name then .again (d.openHead (.plain "head")) else .done d
  | _ => .again (d.openHead (.plain "head"))

def leaveHead (d : Draft) : Draft := d.pop.enter .afterHead

def inHead (d : Draft) : Token → Outcome
  | .comment => .done d
  | .character c => if isSpace c then .done (d.insertCharacter c) else .again d.leaveHead
  | .startTag t =>
    if t.name = "html" then .done (d.mergeRoot t)
    else if headTags.contains t.name ∨ t.name = "noscript" then .done (d.openHeadTag t)
    else if t.name = "head" then .done d
    else .again d.leaveHead
  | .endTag t =>
    if t.name = "head" then .done d.leaveHead
    else if t.name = "template" then .done d.closeTemplate
    else if earlyEnds.contains t.name then .again d.leaveHead
    else .done d
  | _ => .again d.leaveHead

def openBody (d : Draft) (t : Tag) : Draft := (d.openTag t).enter .body

/-- What belongs into the head goes there after its end too. -/
def openLateHeadTag (d : Draft) (t : Tag) : Draft :=
  match d.head with
  | some h => ((d.push h).openHeadTag t).close h
  | none => d.openHeadTag t

def inAfterHead (d : Draft) : Token → Outcome
  | .comment => .done d
  | .character c =>
    if isSpace c then .done (d.insertCharacter c) else .again (d.openBody (.plain "body"))
  | .startTag t =>
    if t.name = "html" then .done (d.mergeRoot t)
    else if t.name = "body" then .done (d.openBody t).noFrames
    else if t.name = "frameset" then .done ((d.openTag t).enter .frameset)
    else if headTags.contains t.name then .done (d.openLateHeadTag t)
    else if t.name = "head" then .done d
    else .again (d.openBody (.plain "body"))
  | .endTag t =>
    if t.name = "template" then .done d.closeTemplate
    else if ["body", "html", "br"].contains t.name then .again (d.openBody (.plain "body"))
    else .done d
  | _ => .again (d.openBody (.plain "body"))

/-- A text ends with the end tag of its element, or with the page. -/
def inText (d : Draft) : Token → Outcome
  | .character c => .done (d.insertCharacter c)
  | .endTag _ => .done { d.pop with mode := d.returnMode, reading := .markup }
  | .finish => .again { d.pop with mode := d.returnMode, reading := .markup }
  | _ => .done d

end Draft
end PluginRelease.Html
