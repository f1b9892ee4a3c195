import PluginRelease.Html.Draft.Table

/-!
Lists of options, which hold nothing but options, and what templates hold.
-/
namespace PluginRelease.Html.Draft

def closeSelect (d : Draft) : Draft := (d.popThroughTag "select").resetMode

def popGroup (d : Draft) : Draft := if d.currentIsTag "optgroup" then d.pop else d

/-- The end of a group closes the option that is open in it. -/
def closeGroup (d : Draft) : Draft :=
  match d.stack with
  | i :: j :: _ =>
    if d.isTag "option" i && d.isTag "optgroup" j then d.pop.pop else d.popGroup
  | _ => d.popGroup

def inSelect (d : Draft) : Token → Outcome
  | .character c => .done (if c.toNat = 0 then d else d.insertCharacter c)
  | .startTag t =>
    let isOpen := d.hasTag .select "select"
    if t.name = "html" then .done (d.mergeRoot t)
    else if t.name = "option" then .done (d.popOption.openTag t)
    else if t.name = "optgroup" then .done (d.popOption.popGroup.openTag t)
    else if t.name = "select" then .done (if isOpen then d.closeSelect else d)
    else if ["input", "keygen", "textarea"].contains t.name then
      if isOpen then .again d.closeSelect else .done d
    else if t.name = "script" ∨ t.name = "template" then .done (d.openHeadTag t)
    else .done d
  | .endTag t =>
    if t.name = "optgroup" then .done d.closeGroup
    else if t.name = "option" then .done d.popOption
    else if t.name = "select" then
      .done (if d.hasTag .select "select" then d.closeSelect else d)
    else if t.name = "template" then .done d.closeTemplate
    else .done d
  | .finish => d.inBody .finish
  | _ => .done d

/-- A part of the table ends the list inside it. -/
def inSelectInTable (d : Draft) (t : Token) : Outcome :=
  let isPart (name : String) : Bool :=
    ElementName.tableParts.contains name || ElementName.cells.contains name || name = "caption"
  match t with
  | .startTag s => if isPart s.name then .again d.closeSelect else d.inSelect t
  | .endTag e =>
    if isPart e.name then if d.hasTag .table e.name then .again d.closeSelect else .done d
    else d.inSelect t
  | _ => d.inSelect t

/-- The first start tag decides what a template holds. -/
def inTemplate (d : Draft) (t : Token) : Outcome :=
  let go (mode : Mode) : Outcome :=
    .again { d with templateModes := mode :: d.templateModes.tail, mode }
  match t with
  | .startTag s =>
    if headTags.contains s.name then .done (d.openHeadTag s)
    else if ["caption", "colgroup"].contains s.name ∨ ElementName.sections.contains s.name then
      go .table
    else if s.name = "col" then go .columns
    else if s.name = "tr" then go .tableBody
    else if ElementName.cells.contains s.name then go .row
    else go .body
  | .endTag e => .done (if e.name = "template" then d.closeTemplate else d)
  | .finish => d.abandonTemplate
  | _ => d.inBody t

end PluginRelease.Html.Draft
