import PluginRelease.Html.Draft.Body

/-!
Tables. Their parts supply each other's missing tags, and what is no part of a table goes before
it.
-/
namespace PluginRelease.Html.Draft

/-- Takes a token as the body does, with its content put before the table. -/
def foster (d : Draft) (t : Token) : Outcome :=
  match ({ d with fostering := true } : Draft).inBody t with
  | .done d => .done { d with fostering := false }
  | .again d => .again { d with fostering := false }

def fosterCharacter (d : Draft) (c : Char) : Draft :=
  { ({ d with fostering := true } : Draft).flow c with fostering := false }

/-- Text in a table waits until it is known to be blank. -/
def tableCharacter (d : Draft) (c : Char) : Outcome :=
  if d.currentIn ElementName.tableParts then
    .again { d with returnMode := d.mode, mode := .tableText }
  else .done (d.fosterCharacter c)

def openPart (d : Draft) (t : Tag) (context : List String) (mode : Mode) : Draft :=
  ((d.popToContext context).openTag t).enter mode

/-- A form right inside a table holds nothing; still no other form opens before its end. -/
def openTableForm (d : Draft) (t : Tag) : Draft :=
  if d.isInTemplate ∨ d.form.isSome then d
  else
    let d := d.openTag t
    { d.pop with form := d.current? }

def tableEnds : List String :=
  ["body", "caption", "col", "colgroup", "html", "tbody", "td", "tfoot", "th", "thead", "tr"]

def closeTable (d : Draft) : Draft := (d.popThroughTag "table").resetMode

def startInTable (d : Draft) (t : Tag) : Outcome :=
  let name := t.name
  let table := ["table"]
  if name = "caption" then .done ((d.popToContext table).mark.openPart t table .caption)
  else if name = "colgroup" then .done (d.openPart t table .columns)
  else if name = "col" then .again (d.openPart (.plain "colgroup") table .columns)
  else if ElementName.sections.contains name then .done (d.openPart t table .tableBody)
  else if ElementName.cells.contains name ∨ name = "tr" then
    .again (d.openPart (.plain "tbody") table .tableBody)
  else if name = "table" then if d.hasTag .table name then .again d.closeTable else .done d
  else if ["style", "script", "template"].contains name then .done (d.openHeadTag t)
  else if name = "input" ∧ isHidden t then .done (d.insertEmpty t)
  else if name = "form" then .done (d.openTableForm t)
  else d.foster (.startTag t)

def inTable (d : Draft) : Token → Outcome
  | .character c => d.tableCharacter c
  | .startTag t => d.startInTable t
  | .endTag t =>
    if t.name = "table" then .done (if d.hasTag .table "table" then d.closeTable else d)
    else if t.name = "template" then .done d.closeTemplate
    else if tableEnds.contains t.name then .done d
    else d.foster (.endTag t)
  | .finish => d.inBody .finish
  | _ => .done d

/-- Blank text stays in the table, all other goes before it. -/
def settleTableText (d : Draft) : Draft :=
  let text := d.tableText.reverse
  let d := { d with tableText := [], mode := d.returnMode }
  if text.all isSpace then text.foldl insertCharacter d else text.foldl fosterCharacter d

def inTableText (d : Draft) : Token → Outcome
  | .character c => .done (if c.toNat = 0 then d else { d with tableText := c :: d.tableText })
  | _ => .again d.settleTableText

def closeCaption (d : Draft) : Draft :=
  ((d.implyEnds ElementName.impliedEnds).popThroughTag "caption").clearToMark.enter .table

def captionStarts : List String :=
  ["caption", "col", "colgroup", "tbody", "td", "tfoot", "th", "thead", "tr"]

def inCaption (d : Draft) (t : Token) : Outcome :=
  let leave (name : String) : Outcome :=
    if !d.hasTag .table "caption" then .done d
    else if name = "caption" then .done d.closeCaption
    else .again d.closeCaption
  match t with
  | .startTag s =>
    if captionStarts.contains s.name then
      if d.hasTag .table "caption" then .again d.closeCaption else .done d
    else d.inBody t
  | .endTag e =>
    if e.name = "caption" ∨ e.name = "table" then leave e.name
    else if tableEnds.contains e.name then .done d
    else d.inBody t
  | _ => d.inBody t

def leaveColumns (d : Draft) : Outcome :=
  if d.currentIsTag "colgroup" then .again (d.pop.enter .table) else .done d

def inColumns (d : Draft) : Token → Outcome
  | .character c => if isSpace c then .done (d.insertCharacter c) else d.leaveColumns
  | .comment => .done d
  | .startTag t =>
    if t.name = "html" then .done (d.mergeRoot t)
    else if t.name = "col" then .done (d.insertEmpty t)
    else if t.name = "template" then .done (d.openHeadTag t)
    else d.leaveColumns
  | .endTag t =>
    if t.name = "colgroup" then
      .done (if d.currentIsTag "colgroup" then d.pop.enter .table else d)
    else if t.name = "col" then .done d
    else if t.name = "template" then .done d.closeTemplate
    else d.leaveColumns
  | .finish => d.inBody .finish
  | _ => d.leaveColumns

def sectionStarts : List String := ["caption", "col", "colgroup", "tbody", "tfoot", "thead"]

def leaveSection (d : Draft) : Draft := (d.popToContext ElementName.sections).pop.enter .table

def inTableBody (d : Draft) (t : Token) : Outcome :=
  let leave : Outcome :=
    if d.inScope .table (·.isOneOf ["table", "tbody", "tfoot"]) then .again d.leaveSection
    else .done d
  match t with
  | .startTag s =>
    if s.name = "tr" then .done (d.openPart s ElementName.sections .row)
    else if ElementName.cells.contains s.name then
      .again (d.openPart (.plain "tr") ElementName.sections .row)
    else if sectionStarts.contains s.name then leave
    else d.inTable t
  | .endTag e =>
    if ElementName.sections.contains e.name then
      .done (if d.hasTag .table e.name then d.leaveSection else d)
    else if e.name = "table" then leave
    else if tableEnds.contains e.name then .done d
    else d.inTable t
  | _ => d.inTable t

def leaveRow (d : Draft) : Draft := (d.popToContext ["tr"]).pop.enter .tableBody

def inRow (d : Draft) (t : Token) : Outcome :=
  let leave : Outcome := if d.hasTag .table "tr" then .again d.leaveRow else .done d
  match t with
  | .startTag s =>
    if ElementName.cells.contains s.name then .done (d.openPart s ["tr"] .cell).mark
    else if sectionStarts.contains s.name ∨ s.name = "tr" then leave
    else d.inTable t
  | .endTag e =>
    if e.name = "tr" then .done (if d.hasTag .table "tr" then d.leaveRow else d)
    else if e.name = "table" then leave
    else if ElementName.sections.contains e.name then
      if d.hasTag .table e.name then leave else .done d
    else if tableEnds.contains e.name then .done d
    else d.inTable t
  | _ => d.inTable t

/-- Closes the cell that is open, of either kind. -/
def closeCell (d : Draft) : Draft :=
  let d := (d.implyEnds ElementName.impliedEnds).popThrough (·.isOneOf ElementName.cells)
  d.clearToMark.enter .row

def inCell (d : Draft) (t : Token) : Outcome :=
  match t with
  | .startTag s =>
    if captionStarts.contains s.name then
      if d.inScope .table (·.isOneOf ElementName.cells) then .again d.closeCell else .done d
    else d.inBody t
  | .endTag e =>
    if ElementName.cells.contains e.name then
      if d.hasTag .table e.name then
        .done (((d.implyEnds ElementName.impliedEnds).popThroughTag e.name).clearToMark.enter .row)
      else .done d
    else if ElementName.tableParts.contains e.name then
      if d.hasTag .table e.name then .again d.closeCell else .done d
    else if tableEnds.contains e.name then .done d
    else d.inBody t
  | _ => d.inBody t

end PluginRelease.Html.Draft
