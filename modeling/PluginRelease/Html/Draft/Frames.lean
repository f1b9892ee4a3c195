import PluginRelease.Html.Draft.Body

/-!
Frames in the place of a body, and what follows the end of a page.
-/
namespace PluginRelease.Html.Draft

/-- Blanks and attributes of the page may still come; all else belongs to the body. -/
def inAfterBody (d : Draft) (t : Token) : Outcome :=
  match t with
  | .comment => .done d
  | .doctype _ => .done d
  | .finish => .done d
  | .character c => if isSpace c then .done (d.flow c) else .again (d.enter .body)
  | .startTag s => if s.name = "html" then .done (d.mergeRoot s) else .again (d.enter .body)
  | .endTag e =>
    if e.name = "html" ∧ d.mode = .afterBody then .done (d.enter .afterAfterBody)
    else .again (d.enter .body)

def closeFrameset (d : Draft) : Draft :=
  if d.stack.length ≤ 1 then d
  else
    let d := d.pop
    if d.currentIsTag "frameset" then d else d.enter .afterFrameset

def inFrameset (d : Draft) : Token → Outcome
  | .character c => .done (if isSpace c then d.insertCharacter c else d)
  | .startTag t =>
    .done <|
      if t.name = "html" then d.mergeRoot t
      else if t.name = "frameset" then d.openTag t
      else if t.name = "frame" then d.insertEmpty t
      else if t.name = "noframes" then d.openHeadTag t
      else d
  | .endTag t => .done (if t.name = "frameset" then d.closeFrameset else d)
  | _ => .done d

def inAfterFrameset (d : Draft) : Token → Outcome
  | .character c =>
    if isSpace c then
      .done (if d.mode = .afterFrameset then d.insertCharacter c else d.flow c)
    else .done d
  | .startTag t =>
    .done <|
      if t.name = "html" then d.mergeRoot t
      else if t.name = "noframes" then d.openHeadTag t
      else d
  | .endTag t => .done (if t.name = "html" then d.enter .afterAfterFrameset else d)
  | _ => .done d

end PluginRelease.Html.Draft
