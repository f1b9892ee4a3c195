import PluginRelease.Form.Basic
import PluginRelease.Text.Percent

/-!
Forms in parts, so that files can be sent. A file control without a file is sent empty.
-/
namespace PluginRelease.Form
open Text

structure Part where
  name : String
  fileName : Option String
  type : Option String
  content : Bytes
deriving DecidableEq, Repr

namespace Part

def textPart (name value : String) : Part := ⟨name, none, none, Utf8.encode value.toList⟩

def noFile (name : String) : Part := ⟨name, some "", none, []⟩

/-- The extension that says of what type a file is; it counts as none where it is no text. -/
def typeExtension (file : Path) : String := (file.extension?.bind Utf8.text?).getD ""

/-- A file is sent under its last name, and with the type that `typeOf` gives for its extension. -/
def attached (typeOf : String → String) (w : Workspace) (name : String) (file : Path) :
    Except SystemFault Part := do
  pure ⟨name, file.fileName?.map Utf8.shown, some (typeOf (typeExtension file)), ← w.read file⟩

/-- Marks that a name is encoded for. -/
def nameMarks : List Char :=
  [' ', '"', '<', '>', '\x60', '#', '?', '\x7b', '\x7d', '/', '%']

def escaped (c : Char) : List Char := if ['\\', '"', '\r', '\n'].contains c then ['\\', c] else [c]

def nameField (name : String) : List Char :=
  let encoded := Percent.encode nameMarks name.toList
  if encoded = name.toList then "name=\"".toList ++ encoded ++ ['"']
  else "name*=utf-8''".toList ++ encoded

def fileField : Option String → List Char
  | none => []
  | some f => "; filename=\"".toList ++ f.toList.flatMap escaped ++ ['"']

def typeField : Option String → List Char
  | none => []
  | some t => "\r\nContent-Type: ".toList ++ t.toList

def headers (p : Part) : List Char :=
  "Content-Disposition: form-data; ".toList ++ nameField p.name ++ fileField p.fileName ++
    typeField p.type

def render (boundary : String) (p : Part) : Bytes :=
  Utf8.encode ("--".toList ++ boundary.toList ++ "\r\n".toList ++ p.headers ++ "\r\n\r\n".toList) ++
    p.content ++ Utf8.encode "\r\n".toList

end Part

/-- The part of a control, with a file attached to the controls of one name. -/
def partOf (typeOf : String → String) (w : Workspace) (fileControl : String) (file : Path)
    (c : Control) : Except SystemFault Part :=
  match c.kind with
  | .file =>
    if c.name = fileControl then Part.attached typeOf w c.name file else .ok (Part.noFile c.name)
  | _ => .ok (Part.textPart c.name c.value)

def multipart (f : Form) (typeOf : String → String) (w : Workspace) (fileControl : String)
    (file : Path) : Except SystemFault (List Part) :=
  f.submitted.mapM (partOf typeOf w fileControl file)

/-- No parts make an empty body. -/
def renderParts (boundary : String) (parts : List Part) : Bytes :=
  if parts.isEmpty then []
  else parts.flatMap (Part.render boundary) ++ Utf8.encode ("--" ++ boundary ++ "--\r\n").toList

end PluginRelease.Form
