import PluginRelease.Failure
import PluginRelease.Form.Control
import PluginRelease.Html.Page
import PluginRelease.Url.Reading

/-!
Forms: finding one on a page, filling it in, and what of it is sent. Of the submit buttons only
the first is sent.
-/
namespace PluginRelease

structure Form where
  name : String
  method : String
  action : Url
  controls : List Form.Control
deriving DecidableEq, Repr

namespace Form
open Html Text

def upper (s : String) : String := String.ofList (s.toList.map Char.toUpper)

def methodOf (n : Node) : String := upper ((n.attribute? "method").getD "GET")

/-- Whether a node is a form of a name, and of a method if one is asked for. -/
def isCalled (name : String) (method : Option String) (n : Node) : Bool :=
  n.tag? = some "form" && n.attribute? "name" = some name &&
    method.all fun m => upper m = methodOf n

/-- A form without an action goes back to its page. -/
def actionOf (page : Url) (n : Node) : Except FormFailure Url :=
  match (n.attribute? "action").map fun a => trim a.toList with
  | none => .ok page
  | some [] => .ok page
  | some a =>
    match page.join (String.ofList a) with
    | .ok u => .ok u
    | .error e => .error (.badAction (String.ofList a) e.message)

def ofNode (page : Url) (name : String) (n : Node) : Except FormFailure Form := do
  pure ⟨name, methodOf n, ← actionOf page n, controlsOf n⟩

def findIn (nodes : List Node) (page : Url) (name : String) (method : Option String) :
    Except FormFailure Form :=
  match (Node.forest nodes).find? (isCalled name method) with
  | some n => ofNode page name n
  | none => .error (.formNotFound name page.render)

/-- The first form of a name on a page. -/
def find (text : String) (page : Url) (name : String) (method : Option String) :
    Except FormFailure Form :=
  findIn (Html.parse text) page name method

/-- Whether a field is filled in by setting its value. -/
def Control.isField (name : String) (c : Control) : Bool := c.name = name && c.kind = .value

def setFirst (name value : String) : List Control → Option (List Control)
  | [] => none
  | c :: cs =>
    if c.isField name then some ({ c with value } :: cs)
    else (setFirst name value cs).map (c :: ·)

def set (f : Form) (name value : String) : Except FormFailure Form :=
  match setFirst name value f.controls with
  | some controls => .ok { f with controls }
  | none => .error (.fieldNotFound f.name name)

def value? (f : Form) (name : String) : Option String :=
  (f.controls.find? (·.name = name)).map (·.value)

def firstFile? (f : Form) : Option String :=
  (f.controls.find? (·.kind = .file)).map (·.name)

/-- Drops every submit button but the first. -/
def oneSubmit : List Control → List Control
  | [] => []
  | c :: cs => c :: (if c.kind = .submit then cs.filter (·.kind ≠ .submit) else oneSubmit cs)

/-- Controls without a name are not sent. -/
def submitted (f : Form) : List Control := (oneSubmit f.controls).filter (·.name ≠ "")

/-- What is sent besides files. -/
def pairs (f : Form) : List (String × String) :=
  (f.submitted.filter (·.kind ≠ .file)).map fun c => (c.name, c.value)

end Form
end PluginRelease
