import PluginRelease.Html.Node
import PluginRelease.Text.Blank
import PluginRelease.Text.Split

/-!
The controls of a form, each with the name and the value that it is sent with.
-/
namespace PluginRelease.Form
open Html Text

inductive ControlKind
  | value
  | file
  | submit
deriving DecidableEq, Repr

structure Control where
  name : String
  value : String
  kind : ControlKind
deriving DecidableEq, Repr

namespace Control

def own (n : Node) (name : String) : String := (n.attribute? name).getD ""

def lower (s : String) : String := String.ofList (s.toList.map Char.toLower)

/-- A box that is not checked is no control, and neither is a field without a name. -/
def ofInput? (n : Node) : Option Control :=
  let name := own n "name"
  let value := own n "value"
  match lower ((n.attribute? "type").getD "text") with
  | "submit" => some ⟨name, value, .submit⟩
  | "image" => some ⟨name, value, .submit⟩
  | "reset" => none
  | "button" => none
  | kind =>
    if name = "" then none
    else if kind = "file" then some ⟨name, "", .file⟩
    else if kind = "checkbox" ∨ kind = "radio" then
      if n.hasAttribute "checked" then some ⟨name, if value = "" then "on" else value, .value⟩
      else none
    else some ⟨name, value, .value⟩

def ofButton? (n : Node) : Option Control :=
  if lower ((n.attribute? "type").getD "submit") = "submit" then
    some ⟨own n "name", own n "value", .submit⟩
  else none

def ofTextarea? (n : Node) : Option Control :=
  if own n "name" = "" then none
  else some ⟨own n "name", String.ofList n.textContent, .value⟩

/-- Without a value an option stands for its text, with single spaces between words. -/
def optionValue (n : Node) : String :=
  (n.attribute? "value").getD (String.ofList (joinWith [' '] (words n.textContent)))

def options (n : Node) : List Node := n.descendants.filter (·.tag? = some "option")

/-- The option that is selected, or else the first. -/
def chosen? (n : Node) : Option Node :=
  ((options n).find? (·.hasAttribute "selected")).or (options n).head?

def ofSelect? (n : Node) : Option Control :=
  if own n "name" = "" then none
  else (chosen? n).map fun o => ⟨own n "name", optionValue o, .value⟩

def ofNode? (n : Node) : Option Control :=
  match n.tag? with
  | some "input" => ofInput? n
  | some "button" => ofButton? n
  | some "textarea" => ofTextarea? n
  | some "select" => ofSelect? n
  | _ => none

end Control

/-- All controls below a node, in document order. -/
def controlsOf (n : Node) : List Control := n.descendants.filterMap Control.ofNode?

end PluginRelease.Form
