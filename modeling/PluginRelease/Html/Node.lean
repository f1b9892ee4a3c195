/-!
Pages as trees of elements and texts. Comments leave no trace, and what a template holds is not
part of the page.
-/
namespace PluginRelease.Html

/-- The vocabulary that an element belongs to. -/
inductive Space
  | html
  | mathml
  | svg
deriving DecidableEq, Repr, Inhabited

structure ElementName where
  space : Space
  tag : String
deriving DecidableEq, Repr, Inhabited

structure Attribute where
  name : String
  value : String
deriving DecidableEq, Repr

inductive Node
  | element (name : ElementName) (attributes : List Attribute) (children : List Node)
  | text (content : List Char)
deriving Repr, Inhabited

namespace Node

mutual

/-- All below a node, in document order. -/
def descendants : Node → List Node
  | element _ _ children => forest children
  | text _ => []

/-- Some trees with all below them, in document order. -/
def forest : List Node → List Node
  | [] => []
  | n :: ns => n :: (descendants n ++ forest ns)

end

theorem forest_append (a b : List Node) : forest (a ++ b) = forest a ++ forest b := by
  induction a with
  | nil => simp [forest]
  | cons n ns ih => simp [forest, ih]

def ownText : Node → List Char
  | text content => content
  | element _ _ _ => []

def textContent (n : Node) : List Char := (n :: n.descendants).flatMap ownText

def tag? : Node → Option String
  | element name _ _ => some name.tag
  | text _ => none

def attribute? (n : Node) (name : String) : Option String :=
  match n with
  | element _ attributes _ => (attributes.find? (·.name = name)).map (·.value)
  | text _ => none

def hasAttribute (n : Node) (name : String) : Bool := (n.attribute? name).isSome

end Node
end PluginRelease.Html
