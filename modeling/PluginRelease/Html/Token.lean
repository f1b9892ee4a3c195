import PluginRelease.Html.Node

/-!
The tokens that the text of a page consists of, and what text is read as.
-/
namespace PluginRelease.Html

structure Tag where
  name : String
  attributes : List Attribute
  selfClosing : Bool
deriving DecidableEq, Repr, Inhabited

def Tag.plain (name : String) : Tag := ⟨name, [], false⟩

def Tag.attribute? (t : Tag) (name : String) : Option String :=
  (t.attributes.find? (·.name = name)).map (·.value)

structure Doctype where
  name : Option String
  publicId : Option String
  systemId : Option String
  /-- A doctype that breaks off. -/
  broken : Bool
deriving DecidableEq, Repr

inductive Token
  | doctype (d : Doctype)
  | startTag (t : Tag)
  | endTag (t : Tag)
  | comment
  | character (c : Char)
  | finish
deriving DecidableEq, Repr

/-- Text is markup, or all text up to an end tag, with or without references, or to the end. -/
inductive Reading
  | markup
  | text (tag : String) (references : Bool)
  | script
  | plain
deriving DecidableEq, Repr, Inhabited

/-- Blanks of HTML. -/
def isSpace (c : Char) : Bool :=
  c = ' ' || c = '\t' || c = '\n' || c = '\r' || c.toNat = 0x0C

end PluginRelease.Html
