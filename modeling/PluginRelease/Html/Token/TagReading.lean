import PluginRelease.Html.Reference
import PluginRelease.Html.Token

/-!
Reading a tag: its name, then its attributes, character by character. A tag that the page breaks
off is none; of attributes with one name the first counts.
-/
namespace PluginRelease.Html

/-- Where in a tag a character stands. Names and values are collected backwards. -/
inductive TagPlace
  | between
  | name (read : List Char)
  | afterName (name : List Char)
  | beforeValue (name : List Char)
  | quoted (name : List Char) (quote : Char) (read : List Char)
  | bare (name : List Char) (read : List Char)
  | slash
deriving DecidableEq, Repr

namespace TagReading

/-- The NUL character has no place in a page. -/
def shown (c : Char) : Char := if c.toNat = 0 then Reference.replacement else c

def nameChar (c : Char) : Char := shown c.toLower

def nameOf (read : List Char) : String := String.ofList (read.reverse.map nameChar)

def add (attributes : List Attribute) (name read : List Char) : List Attribute :=
  let n := nameOf name
  if attributes.any (·.name = n) then attributes
  else attributes ++ [⟨n, String.ofList (Reference.decode (read.reverse.map shown))⟩]

/-- What a character leads to: a place, with the attributes so far, or the end of the tag. -/
inductive Step
  | go (place : TagPlace) (attributes : List Attribute)
  | finished (attributes : List Attribute) (selfClosing : Bool)

def enter (attributes : List Attribute) (c : Char) : Step :=
  if isSpace c then .go .between attributes
  else if c = '/' then .go .slash attributes
  else if c = '>' then .finished attributes false
  else .go (.name [c]) attributes

def step (attributes : List Attribute) (c : Char) : TagPlace → Step
  | .between => enter attributes c
  | .slash => if c = '>' then .finished attributes true else enter attributes c
  | .name read =>
    if isSpace c then .go (.afterName read) attributes
    else if c = '/' then .go .slash (add attributes read [])
    else if c = '>' then .finished (add attributes read []) false
    else if c = '=' then .go (.beforeValue read) attributes
    else .go (.name (c :: read)) attributes
  | .afterName name =>
    if isSpace c then .go (.afterName name) attributes
    else if c = '=' then .go (.beforeValue name) attributes
    else enter (add attributes name []) c
  | .beforeValue name =>
    if isSpace c then .go (.beforeValue name) attributes
    else if c = '"' ∨ c = '\'' then .go (.quoted name c []) attributes
    else if c = '>' then .finished (add attributes name []) false
    else .go (.bare name [c]) attributes
  | .quoted name quote read =>
    if c = quote then .go .between (add attributes name read)
    else .go (.quoted name quote (c :: read)) attributes
  | .bare name read =>
    if isSpace c then .go .between (add attributes name read)
    else if c = '>' then .finished (add attributes name read) false
    else .go (.bare name (c :: read)) attributes

def run (name : String) (place : TagPlace) (attributes : List Attribute) :
    List Char → Option (Tag × List Char)
  | [] => none
  | c :: rest =>
    match step attributes c place with
    | .go place attributes => run name place attributes rest
    | .finished attributes selfClosing => some (⟨name, attributes, selfClosing⟩, rest)

def endsName (c : Char) : Bool := isSpace c || c = '/' || c = '>'

/-- Reads on at the name of a tag. -/
def read? (s : List Char) : Option (Tag × List Char) :=
  let name := s.takeWhile (!endsName ·)
  run (String.ofList (name.map nameChar)) .between [] (s.drop name.length)

/-- Whether a text starts with the end tag that closes it. -/
def isEndOf (tag : String) (s : List Char) : Bool :=
  match s with
  | '<' :: '/' :: r =>
    (r.take tag.length).map Char.toLower = tag.toList && (r.drop tag.length).head?.any endsName
  | _ => false

end TagReading
end PluginRelease.Html
