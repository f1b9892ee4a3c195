import PluginRelease.Html.Element

/-!
A page in the making: numbered nodes that may still move, the open elements, and how the next
token is to be taken.
-/
namespace PluginRelease.Html

inductive Content
  /-- The page itself, or what a template holds. -/
  | root
  | element (name : ElementName) (attributes : List Attribute)
  | text (backwards : List Char)
deriving DecidableEq, Repr, Inhabited

structure Entry where
  content : Content
  parent : Option Nat
  children : Array Nat
  /-- The root of what a template holds. -/
  inside : Option Nat
deriving DecidableEq, Repr, Inhabited

/-- Which part of a page is being read. -/
inductive Mode
  | initial
  | beforeHtml
  | beforeHead
  | head
  | afterHead
  | body
  | text
  | table
  | tableText
  | caption
  | columns
  | tableBody
  | row
  | cell
  | select
  | selectInTable
  | template
  | afterBody
  | frameset
  | afterFrameset
  | afterAfterBody
  | afterAfterFrameset
deriving DecidableEq, Repr, Inhabited

structure Draft where
  entries : Array Entry
  /-- The open elements, the current one first. -/
  stack : List Nat
  /-- Formatting elements, the last one first, with the tags they come from; `none` is a
  marker. -/
  formatting : List (Option (Nat × Tag))
  mode : Mode
  /-- Where to go on after a text. -/
  returnMode : Mode
  templateModes : List Mode
  head : Option Nat
  form : Option Nat
  framesAllowed : Bool
  /-- The page asks for the ways of old browsers. -/
  old : Bool
  /-- What does not belong into a table goes before it. -/
  fostering : Bool
  skipLineFeed : Bool
  tableText : List Char
  reading : Reading
deriving Repr, Inhabited

namespace Draft

def start : Draft where
  entries := #[⟨.root, none, #[], none⟩]
  stack := []
  formatting := []
  mode := .initial
  returnMode := .initial
  templateModes := []
  head := none
  form := none
  framesAllowed := true
  old := false
  fostering := false
  skipLineFeed := false
  tableText := []
  reading := .markup

/-! ### Nodes -/

def pageRoot : Nat := 0

def content? (d : Draft) (i : Nat) : Option Content := (d.entries[i]?).map Entry.content

def name? (d : Draft) (i : Nat) : Option ElementName :=
  match d.content? i with
  | some (.element name _) => some name
  | _ => none

def is (d : Draft) (p : ElementName → Bool) (i : Nat) : Bool := (d.name? i).any p

def isTag (d : Draft) (tag : String) (i : Nat) : Bool := d.is (· = .html tag) i

def parent? (d : Draft) (i : Nat) : Option Nat := (d.entries[i]?).bind (·.parent)

def children (d : Draft) (i : Nat) : Array Nat := ((d.entries[i]?).map (·.children)).getD #[]

def inside? (d : Draft) (i : Nat) : Option Nat := (d.entries[i]?).bind (·.inside)

def modify (d : Draft) (i : Nat) (f : Entry → Entry) : Draft :=
  { d with entries := d.entries.modify i f }

def add (d : Draft) (content : Content) : Draft × Nat :=
  ({ d with entries := d.entries.push ⟨content, none, #[], none⟩ }, d.entries.size)

/-- Takes a node out of its parent. -/
def detach (d : Draft) (i : Nat) : Draft :=
  match d.parent? i with
  | none => d
  | some p =>
    (d.modify p fun e => { e with children := e.children.filter (· ≠ i) }).modify i fun e =>
      { e with parent := none }

/-- A place for a node: last in a parent, or before one of its children. -/
inductive Place
  | last (parent : Nat)
  | before (parent sibling : Nat)
deriving DecidableEq, Repr

def insertBefore (l : List Nat) (sibling i : Nat) : List Nat :=
  l.takeWhile (· ≠ sibling) ++ i :: l.dropWhile (· ≠ sibling)

def attach (d : Draft) (i : Nat) : Place → Draft
  | .last p => (d.modify p fun e => { e with children := e.children.push i }).modify i fun e =>
      { e with parent := some p }
  | .before p sibling =>
    (d.modify p fun e =>
      { e with children := (insertBefore e.children.toList sibling i).toArray }).modify i fun e =>
        { e with parent := some p }

/-- The node right before a place. -/
def neighbour? (d : Draft) : Place → Option Nat
  | .last p => (d.children p).back?
  | .before p sibling => ((d.children p).toList.takeWhile (· ≠ sibling)).getLast?

/-- Moves all children of one node to the end of another. -/
def moveChildren (d : Draft) (source target : Nat) : Draft :=
  (d.children source).foldl (fun d i => (d.detach i).attach i (.last target)) d

/-- The tree below a node; `fuel` bounds its depth. -/
def tree (d : Draft) : Nat → Nat → List Node
  | 0, _ => []
  | fuel + 1, i =>
    match d.entries[i]? with
    | none => []
    | some e =>
      match e.content with
      | .text s => [.text s.reverse]
      | .element name attributes =>
        [.element name attributes (e.children.toList.flatMap (d.tree fuel))]
      | .root => e.children.toList.flatMap (d.tree fuel)

/-- The page as it stands. -/
def page (d : Draft) : List Node := d.tree (d.entries.size + 1) pageRoot

/-! ### Open elements -/

def current? (d : Draft) : Option Nat := d.stack.head?

def currentIs (d : Draft) (p : ElementName → Bool) : Bool := d.current?.any (d.is p)

def currentIsTag (d : Draft) (tag : String) : Bool := d.currentIs (· = .html tag)

def currentIn (d : Draft) (tags : List String) : Bool := d.currentIs (·.isOneOf tags)

def isOpenTag (d : Draft) (tag : String) : Bool := d.stack.any (d.isTag tag)

def isInTemplate (d : Draft) : Bool := d.isOpenTag "template"

def push (d : Draft) (i : Nat) : Draft := { d with stack := i :: d.stack }

def pop (d : Draft) : Draft := { d with stack := d.stack.tail }

def close (d : Draft) (i : Nat) : Draft := { d with stack := d.stack.filter (· ≠ i) }

/-- Pops up to and with the first element that satisfies `p`. -/
def popThrough (d : Draft) (p : ElementName → Bool) : Draft :=
  { d with stack := (d.stack.dropWhile (!d.is p ·)).tail }

def popThroughTag (d : Draft) (tag : String) : Draft := d.popThrough (· = .html tag)

/-- Pops until the current element satisfies `p`. -/
def popTo (d : Draft) (p : ElementName → Bool) : Draft :=
  { d with stack := d.stack.dropWhile (!d.is p ·) }

/-- Pops to a row, a section or a table, or to what a template holds of one. -/
def popToContext (d : Draft) (tags : List String) : Draft :=
  d.popTo (·.isOneOf (tags ++ ["template", "html"]))

def scopeContains (d : Draft) (s : ElementName.Scope) (p : Nat → Bool) : List Nat → Bool
  | [] => false
  | i :: rest => p i || (!d.is (·.bounds s) i && d.scopeContains s p rest)

def inScope (d : Draft) (s : ElementName.Scope) (p : ElementName → Bool) : Bool :=
  d.scopeContains s (d.is p) d.stack

def hasTag (d : Draft) (s : ElementName.Scope) (tag : String) : Bool := d.inScope s (· = .html tag)

/-- Closes elements whose end tag may be left out. -/
def implyEnds (d : Draft) (tags : List String) : Draft := d.popTo (!·.isOneOf tags)

def implyEndsExcept (d : Draft) (tag : String) : Draft :=
  d.implyEnds (ElementName.impliedEnds.filter (· ≠ tag))

def closeParagraph (d : Draft) : Draft := (d.implyEndsExcept "p").popThroughTag "p"

def closeParagraphInScope (d : Draft) : Draft :=
  if d.hasTag .button "p" then d.closeParagraph else d

/-! ### Insertion -/

/-- Where fostered content goes: into a template or before a table, whichever is nearer. -/
def fosterPlace (d : Draft) : List Nat → Place
  | [] => .last pageRoot
  | [i] => .last i
  | i :: j :: rest =>
    if d.isTag "template" i then .last ((d.inside? i).getD i)
    else if d.isTag "table" i then
      match d.parent? i with
      | some p => .before p i
      | none => .last j
    else d.fosterPlace (j :: rest)

def placeIn (d : Draft) (target : Nat) : Place :=
  if d.fostering && d.is (·.isOneOf ElementName.tableParts) target then d.fosterPlace d.stack
  else if d.isTag "template" target then .last ((d.inside? target).getD target)
  else .last target

def place (d : Draft) : Place := d.placeIn (d.current?.getD pageRoot)

/-- A new element; that of a template has room for what the template holds. -/
def create (d : Draft) (name : ElementName) (attributes : List Attribute) : Draft × Nat :=
  let (d, i) := d.add (.element name attributes)
  if name = .html "template" then
    let (d, r) := d.add .root
    (d.modify i fun e => { e with inside := some r }, i)
  else (d, i)

def insertElement (d : Draft) (name : ElementName) (attributes : List Attribute) :
    Draft × Nat :=
  let (d, i) := d.create name attributes
  (d.attach i d.place, i)

/-- Opens an element. -/
def openElement (d : Draft) (name : ElementName) (attributes : List Attribute) : Draft :=
  let (d, i) := d.insertElement name attributes
  d.push i

def openTag (d : Draft) (t : Tag) : Draft := d.openElement (.html t.name) t.attributes

/-- Inserts an element that stays empty. -/
def insertEmpty (d : Draft) (t : Tag) : Draft := (d.insertElement (.html t.name) t.attributes).1

def insertCharacter (d : Draft) (c : Char) : Draft :=
  let place := d.place
  let fresh (d : Draft) : Draft :=
    let (d, i) := d.add (.text [c])
    d.attach i place
  match d.neighbour? place with
  | none => fresh d
  | some i =>
    match d.content? i with
    | some (.text s) => d.modify i fun e => { e with content := .text (c :: s) }
    | _ => fresh d

/-- Attributes that an element lacks. -/
def addMissing (d : Draft) (i : Nat) (attributes : List Attribute) : Draft :=
  d.modify i fun e =>
    match e.content with
    | .element name own =>
      let missing := attributes.filter fun a => !own.any (·.name = a.name)
      { e with content := .element name (own ++ missing) }
    | _ => e

def noFrames (d : Draft) : Draft := { d with framesAllowed := false }

def enter (d : Draft) (mode : Mode) : Draft := { d with mode }

/-- Opens an element whose content is text. -/
def openText (d : Draft) (t : Tag) (reading : Reading) : Draft :=
  { d.openTag t with mode := .text, returnMode := d.mode, reading }

end Draft
end PluginRelease.Html
