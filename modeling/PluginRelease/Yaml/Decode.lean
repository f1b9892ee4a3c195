import PluginRelease.Yaml.Event
import PluginRelease.Yaml.Value

/-!
Reading data of a wanted shape from the events of a document. Faults of the data come in the
order of the text, before a malformation that follows them.
-/
namespace PluginRelease.Yaml

/-- Events whose aliases are numbers, and the events from each numbered anchor on. -/
structure Linked where
  events : List (Event Nat)
  anchors : List (Nat × List (Event Nat))
  fault : Option Malformation

namespace Linked

/-- Numbers the aliases. An anchor gets the number of names known before it, also when its
own name is one of them. -/
def number (known : List (List Char × Nat)) :
    List Event.Named → List (Event Nat × Option Nat) × Bool
  | [] => ([], true)
  | e :: es =>
    let define (p : Properties) (f : Event Nat) : List (Event Nat × Option Nat) × Bool :=
      match p.anchor with
      | none => let (r, ok) := number known es; ((f, none) :: r, ok)
      | some name =>
        let n := known.length
        let (r, ok) := number ((name, n) :: known.filter (·.1 != name)) es
        ((f, some n) :: r, ok)
    match e with
    | .alias name =>
      match known.find? (·.1 == name) with
      | none => ([], false)
      | some (_, n) => let (r, ok) := number known es; ((.alias n, none) :: r, ok)
    | .scalar p style text => define p (.scalar p style text)
    | .sequenceStart p => define p (.sequenceStart p)
    | .mappingStart p => define p (.mappingStart p)
    | .sequenceEnd => let (r, ok) := number known es; ((.sequenceEnd, none) :: r, ok)
    | .mappingEnd => let (r, ok) := number known es; ((.mappingEnd, none) :: r, ok)

/-- Of two anchors with one number the later counts. -/
def anchorsOf : List (Event Nat × Option Nat) → List (Nat × List (Event Nat))
  | [] => []
  | (e, n) :: r =>
    let later := anchorsOf r
    match n with
    | none => later
    | some n => if later.any (·.1 == n) then later else (n, e :: r.map (·.1)) :: later

def ofDocument (d : Document) : Linked :=
  let (numbered, ok) := number [] d.events
  ⟨numbered.map (·.1), anchorsOf numbered,
    if ok then d.fault else some .unknownAnchor⟩

end Linked

namespace Decode

/-- What is left to read, and how many aliases were followed. -/
structure Supply where
  rest : List (Event Nat)
  jumps : Nat

/-- Reads from the supply of a document. -/
abbrev Decoder (α : Type) := Linked → Supply → Except Fault (α × Supply)

namespace Decoder
variable {α β : Type}

def pure (a : α) : Decoder α := fun _ s => .ok (a, s)

def fail (f : Fault) : Decoder α := fun _ _ => .error f

def bind (d : Decoder α) (k : α → Decoder β) : Decoder β := fun l s =>
  match d l s with
  | .error f => .error f
  | .ok (a, s) => k a l s

instance : Monad Decoder where
  pure := pure
  bind := bind

/-- Faults without a path get this one. -/
def located (path : String) (d : Decoder α) : Decoder α := fun l s =>
  match d l s with
  | .error f => .error (f.located path)
  | r => r

end Decoder

/-- Where events end too early, the fault of the document shows. -/
def ended (l : Linked) : Fault := .malformed (l.fault.getD .textEnded)

def next : Decoder (Event Nat) := fun l s =>
  match s.rest with
  | [] => .error (ended l)
  | e :: es => .ok (e, { s with rest := es })

def peek : Decoder (Event Nat) := fun l s =>
  match s.rest with
  | [] => .error (ended l)
  | e :: _ => .ok (e, s)

/-- Reads the node that an alias refers to and goes on behind the alias. -/
def follow {α : Type} (n : Nat) (d : Decoder α) : Decoder α := fun l s =>
  if l.events.length * 100 < s.jumps + 1 then .error .tooManyAliases
  else match l.anchors.find? (·.1 == n) with
    | none => .error (.malformed .unknownAnchor)
    | some (_, target) =>
      match d l ⟨target, s.jumps + 1⟩ with
      | .error f => .error f
      | .ok (a, t) => .ok (a, ⟨s.rest, t.jumps⟩)

/-! ## Paths -/

/-- The root has an empty path. -/
def keyPath (parent : String) (key : String) : String :=
  if parent = "" then key else parent ++ "." ++ key

def itemPath (parent : String) (index : Nat) : String :=
  (if parent = "" then "." else parent) ++ "[" ++ toString index ++ "]"

def entryPath (parent : String) : Event Nat → String
  | .scalar _ _ text => keyPath parent (String.ofList text)
  | _ => keyPath parent "?"

/-! ## Scalars -/

def coreTag (name : String) : List Char := "tag:yaml.org,2002:".toList ++ name.toList

/-- The tag of a kind that the text defines itself, without its mark. -/
def ownTag? (p : Properties) : Option (List Char) :=
  match p.tag with
  | some ('!' :: c :: r) => some (c :: r)
  | some ['!'] => some ['!']
  | _ => none

def invalidValue (text : List Char) (wanted : String) : Fault :=
  .unfit ("invalid value: string " ++ Text.quoted (String.ofList text) ++ ", expected " ++ wanted)
    none

def invalidType (found wanted : String) : Fault :=
  .unfit ("invalid type: " ++ found ++ ", expected " ++ wanted) none

/-- The meaning of a scalar by its tag, its style and its text. -/
def meaning (tagRead : Bool) (p : Properties) (style : ScalarStyle) (text : List Char) :
    Except Fault Meaning :=
  let byStyle := if style = .plain then Meaning.ofPlain text else .text
  match p.tag with
  | none => .ok byStyle
  | some tag =>
    if tagRead then .ok byStyle
    else if tag = coreTag "bool" then
      match Meaning.bool? text with
      | some b => .ok (.bool b)
      | none => .error (invalidValue text "a boolean")
    else if tag = coreTag "int" then
      match Meaning.intMeaning? text with
      | some m => .ok m
      | none => .error (invalidValue text "an integer")
    else if tag = coreTag "float" then
      match Meaning.float? text with
      | some x => .ok (.number x)
      | none => .error (invalidValue text "a float")
    else if tag = coreTag "null" then
      if Meaning.isNull text then .ok .null else .error (invalidValue text "null")
    else if tag.head? = some '!' then .ok byStyle
    else .ok .text

def wideName (n : Int) : String :=
  "integer `" ++ toString n ++ "` as " ++ (if n < 0 then "i128" else "u128")

def floatName (x : Binary64) : String :=
  if x.isFinite then Decimal.Shortest.text Decimal.Shortest.plain x
  else if x.negative then "-inf" else "inf"

/-- What a scalar is called where it does not fit. -/
def meaningName (text : List Char) : Meaning → String
  | .null => "unit value"
  | .bool b => "boolean `" ++ toString b ++ "`"
  | .number (.integer n) => "integer `" ++ toString n ++ "`"
  | .number (.float x) => "floating point `" ++ floatName x ++ "`"
  | .number .nan => "floating point `NaN`"
  | .wideInteger n => wideName n
  | .text => "string " ++ Text.quoted (String.ofList text)

/-- The fault of an event that is not of the wanted kind. -/
def misfit (wanted : String) : Event Nat → Fault
  | .scalar p style text =>
    match meaning false p style text with
    | .ok m => invalidType (meaningName text m) wanted
    | .error f => f
  | .sequenceStart _ => invalidType "sequence" wanted
  | _ => invalidType "map" wanted

def scalarValue (tagRead : Bool) (p : Properties) (style : ScalarStyle) (text : List Char) :
    Except Fault Value :=
  match meaning tagRead p style text with
  | .error f => .error f
  | .ok .null => .ok .null
  | .ok (.bool b) => .ok (.bool b)
  | .ok (.number n) => .ok (.number n)
  | .ok (.wideInteger n) => .error (invalidType (wideName n) "any YAML value")
  | .ok .text => .ok (.text (String.ofList text))

/-! ## Readers of a kind

`fuel` bounds the steps of nested readers and `depth` the collections inside each other. -/

mutual

/-- A value of any kind. Its own tag, if it has one, is put around it. -/
def value : Nat → Bool → String → Nat → Decoder Value
  | 0, _, _, _ => .fail .tooDeep
  | fuel + 1, tagRead, path, depth => .located path fun l s =>
    match s.rest with
    | [] => .error (ended l)
    | e :: es =>
      let inside (p : Properties) (d : Decoder Value) : Except Fault (Value × Supply) :=
        match tagRead, ownTag? p with
        | false, some tag =>
          (do pure (Value.tagged (String.ofList tag) (← value fuel true path depth))) l s
        | _, _ => d l { s with rest := es }
      match e with
      | .alias n => follow n (value fuel false path depth) l { s with rest := es }
      | .scalar p style text =>
        inside p fun _ s => (scalarValue tagRead p style text).map fun v => (v, s)
      | .sequenceStart p =>
        inside p (if depth = 0 then .fail .tooDeep else do
          pure (Value.sequence (← items fuel path (depth - 1) 0)))
      | .mappingStart p =>
        inside p (if depth = 0 then .fail .tooDeep else do
          pure (Value.mapping (← entries fuel path (depth - 1) [])))
      | _ => .error (ended l)

/-- The rest of a sequence. -/
def items : Nat → String → Nat → Nat → Decoder (List Value)
  | 0, _, _, _ => .fail .tooDeep
  | fuel + 1, path, depth, index => fun l s =>
    match s.rest with
    | [] => .error (ended l)
    | .sequenceEnd :: es => .ok ([], { s with rest := es })
    | _ => (do
      let v ← value fuel false (itemPath path index) depth
      pure (v :: (← items fuel path depth (index + 1)))) l s

/-- The rest of a mapping; `known` holds the keys before it. -/
def entries : Nat → String → Nat → List Value → Decoder (List (Value × Value))
  | 0, _, _, _ => .fail .tooDeep
  | fuel + 1, path, depth, known => fun l s =>
    match s.rest with
    | [] => .error (ended l)
    | .mappingEnd :: es => .ok ([], { s with rest := es })
    | e :: _ => (do
      let k ← value fuel false path depth
      if known.any (·.same k) then .fail .repeatedEntry
      else
        let v ← value fuel false (entryPath path e) depth
        pure ((k, v) :: (← entries fuel path depth (k :: known)))) l s

end

/-- Reads an event, behind one alias if it is one. -/
def resolved {α : Type} (path : String) (d : Event Nat → Decoder α) : Decoder α :=
  .located path do
    match ← next with
    | .alias n => follow n (do d (← next))
    | e => d e

/-- The text of any scalar. -/
def text (wanted path : String) : Decoder String :=
  resolved path fun e =>
    match e with
    | .scalar _ _ s => .pure (String.ofList s)
    | e => .fail (misfit wanted e)

def bool (path : String) : Decoder Bool :=
  resolved path fun e =>
    let found := match e with
      | .scalar p style s =>
        if style = .plain || (style = .literal && p.tag == some (coreTag "bool")) then
          Meaning.bool? s
        else none
      | _ => none
    match found with
    | some b => .pure b
    | none => .fail (misfit "a boolean" e)

/-- Whether a node is there at all: nothing, a plain null, and an empty plain scalar are not. -/
def isPresent : Event Nat → Except Fault Bool
  | .scalar p style s =>
    if style ≠ .plain then .ok true
    else match p.tag with
      | some tag =>
        if tag = coreTag "null" then
          if Meaning.isNull s then .ok false else .error (invalidValue s "null")
        else .ok true
      | none => .ok (!(s.isEmpty || Meaning.isNull s))
  | _ => .ok true

def optionalHere {α : Type} (d : Decoder α) : Decoder (Option α) := do
  match isPresent (← peek) with
  | .error f => .fail f
  | .ok true => pure (some (← d))
  | .ok false => let _ ← next; pure none

def optional {α : Type} (d : Decoder α) : Decoder (Option α) := do
  match ← peek with
  | .alias n => let _ ← next; follow n (optionalHere d)
  | _ => optionalHere d

/-- An empty plain scalar stands for an empty collection. -/
def isEmptyPlain : Event Nat → Bool
  | .scalar _ .plain [] => true
  | _ => false

private def listItems {α : Type} (d : String → Nat → Decoder α) :
    Nat → String → Nat → Nat → Decoder (List α)
  | 0, _, _, _ => .fail .tooDeep
  | fuel + 1, path, depth, index => fun l s =>
    match s.rest with
    | [] => .error (ended l)
    | .sequenceEnd :: es => .ok ([], { s with rest := es })
    | _ => (do
      let v ← d (itemPath path index) depth
      pure (v :: (← listItems d fuel path depth (index + 1)))) l s

def list {α : Type} (d : String → Nat → Decoder α) (fuel : Nat) (path : String) (depth : Nat) :
    Decoder (List α) :=
  resolved path fun e =>
    match e with
    | .sequenceStart _ =>
      if depth = 0 then .fail .tooDeep else listItems d fuel path (depth - 1) 0
    | e => if isEmptyPlain e then .pure [] else .fail (misfit "a sequence" e)

/-- Passes over a node of any kind; `nesting` counts open collections. -/
def skipFrom (nesting : Nat) : List (Event Nat) → Option (List (Event Nat))
  | [] => none
  | e :: es =>
    let n := match e with
      | .sequenceStart _ | .mappingStart _ => nesting + 1
      | .sequenceEnd | .mappingEnd => nesting - 1
      | _ => nesting
    if n = 0 then some es else skipFrom n es

def skip : Decoder Unit := fun l s =>
  match skipFrom 0 s.rest with
  | none => .error (ended l)
  | some r => .ok ((), { s with rest := r })

/-- One of some words, written as a scalar or as a tag on nothing. -/
def choice {α : Type} (words : List (String × α)) (path : String) : Decoder α := do
  let wanted := " or ".intercalate (words.map fun w => "`" ++ w.1 ++ "`")
  let pick (s : List Char) : Decoder α :=
    match words.find? (·.1.toList == s) with
    | some w => .pure w.2
    | none => .fail (.unfit
      ("unknown variant `" ++ String.ofList s ++ "`, expected " ++ wanted) none)
  let nothing (e : Event Nat) : Decoder Unit :=
    match e with
    | .scalar _ .plain s =>
      if s.isEmpty || Meaning.isNull s then .pure () else .fail (invalidValue s "null")
    | .scalar _ _ s => .fail (invalidValue s "null")
    | e => .fail (misfit "unit" e)
  let here : Event Nat → Decoder α := fun e =>
    match e with
    | .scalar p _ s =>
      match ownTag? p with
      | some tag => do
        let a ← pick tag
        .located path (nothing e)
        pure a
      | none => .located path (pick s)
    | .sequenceStart p | .mappingStart p =>
      match ownTag? p with
      | some tag => do
        let _ ← pick tag
        .located path (.fail (misfit "unit" e))
      | none => .located path (.fail (misfit "a YAML tag starting with '!'" e))
    | e => .located path (.fail (misfit "unit" e))
  match ← next with
  | .alias n => .located path (follow n (do here (← next)))
  | e => here e

/-- A record of named fields, as the wanted shape of a mapping. `field` tells how a field is
read into what was read before; fields without a reader are passed over. -/
structure Shape (α : Type) where
  wanted : String
  empty : α
  field : String → Option (Nat → String → Nat → α → Decoder α)

variable {α : Type}

def recordEntries (shape : Shape α) :
    Nat → String → Nat → List String → α → Decoder α
  | 0, _, _, _, _ => .fail .tooDeep
  | fuel + 1, path, depth, known, a => fun l s =>
    match s.rest with
    | [] => .error (ended l)
    | .mappingEnd :: es => .ok (a, { s with rest := es })
    | e :: _ => (do
      let key ← text "field identifier" path
      match shape.field key with
      | none => skip; recordEntries shape fuel path depth known a
      | some read =>
        if known.contains key then .fail (.unfit ("duplicate field `" ++ key ++ "`") none)
        else
          let a ← read fuel (entryPath path e) depth a
          recordEntries shape fuel path depth (key :: known) a) l s

def record (shape : Shape α) (fuel : Nat) (path : String) (depth : Nat) : Decoder α :=
  resolved path fun e =>
    match e with
    | .mappingStart _ =>
      if depth = 0 then .fail .tooDeep
      else recordEntries shape fuel path (depth - 1) [] shape.empty
    | e => if isEmptyPlain e then .pure shape.empty else .fail (misfit shape.wanted e)

/-- Collections may lie this deep inside each other. -/
def depthLimit : Nat := 128

/-- The record that a document holds, if it holds anything. -/
def ofDocument (shape : Shape α) (d : Document) : Except Fault (Option α) :=
  let l := Linked.ofDocument d
  let fuel := (depthLimit + 2) * (l.events.length + 3)
  let result :=
    if l.events.isEmpty && l.fault.isNone then .ok none
    else (optional (record shape fuel "" depthLimit) l ⟨l.events, 0⟩).map (·.1)
  match result, l.fault with
  | .error f, _ => .error f
  | .ok _, some m => .error (.malformed m)
  | .ok a, none => if d.isFollowed then .error (.malformed .moreDocuments) else .ok a

def ofText (shape : Shape α) (s : String) : Except Fault (Option α) :=
  ofDocument shape (Document.ofText s.toList)

end Decode
end PluginRelease.Yaml
