import PluginRelease.Yaml.Token

/-!
Events of a document: its data in depth-first order. What is still expected is kept on a
stack of goals, and each step reads tokens for the goal on top.
-/
namespace PluginRelease.Yaml

structure Properties where
  anchor : Option (List Char)
  tag : Option (List Char)
deriving DecidableEq, Repr

/-- `ref` tells to which node an alias refers. -/
inductive Event (ref : Type)
  | alias (target : ref)
  | scalar (properties : Properties) (style : ScalarStyle) (text : List Char)
  | sequenceStart (properties : Properties)
  | sequenceEnd
  | mappingStart (properties : Properties)
  | mappingEnd
deriving DecidableEq, Repr

namespace Event

/-- An event whose aliases are still names. -/
abbrev Named := Event (List Char)

/-- The place of a value that is left out. -/
def missing : Named := scalar ⟨none, none⟩ .plain []

inductive Goal
  | node (inBlock allowsIndentless : Bool)
  | blockSequence
  | indentlessSequence
  | blockKey
  | blockValue
  | flowSequence (first : Bool)
  | pairKey
  | pairValue
  | pairEnd
  | flowKey (first : Bool)
  | flowValue (omitted : Bool)
deriving DecidableEq, Repr

/-- Tag handles and what they stand for; the first entry of a handle counts. -/
abbrev Handles := List (List Char × List Char)

def defaultHandles : Handles :=
  [(['!'], ['!']), (['!', '!'], "tag:yaml.org,2002:".toList)]

structure Reader where
  goals : List Goal
  tokens : List Token
deriving Repr

/-- What a step yields. -/
abbrev Step := Except Malformation (Option Named × Reader)

/-- The tag that a written one means. -/
def resolveTag (handles : Handles) : WrittenTag → Except Malformation (List Char)
  | ⟨[], suffix⟩ => .ok suffix
  | ⟨handle, suffix⟩ =>
    match handles.find? (·.1 == handle) with
    | some h => .ok (h.2 ++ suffix)
    | none => .error .undefinedHandle

/-- An anchor and a tag before a node, in either order. -/
def readProperties (handles : Handles) (ts : List Token) :
    Except Malformation (Properties × List Token) :=
  match ts with
  | .anchor a :: .tag t :: ts => do pure (⟨some a, some (← resolveTag handles t)⟩, ts)
  | .tag t :: .anchor a :: ts => do pure (⟨some a, some (← resolveTag handles t)⟩, ts)
  | .anchor a :: ts => .ok (⟨some a, none⟩, ts)
  | .tag t :: ts => do pure (⟨none, some (← resolveTag handles t)⟩, ts)
  | ts => .ok (⟨none, none⟩, ts)

/-- Reads a node, given the fault that follows the last token. -/
def readNode (handles : Handles) (fault : Malformation) (inBlock allowsIndentless : Bool)
    (goals : List Goal) (ts : List Token) : Step :=
  match ts with
  | .alias name :: ts => .ok (some (.alias name), ⟨goals, ts⟩)
  | ts => do
    let (props, ts) ← readProperties handles ts
    match ts with
    | [] => .error fault
    | t :: ts =>
      if t = .blockEntry ∧ allowsIndentless then
        pure (some (.sequenceStart props), ⟨.indentlessSequence :: goals, t :: ts⟩)
      else match t with
        | .scalar style text => pure (some (.scalar props style text), ⟨goals, ts⟩)
        | .flowSequenceStart =>
          pure (some (.sequenceStart props), ⟨.flowSequence true :: goals, ts⟩)
        | .flowMappingStart => pure (some (.mappingStart props), ⟨.flowKey true :: goals, ts⟩)
        | t =>
          if t = .blockSequenceStart ∧ inBlock then
            pure (some (.sequenceStart props), ⟨.blockSequence :: goals, ts⟩)
          else if t = .blockMappingStart ∧ inBlock then
            pure (some (.mappingStart props), ⟨.blockKey :: goals, ts⟩)
          else if props.anchor.isSome || props.tag.isSome then
            pure (some (.scalar props .plain []), ⟨goals, t :: ts⟩)
          else .error .nodeMissing

/-- A node, or nothing if one of the tokens comes that show its absence. -/
def readOptional (fault : Malformation) (node : Goal) (absent : List Token) (goals : List Goal) :
    List Token → Step
  | [] => .error fault
  | t :: ts =>
    if t ∈ absent then .ok (some missing, ⟨goals, t :: ts⟩)
    else .ok (none, ⟨node :: goals, t :: ts⟩)

/-- After the comma between two members of a flow collection, or before the first. -/
def readSeparator (unclosed : Malformation) (first : Bool) (closing : Token) :
    List Token → Except Malformation (List Token)
  | [] => .ok []
  | t :: ts =>
    if first || t = closing then .ok (t :: ts)
    else if t = .flowEntry then .ok ts
    else .error unclosed

def step (handles : Handles) (fault : Malformation) (goal : Goal) (goals : List Goal)
    (ts : List Token) : Step :=
  let blockNode (indentless : Bool) := Goal.node true indentless
  let flowNode := Goal.node false false
  match goal, ts with
  | _, [] => .error fault
  | .pairEnd, ts => .ok (some mappingEnd, ⟨goals, ts⟩)
  | .node inBlock allowsIndentless, ts => readNode handles fault inBlock allowsIndentless goals ts
  | .blockSequence, .blockEntry :: ts =>
    readOptional fault (blockNode false) [.blockEntry, .blockEnd] (.blockSequence :: goals) ts
  | .blockSequence, .blockEnd :: ts => .ok (some sequenceEnd, ⟨goals, ts⟩)
  | .blockSequence, _ => .error .entryMissing
  | .indentlessSequence, .blockEntry :: ts =>
    readOptional fault (blockNode false) [.blockEntry, .key, .value, .blockEnd]
      (.indentlessSequence :: goals) ts
  | .indentlessSequence, ts => .ok (some sequenceEnd, ⟨goals, ts⟩)
  | .blockKey, .key :: ts =>
    readOptional fault (blockNode true) [.key, .value, .blockEnd] (.blockValue :: goals) ts
  | .blockKey, .blockEnd :: ts => .ok (some mappingEnd, ⟨goals, ts⟩)
  | .blockKey, _ => .error .keyMissing
  | .blockValue, .value :: ts =>
    readOptional fault (blockNode true) [.key, .value, .blockEnd] (.blockKey :: goals) ts
  | .blockValue, ts => .ok (some missing, ⟨.blockKey :: goals, ts⟩)
  | .flowSequence first, ts => do
    match ← readSeparator .sequenceOpen first .flowSequenceEnd ts with
    | .flowSequenceEnd :: ts => pure (some sequenceEnd, ⟨goals, ts⟩)
    | .key :: ts =>
      pure (some (mappingStart ⟨none, none⟩), ⟨.pairKey :: .flowSequence false :: goals, ts⟩)
    | ts => pure (none, ⟨flowNode :: .flowSequence false :: goals, ts⟩)
  | .pairKey, t :: ts =>
    -- A pair without a key swallows the token that shows it.
    if t = .value ∨ t = .flowEntry ∨ t = .flowSequenceEnd then
      .ok (some missing, ⟨.pairValue :: goals, ts⟩)
    else .ok (none, ⟨flowNode :: .pairValue :: goals, t :: ts⟩)
  | .pairValue, .value :: ts =>
    readOptional fault flowNode [.flowEntry, .flowSequenceEnd] (.pairEnd :: goals) ts
  | .pairValue, ts => .ok (some missing, ⟨.pairEnd :: goals, ts⟩)
  | .flowKey first, ts => do
    match ← readSeparator .mappingOpen first .flowMappingEnd ts with
    | .flowMappingEnd :: ts => pure (some mappingEnd, ⟨goals, ts⟩)
    | .key :: ts =>
      readOptional fault flowNode [.value, .flowEntry, .flowMappingEnd]
        (.flowValue false :: goals) ts
    | ts => pure (none, ⟨flowNode :: .flowValue true :: goals, ts⟩)
  | .flowValue false, .value :: ts =>
    readOptional fault flowNode [.flowEntry, .flowMappingEnd] (.flowKey false :: goals) ts
  | .flowValue _, ts => .ok (some missing, ⟨.flowKey false :: goals, ts⟩)

/-- The events that end all goals, or those before the first fault. -/
def run (handles : Handles) (fault : Malformation) :
    Nat → List Named → Reader → List Named × Except Malformation (List Token)
  | 0, done, _ => (done.reverse, .error .textEnded)
  | _ + 1, done, ⟨[], ts⟩ => (done.reverse, .ok ts)
  | fuel + 1, done, ⟨g :: gs, ts⟩ =>
    match step handles fault g gs ts with
    | .error e => (done.reverse, .error e)
    | .ok (some e, r) => run handles fault fuel (e :: done) r
    | .ok (none, r) => run handles fault fuel done r

end Event

/-- The first document of a text. -/
structure Document where
  events : List Event.Named
  fault : Option Malformation
  /-- Whether anything comes after the document. -/
  isFollowed : Bool
deriving Repr

namespace Document
open Event

/-- Directives before a document: one version, and one meaning for each handle. -/
def readDirectives (hasVersion : Bool) (handles : Handles) :
    List Token → Except Malformation (Handles × List Token)
  | .directive (.version major minor) :: ts =>
    if hasVersion then .error .repeatedDirective
    else if major = 1 ∧ (minor = 1 ∨ minor = 2) then readDirectives true handles ts
    else .error .incompatibleVersion
  | .directive (.tag handle expansion) :: ts =>
    if handles.any (·.1 == handle) then .error .repeatedDirective
    else readDirectives hasVersion (handles ++ [(handle, expansion)]) ts
  | ts => .ok (handles ++ defaultHandles, ts)

def isExplicit : List Token → Bool
  | .directive _ :: _ => true
  | .documentStart :: _ => true
  | _ => false

/-- Whether no content follows the start of a document. -/
def isBare : List Token → Bool
  | .directive _ :: _ => true
  | .documentStart :: _ => true
  | .documentEnd :: _ => true
  | .streamEnd :: _ => true
  | _ => false

/-- Whether tokens of another document are left. -/
def isOver (ts : List Token) : Bool := ts.dropWhile (· == .documentEnd) == [.streamEnd]

def ofRun (run : List Named × Except Malformation (List Token)) (fault : Malformation) :
    Document :=
  match run with
  | (events, .error e) => ⟨events, some e, false⟩
  | (events, .ok []) => ⟨events, some fault, false⟩
  | (events, .ok ts) => ⟨events, none, !isOver ts⟩

/-- The document that the tokens make. A text without one has a document without events. -/
def ofTokens (tokens : List Token) (fault : Malformation) : Document :=
  let fuel := 4 * tokens.length + 8
  match tokens with
  | [] => ⟨[], some fault, false⟩
  | [.streamEnd] => ⟨[], none, false⟩
  | ts =>
    if isExplicit ts then
      match readDirectives false [] ts with
      | .error e => ⟨[], some e, false⟩
      | .ok (_, []) => ⟨[], some fault, false⟩
      | .ok (handles, .documentStart :: ts) =>
        if ts.isEmpty then ⟨[], some fault, false⟩
        else if isBare ts then ofRun ([missing], .ok ts) fault
        else ofRun (run handles fault fuel [] ⟨[.node true false], ts⟩) fault
      | .ok _ => ⟨[], some .documentStart, false⟩
    else ofRun (run defaultHandles fault fuel [] ⟨[.node true false], ts⟩) fault

def ofText (text : List Char) : Document :=
  let (ts, fault) := tokens text
  ofTokens ts (fault.getD .textEnded)

end Document
end PluginRelease.Yaml
