import PluginRelease.Yaml.Meaning

/-!
Data of any shape, when two of them are the same, and how they look in diagnostics.
-/
namespace PluginRelease.Yaml

inductive Value
  | null
  | bool (b : Bool)
  | number (n : Number)
  | text (s : String)
  | sequence (items : List Value)
  | mapping (entries : List (Value × Value))
  | tagged (tag : String) (content : Value)
deriving Repr

namespace Value

/-- The two zeros are the same number. -/
def sameNumber : Number → Number → Bool
  | .float x, .float y => x.compare y == .eq
  | a, b => a == b

mutual

/-- Equality; the order of entries in a mapping does not count. -/
def same : Value → Value → Bool
  | null, null => true
  | bool a, bool b => a == b
  | number a, number b => sameNumber a b
  | text a, text b => a == b
  | sequence a, sequence b => sameItems a b
  | mapping a, mapping b => a.length == b.length && sameEntries a b
  | tagged s a, tagged t b => s == t && same a b
  | _, _ => false

def sameItems : List Value → List Value → Bool
  | [], [] => true
  | a :: as, b :: bs => same a b && sameItems as bs
  | _, _ => false

/-- Whether each entry of the first has its like in the second. -/
def sameEntries : List (Value × Value) → List (Value × Value) → Bool
  | [], _ => true
  | (k, v) :: es, fs => fs.any (fun f => same k f.1 && same v f.2) && sameEntries es fs

end

mutual

def describe : Value → String
  | null => "Null"
  | bool b => "Bool(" ++ toString b ++ ")"
  | number n => "Number(" ++ n.text ++ ")"
  | text s => "String(" ++ Text.quoted s ++ ")"
  | sequence items => "Sequence [" ++ ", ".intercalate (describeItems items) ++ "]"
  | mapping entries => "Mapping \x7b" ++ ", ".intercalate (describeEntries entries) ++ "\x7d"
  | tagged tag content =>
    "TaggedValue \x7b tag: !" ++ tag ++ ", value: " ++ describe content ++ " \x7d"

def describeItems : List Value → List String
  | [] => []
  | v :: vs => describe v :: describeItems vs

/-- Keys that are simple scalars stand without the name of their kind. -/
def describeEntries : List (Value × Value) → List String
  | [] => []
  | (k, v) :: es =>
    let key := match k with
      | bool b => toString b
      | number n => n.text
      | text s => Text.quoted s
      | k => describe k
    (key ++ ": " ++ describe v) :: describeEntries es

end

end Value
end PluginRelease.Yaml
