import PluginRelease.CommandLine.Grammar

/-!
What the tokens of a command line give. A value is checked when the next token begins, or at
the end; an argument that is refused hides what is wrong with the token before it.
-/
namespace PluginRelease.CommandLine

/-- Options in force with their values, and operands. -/
structure Given (κ : Type) where
  options : List (κ × Option Bytes)
  operands : List Bytes
deriving DecidableEq, Repr

namespace Given
variable {κ : Type} [DecidableEq κ]

def empty : Given κ := ⟨[], []⟩

def has (g : Given κ) (key : κ) : Bool := g.options.any (·.1 = key)

def value? (g : Given κ) (key : κ) : Option Bytes :=
  (g.options.find? (·.1 = key)).bind (·.2)

def put (g : Given κ) (rivals : List κ) (key : κ) (value : Option Bytes) : Given κ :=
  { g with options := g.options.filter (·.1 ∉ rivals) ++ [(key, value)] }

end Given

/-- What is read but not yet checked. -/
inductive Pending (κ : Type)
  | nothing
  | value (key : κ) (value : Option Bytes)
  | operands (values : List Bytes)
deriving DecidableEq, Repr

namespace Grammar
variable {κ : Type} [DecidableEq κ]

/-- A flag that is still in force cannot be given again. -/
def giveFlag (g : Grammar κ) (given : Given κ) (key : κ) : Except Stop (Given κ) :=
  if given.has key then .error .repeated else .ok (given.put (g.rivals key) key none)

def giveValue (g : Grammar κ) (given : Given κ) (key : κ) :
    Option Bytes → Except Stop (Given κ)
  | none => .error .badValue
  | some v =>
    if given.has key then .error .repeated
    else match g.refusal? key v with
      | some why => .error why
      | none => .ok (given.put (g.rivals key) key (some v))

def settle (g : Grammar κ) (given : Given κ) : Pending κ → Except Stop (Given κ)
  | .nothing => .ok given
  | .value key v => g.giveValue given key v
  | .operands values =>
    if values.all g.acceptsOperand then
      .ok { given with operands := given.operands ++ values }
    else .error .badValue

def readFrom (g : Grammar κ) (given : Given κ) (pending : Pending κ) :
    List (Token κ) → Except Stop (Given κ)
  | [] => g.settle given pending
  | .refused why :: _ => .error why
  | .inform why :: _ =>
    match g.settle given pending with
    | .error e => .error e
    | .ok _ => .error why
  | .flag key :: rest => do
    let given ← g.settle given pending
    g.readFrom (← g.giveFlag given key) .nothing rest
  | .attached key v :: rest => do
    let given ← g.settle given pending
    g.readFrom (← g.giveValue given key (some v)) .nothing rest
  | .detached key v :: rest => do
    g.readFrom (← g.settle given pending) (.value key v) rest
  | .operand value :: rest =>
    match pending with
    | .operands values => g.readFrom given (.operands (values ++ [value])) rest
    | pending => do g.readFrom (← g.settle given pending) (.operands [value]) rest

def read (g : Grammar κ) (args : List Bytes) : Except Stop (Given κ) :=
  g.readFrom .empty .nothing (g.tokens args)

end Grammar
end PluginRelease.CommandLine
