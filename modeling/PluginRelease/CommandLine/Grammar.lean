import PluginRelease.Text.Utf8

/-!
Which options a tool has, and the tokens that its arguments spell. Arguments are bytes. Short
options may share a dash; a value follows its option or is attached to it; after `--` all is
operands.
-/
namespace PluginRelease.CommandLine

/-- Why the arguments are not read to a result. -/
inductive Stop
  /-- Help was asked for, in full or in brief. -/
  | help (full : Bool)
  | version
  | unknownOption
  | badValue
  /-- A value that has to be text is none. -/
  | notText
  | repeated
  | unneededValue
deriving DecidableEq, Repr

inductive Meaning (κ : Type)
  | flag (key : κ)
  | value (key : κ)
  | help
  | version
deriving DecidableEq, Repr

/-- How an option is written and explained. Its letter is written as one byte. -/
structure Spec (κ : Type) where
  short : Option Char
  long : String
  meaning : Meaning κ
  placeholder : String
  explanation : String
deriving Repr

structure Grammar (κ : Type) where
  options : List (Spec κ)
  /-- The options that an option puts out of force. -/
  rivals : κ → List κ
  /-- Why an option does not take a value. -/
  refusal? : κ → Bytes → Option Stop
  acceptsOperand : Bytes → Bool

inductive Token (κ : Type)
  | flag (key : κ)
  | attached (key : κ) (value : Bytes)
  /-- An option whose value is the next argument, if that can be one. -/
  | detached (key : κ) (value : Option Bytes)
  | operand (value : Bytes)
  | inform (why : Stop)
  | refused (why : Stop)
deriving DecidableEq, Repr

/-- What an argument looks like before the options are known. -/
inductive Shape
  | word
  | finish
  | long (name : Bytes) (value : Option Bytes)
  | short (letters : Bytes)
deriving DecidableEq, Repr

abbrev dash : UInt8 := 0x2D

/-- The byte between an option and a value that is attached to it. -/
abbrev equals : UInt8 := 0x3D

/-- A lone dash is a word. -/
def Shape.ofArgument (arg : Bytes) : Shape :=
  match arg with
  | [] => .word
  | [_] => .word
  | b :: c :: rest =>
    if b ≠ dash then .word
    else if c ≠ dash then .short (c :: rest)
    else if rest.isEmpty then .finish
    else
      let name := rest.takeWhile (· ≠ equals)
      .long name (rest.drop name.length).tail?

namespace Grammar

def long? {κ : Type} (g : Grammar κ) (name : Bytes) : Option (Meaning κ) :=
  (g.options.find? (Utf8.ofText ·.long = name)).map (·.meaning)

def short? {κ : Type} (g : Grammar κ) (letter : UInt8) : Option (Meaning κ) :=
  (g.options.find? fun s => s.short.any (Utf8.encode [·] = [letter])).map (·.meaning)

/-- The tokens of one argument, and the option that still wants a value. -/
abbrev Spelled (κ : Type) := List (Token κ) × Option κ

def spellLong {κ : Type} (g : Grammar κ) (name : Bytes) (value : Option Bytes) : Spelled κ :=
  match g.long? name, value with
  | none, _ => ([.refused .unknownOption], none)
  | some (.value k), some v => ([.attached k v], none)
  | some (.value k), none => ([], some k)
  | some _, some _ => ([.refused .unneededValue], none)
  | some (.flag k), none => ([.flag k], none)
  | some .help, none => ([.inform (.help true)], none)
  | some .version, none => ([.inform .version], none)

/-- What follows the letter of an option with a value is that value, with or without `=`. -/
def spellShort {κ : Type} (g : Grammar κ) : Bytes → Spelled κ
  | [] => ([], none)
  | c :: rest =>
    match g.short? c with
    | none => ([.refused .unknownOption], none)
    | some (.flag k) => ((.flag k :: (g.spellShort rest).1), (g.spellShort rest).2)
    | some .help => ([.inform (.help false)], none)
    | some .version => ([.inform .version], none)
    | some (.value k) =>
      match rest with
      | [] => ([], some k)
      | b :: v => ([.attached k (if b = equals then v else b :: v)], none)

/-- `wanting` is the option before these arguments that wants a value. -/
def tokensFrom {κ : Type} (g : Grammar κ) (wanting : Option κ) : List Bytes → List (Token κ)
  | [] => wanting.toList.map (.detached · none)
  | arg :: args =>
    match Shape.ofArgument arg with
    | .word =>
      match wanting with
      | some k => .detached k (some arg) :: g.tokensFrom none args
      | none => .operand arg :: g.tokensFrom none args
    | .finish => wanting.toList.map (.detached · none) ++ args.map .operand
    | .long name value =>
      let spelled := g.spellLong name value
      wanting.toList.map (.detached · none) ++ spelled.1 ++ g.tokensFrom spelled.2 args
    | .short letters =>
      let spelled := g.spellShort letters
      wanting.toList.map (.detached · none) ++ spelled.1 ++ g.tokensFrom spelled.2 args

def tokens {κ : Type} (g : Grammar κ) (args : List Bytes) : List (Token κ) :=
  g.tokensFrom none args

end Grammar
end PluginRelease.CommandLine
