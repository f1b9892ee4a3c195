import PluginRelease.CommandLine.Grammar
import PluginRelease.Text.Split

/-!
The help of a tool. In brief each explanation stands beside its option; in full it stands
beneath, and the details of the tool are told too.
-/
namespace PluginRelease.CommandLine
open Text

structure Manual where
  tool : String
  summary : String
  details : Option String
  /-- How operands are named and explained. -/
  operand : String
  operands : String
  note : String
deriving DecidableEq, Repr

/-- Breaks a text between words into lines of at most `width` characters; a longer word stands
on a line of its own. -/
def fillWords (width : Nat) (line : List Char) : List (List Char) → List (List Char)
  | [] => [line]
  | word :: words =>
    if line.length + 1 + word.length ≤ width then fillWords width (line ++ ' ' :: word) words
    else line :: fillWords width word words

def fill (width : Nat) (text : String) : String :=
  match splitOn ' ' text.toList with
  | [] => ""
  | word :: words => String.ofList (joinWith ['\n'] (fillWords width word words))

namespace Spec
variable {κ : Type}

def heading (s : Spec κ) : String :=
  let short := match s.short with
    | some c => String.ofList ['-', c, ','] ++ " --"
    | none => "    --"
  "  " ++ short ++ s.long ++ (if s.placeholder = "" then "" else " <" ++ s.placeholder ++ ">")

end Spec

namespace Manual

def lineWidth : Nat := 100

def pad (width : Nat) (s : String) : String :=
  s ++ String.ofList (List.replicate (width - s.length) ' ')

/-- Entries with their explanations, beside or beneath. -/
def entries (full : Bool) (l : List (String × String)) : String :=
  if full then
    "\n".intercalate (l.map fun e => e.1 ++ "\n" ++ "          " ++ e.2 ++ "\n")
  else
    let width := (l.map (·.1.length)).foldl max 0
    String.join (l.map fun e => pad (width + 2) e.1 ++ e.2 ++ "\n")

/-- Help on help itself tells where there is more of it, or less. -/
def helpOnHelp (m : Manual) (full : Bool) : String :=
  match m.details, full with
  | none, _ => "Print help"
  | some _, false => "Print help (see more with '--help')"
  | some _, true => "Print help (see a summary with '-h')"

def explain {κ : Type} (m : Manual) (full : Bool) (s : Spec κ) : String × String :=
  match s.meaning with
  | .help => (s.heading, m.helpOnHelp full)
  | _ => (s.heading, s.explanation)

/-- Without details there is no more to tell in full than in brief. -/
def render {κ : Type} (m : Manual) (options : List (Spec κ)) (full : Bool) : String :=
  let full := full && m.details.isSome
  let details := match m.details, full with
    | some d, true => "\n" ++ fill lineWidth d ++ "\n"
    | _, _ => ""
  m.summary ++ "\n" ++ details ++
    "\nUsage: " ++ m.tool ++ " [OPTIONS] [" ++ m.operand ++ "]...\n" ++
    "\nArguments:\n" ++ entries full [("  [" ++ m.operand ++ "]...", m.operands)] ++
    "\nOptions:\n" ++ entries full (options.map (m.explain full)) ++
    "\n" ++ m.note ++ "\n"

end Manual
end PluginRelease.CommandLine
