import PluginRelease.CommandLine.Grammar
import PluginRelease.Failure
import PluginRelease.Log

/-!
What a run of a tool shows and leaves behind. Help asked for is not success; arguments that
cannot be read count as bad configuration.
-/
namespace PluginRelease.CommandLine

def Stop.exitCode : Stop → Nat
  | .help _ => ExitCode.failure.toNat
  | .version => 0
  | _ => ExitCode.config.toNat

inductive Ending
  | done
  | stopped (why : Stop)
  | failed (cause : Failure)
deriving DecidableEq, Repr

def Ending.exitCode : Ending → Nat
  | done => 0
  | stopped why => why.exitCode
  | failed cause => cause.exitCode.toNat

structure Outcome where
  ending : Ending
  workspace : Workspace
  output : String
  /-- The lines that the verbosity shows. -/
  logs : List LogLine

namespace Outcome

def ofStop (w : Workspace) (output : String) (why : Stop) : Outcome :=
  ⟨.stopped why, w, output, []⟩

def ofFailure (w : Workspace) (cause : Failure) : Outcome := ⟨.failed cause, w, "", []⟩

def ofResult {α : Type} (v : Verbosity) (result : Except Failure α) (w : Workspace)
    (output : String) (logs : List LogLine) : Outcome :=
  let ending := match result with
    | .ok _ => Ending.done
    | .error cause => .failed cause
  ⟨ending, w, output, logs.filter v.shows⟩

end Outcome
end PluginRelease.CommandLine
