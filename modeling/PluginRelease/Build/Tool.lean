import PluginRelease.Build.Arguments
import PluginRelease.CommandLine.Outcome

/-!
The descriptor builder run from a command line.
-/
namespace PluginRelease.BuildTool
open CommandLine

def explain : Stop → String
  | .help full => BuildArguments.manual.render BuildOption.specs full
  | .version => BuildArguments.versionText
  | _ => ""

def builder (w : Workspace) (a : BuildArguments) : Except Failure Builder := do
  let config ← BuildConfig.load w a.config
  Builder.ofConfig w (← config.apply w a.overrides)

def run (w : Workspace) (args : List Bytes) : Outcome :=
  match BuildArguments.read args with
  | .error why => .ofStop w (explain why) why
  | .ok a =>
    match builder w a with
    | .error cause => .ofFailure w cause
    | .ok b =>
      let o := b.run w a.command
      .ofResult a.verbosity o.result o.workspace o.output o.logs

end PluginRelease.BuildTool
