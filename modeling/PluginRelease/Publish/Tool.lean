import PluginRelease.CommandLine.Outcome
import PluginRelease.Publish.Arguments
import PluginRelease.Publish.Session

/-!
The publisher run from a command line. Nothing is read before there is something to publish.
-/
namespace PluginRelease.PublishTool
open CommandLine

def explain : Stop → String
  | .help full => PublishArguments.manual.render PublishOption.specs full
  | _ => ""

def configOf (w : Workspace) (a : PublishArguments) : Except Failure PublishConfig :=
  if a.descriptors.isEmpty then .error (.config .noDescriptors)
  else do (← PublishConfig.load w a.config).apply w a.overrides

/-- `client` makes the calls of a session on the site of an address. -/
def run (client : String → SiteClient) (w : Workspace) (args : List Bytes) : Outcome :=
  match PublishArguments.read args with
  | .error why => .ofStop w (explain why) why
  | .ok a =>
    match configOf w a with
    | .error cause => .ofFailure w cause
    | .ok config =>
      let p : Publisher := ⟨config, client config.site⟩
      match p.process w a.descriptors .start with
      | .ok r s => .ofResult a.verbosity (.ok r) w s.output s.logs
      | .error f s => .ofResult a.verbosity (.error f : Except Failure Report) w s.output s.logs

end PluginRelease.PublishTool
