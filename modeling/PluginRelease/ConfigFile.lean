import PluginRelease.Failure
import PluginRelease.Text.Blank
import PluginRelease.Yaml.Decode

/-!
Configuration files. A blank file, or one without data, leaves every option at its default.
-/
namespace PluginRelease.ConfigFile
open Yaml

def load {α : Type} (shape : Decode.Shape α) (w : Workspace) (p : Path) : Except Failure α := do
  if w.isFile p then
    let s ← Failure.ofSystem ("Failed to read config from " ++ p.text) (w.readText p)
    if Text.isBlankText s.toList then pure shape.empty
    else match Decode.ofText shape s with
      | .ok a => pure (a.getD shape.empty)
      | .error f => .error (.config (.invalid p f.message))
  else .error (.config (.fileNotFound p))

/-- The text of a scalar of any kind, if there is one. -/
def textField (path : String) : Decode.Decoder (Option String) :=
  Decode.optional (Decode.text "a string" path)

def pathField (path : String) : Decode.Decoder Path := do
  pure (.ofText (← Decode.text "path string" path))

end PluginRelease.ConfigFile
