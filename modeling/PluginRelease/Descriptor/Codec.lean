import PluginRelease.Descriptor.Basic
import PluginRelease.Yaml.Decode
import PluginRelease.Yaml.Writer

/-!
Descriptors as YAML. Reading takes an integer or a truth value as its text and refuses a
decimal, whose last digits a number does not keep.
-/
namespace PluginRelease.Descriptor
open Yaml

/-- A field that may hold any scalar but a decimal. -/
def scalarField (fuel : Nat) (path : String) (depth : Nat) : Decode.Decoder (Option String) := do
  match ← Decode.value fuel false path depth with
  | .null => pure none
  | .text s => pure (some s)
  | .bool b => pure (some (toString b))
  | .number (.integer n) => pure (some (toString n))
  | .number n => .fail (.unfit
    ("unquoted decimal " ++ n.text ++ " would lose digits; quote it (e.g. '1.10')") none)
  | v => .fail (.unfit ("expected a scalar, found " ++ v.describe) none)

def shape : Decode.Shape Descriptor where
  wanted := "struct ReleaseDescriptor"
  empty := empty
  field name := (Field.ofName? name).map fun f fuel path depth d => do
    pure (d.set f (← scalarField fuel path depth))

/-- A blank text and a document without data hold an empty descriptor. -/
def decode (s : String) : Except Fault Descriptor :=
  if Text.isBlankText s.toList then .ok empty
  else (Decode.ofText shape s).map (·.getD empty)

def ofYaml (s : String) : Except Failure Descriptor :=
  match decode s with
  | .ok d => .ok d
  | .error f => .error (.ofText ("YAML error: " ++ f.message))

def toYaml (d : Descriptor) : String :=
  String.ofList (Writer.mapping
    (Field.all.map fun f => (f.name.toList, (d.get f).map String.toList)))

def load (w : Workspace) (p : Path) : Except Failure Descriptor := do
  let s ← Failure.ofSystem ("Failed to read descriptor " ++ p.text) (w.readText p)
  match ofYaml s with
  | .ok d => pure d
  | .error f => .error (.config (.invalid p f.message))

def save (d : Descriptor) (w : Workspace) (p : Path) : Except Failure Workspace :=
  Failure.ofSystem ("Failed to write descriptor " ++ p.text)
    (w.write p (Utf8.encode d.toYaml.toList))

end PluginRelease.Descriptor
