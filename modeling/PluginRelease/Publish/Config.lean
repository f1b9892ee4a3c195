import PluginRelease.ConfigFile
import PluginRelease.Descriptor.Codec

/-!
Options of the publisher. Some of them fill the fields that a descriptor lacks; the others say
where to publish, as whom, and whether to publish at all.
-/
namespace PluginRelease

structure PublishConfig where
  id : Option String
  file : Option String
  message : Option String
  version : Option String
  username : Option String
  password : Option String
  /-- Show what would be sent instead of sending it. -/
  dry : Bool
  site : String
deriving DecidableEq, Repr

/-- Options of the command line; those given replace what a file says. -/
structure PublishOverrides where
  id : Option String
  file : Option String
  message : Option String
  messageFile : Option Path
  version : Option String
  username : Option String
  password : Option String
  site : Option String
  dry : Option Bool
deriving DecidableEq, Repr

namespace PublishOverrides

def empty : PublishOverrides := ⟨none, none, none, none, none, none, none, none, none⟩

/-- The message to use, which a file names or the option itself. -/
def messageText (o : PublishOverrides) (w : Workspace) : Except Failure (Option String) :=
  match o.messageFile with
  | none => .ok o.message
  | some p =>
    if w.isFile p then
      (Failure.ofSystem ("Failed to read message file " ++ p.text) (w.readText p)).map some
    else .error (.config (.missingFile "Message file" p))

end PublishOverrides

namespace PublishConfig
open Yaml ConfigFile

def defaultSite : String := "http://www.vim.org"

def default : PublishConfig := ⟨none, none, none, none, none, none, false, defaultSite⟩

def field (name : String) :
    Option (Nat → String → Nat → PublishConfig → Decode.Decoder PublishConfig) :=
  match name with
  | "id" => some fun fuel path depth c => do
    pure { c with id := ← Descriptor.scalarField fuel path depth }
  | "file" => some fun _ path _ c => do pure { c with file := ← textField path }
  | "message" => some fun _ path _ c => do pure { c with message := ← textField path }
  | "version" => some fun fuel path depth c => do
    pure { c with version := ← Descriptor.scalarField fuel path depth }
  | "username" => some fun _ path _ c => do pure { c with username := ← textField path }
  | "password" => some fun fuel path depth c => do
    pure { c with password := ← Descriptor.scalarField fuel path depth }
  | "dry" => some fun _ path _ c => do pure { c with dry := ← Decode.bool path }
  | "site" => some fun _ path _ c => do pure { c with site := ← Decode.text "a string" path }
  | _ => none

def shape : Decode.Shape PublishConfig := ⟨"struct UploadConfig", default, field⟩

def load (w : Workspace) : Option Path → Except Failure PublishConfig
  | none => .ok default
  | some p => ConfigFile.load shape w p

def apply (c : PublishConfig) (w : Workspace) (o : PublishOverrides) :
    Except Failure PublishConfig := do
  let message ← o.messageText w
  pure { c with
    id := o.id.or c.id
    file := o.file.or c.file
    message := message.or c.message
    version := o.version.or c.version
    username := o.username.or c.username
    password := o.password.or c.password
    site := o.site.getD c.site
    dry := o.dry.getD c.dry }

/-- What fills the gaps of a descriptor. -/
def defaults (c : PublishConfig) : Descriptor := ⟨c.id, c.version, c.message, c.file⟩

/-- User name and password, if neither is empty. -/
def credentials? (c : PublishConfig) : Option (String × String) :=
  match c.username, c.password with
  | some user, some password => if user = "" ∨ password = "" then none else some (user, password)
  | _, _ => none

end PublishConfig
end PluginRelease
