import PluginRelease.Descriptor.Field
import PluginRelease.Workspace.Tree

/-!
What can go wrong, as causes. A failure has a message, perhaps a hint what to do about it,
and an exit code; adding context never changes the last two.
-/
namespace PluginRelease

inductive ExitCode
  | failure
  | config
deriving DecidableEq, Repr

def ExitCode.toNat : ExitCode → Nat
  | failure => 1
  | config => 5

inductive ConfigFailure
  | fileNotFound (path : Path)
  | invalid (path : Path) (reason : String)
  | missingOption (option : String)
  | missingFile (what : String) (path : Path)
  | folderNotFound (path : Path)
  | invalidArgument (message : String)
  | missingCredentials
  | noDescriptors
deriving DecidableEq, Repr

namespace ConfigFailure

def message : ConfigFailure → String
  | fileNotFound p => "Configuration file not found: " ++ p.text
  | invalid p reason => "Invalid configuration file " ++ p.text ++ ": " ++ reason
  | missingOption o => "No " ++ o ++ " given"
  | missingFile what p => what ++ " does not exist: " ++ p.text
  | folderNotFound p => "Directory not found: " ++ p.text
  | invalidArgument m => m
  | missingCredentials => "Username or password is missing!"
  | noDescriptors => "No yaml script definition given"

def help? : ConfigFailure → Option String
  | missingOption o =>
    some ("Pass --" ++ o ++ " on the command line or set `" ++ o ++ "` in the config file.")
  | missingCredentials => some "Pass --username and --password or set them in the config file."
  | noDescriptors => some "Pass one or more descriptor files, e.g. `myplugin.yml`."
  | _ => none

end ConfigFailure

inductive ExtractFailure
  | versionNotFound (name : String)
  | scriptIdMismatch (expected found : String)
  | incompleteDescriptor (missing : List Field)
deriving DecidableEq, Repr

namespace ExtractFailure

def message : ExtractFailure → String
  | versionNotFound name => "Cannot find version number for " ++ name
  | scriptIdMismatch expected found =>
    "Script ID mismatch: Expected " ++ expected ++ " but got " ++ found
  | incompleteDescriptor missing =>
    "Incomplete script definition (missing: " ++ ", ".intercalate (missing.map Field.name) ++ ")"

def help? : ExtractFailure → Option String
  | versionNotFound name =>
    some ("Add a line like `let loaded_" ++ name ++ " = 100` to one of the source files.")
  | scriptIdMismatch _ _ =>
    some "Check that the output file belongs to this plugin; it was left untouched."
  | incompleteDescriptor missing =>
    if .id ∈ missing then
      some "Add a `\" GetLatestVimScripts: <id> <id> <name>.vim` line to one of the source files."
    else none

end ExtractFailure

inductive GitFailure
  | commandFailed (command stderr : String)
  | repositoryNotFound (path : Path)
deriving DecidableEq, Repr

namespace GitFailure

def message : GitFailure → String
  | commandFailed command stderr => "Git command failed: " ++ command ++ "\n" ++ stderr
  | repositoryNotFound p => "Git repository not found at: " ++ p.text

def help? : GitFailure → Option String
  | repositoryNotFound p =>
    some ("Initialize the repository first or check the path: " ++ p.text)
  | _ => none

end GitFailure

/-- A request that could not be made of an address, or not be sent there. -/
inductive HttpFailure
  | unfit (url : String)
  | unsent (url : String)
deriving DecidableEq, Repr

def HttpFailure.message : HttpFailure → String
  | unfit url => "HTTP error: builder error for url (" ++ url ++ ")"
  | unsent url => "HTTP error: error sending request for url (" ++ url ++ ")"

inductive FormFailure
  | formNotFound (name url : String)
  | fieldNotFound (form field : String)
  | noFileInput (form : String)
  | badAction (action reason : String)
deriving DecidableEq, Repr

def FormFailure.message : FormFailure → String
  | formNotFound name url => "Form '" ++ name ++ "' not found on " ++ url
  | fieldNotFound form field => "Form '" ++ form ++ "' has no field '" ++ field ++ "'"
  | noFileInput form => "Form '" ++ form ++ "' has no file upload field"
  | badAction action reason => "Invalid form action '" ++ action ++ "': " ++ reason

/-- `context` of a plain message stands under it, a line for each layer. -/
inductive Failure
  | config (cause : ConfigFailure)
  | extract (cause : ExtractFailure)
  | git (cause : GitFailure)
  | http (cause : HttpFailure)
  | form (cause : FormFailure)
  | system (cause : SystemFault)
  | plain (text : String) (context help : Option String)
deriving DecidableEq, Repr

namespace Failure

def ofText (text : String) : Failure := plain text none none

def withHelp (text help : String) : Failure := plain text none (some help)

def message : Failure → String
  | config c => c.message
  | extract c => c.message
  | git c => c.message
  | http c => c.message
  | form c => c.message
  | system c => "I/O error: " ++ c.message
  | plain text none _ => text
  | plain text (some context) _ => text ++ "\n" ++ context

def help? : Failure → Option String
  | config c => c.help?
  | extract c => c.help?
  | git c => c.help?
  | plain _ _ help => help
  | _ => none

def exitCode : Failure → ExitCode
  | config _ => .config
  | extract _ => .config
  | _ => .failure

/-- Whether another failure lies behind this one. -/
def hasSource : Failure → Bool
  | system _ => true
  | http _ => true
  | _ => false

/-- The context becomes the headline of a system fault and the line below the headline of a
plain message; failures with a cause of their own stay as they are. -/
def addContext (ctx : String) : Failure → Failure
  | plain text none help => plain text (some ctx) help
  | plain text (some context) help => plain text (some (ctx ++ "\n" ++ context)) help
  | system c => plain ctx (some c.message) none
  | f => f

@[simp] theorem exitCode_addContext (ctx : String) (f : Failure) :
    (f.addContext ctx).exitCode = f.exitCode := by
  cases f with
  | plain text context help => cases context <;> rfl
  | _ => rfl

@[simp] theorem help?_addContext (ctx : String) (f : Failure) :
    (f.addContext ctx).help? = f.help? := by
  cases f with
  | plain text context help => cases context <;> rfl
  | _ => rfl

/-- The outcome of a system call, with a headline for its fault. -/
def ofSystem {α : Type} (headline : String) : Except SystemFault α → Except Failure α
  | .ok a => .ok a
  | .error e => .error ((system e).addContext headline)

end Failure
end PluginRelease
