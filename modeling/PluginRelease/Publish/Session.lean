import PluginRelease.Log
import PluginRelease.Publish.Config
import PluginRelease.Text.Quoted

/-!
A session on the site: log in once, publish descriptor after descriptor, log out on every way
out. A bad descriptor is reported and skipped; a call that fails ends the batch.
-/
namespace PluginRelease

/-- What the site is asked to do. -/
inductive SiteCall
  | login (user password : String)
  | logout
  | upload (id : Nat) (version message : String) (file : Path)
deriving DecidableEq, Repr

/-- Answers a call, given the calls before it. -/
abbrev SiteClient := List SiteCall → SiteCall → Except Failure Unit

structure Publisher where
  config : PublishConfig
  client : SiteClient

structure Session where
  loggedIn : Bool
  calls : List SiteCall
  logs : List LogLine
  output : String
deriving DecidableEq, Repr

def Session.start : Session := ⟨false, [], [], ""⟩

/-- A step of a session; a failure keeps what was done before it. -/
abbrev Action := EStateM Failure Session

structure Report where
  published : Nat
  failed : Nat
deriving DecidableEq, Repr

def Report.empty : Report := ⟨0, 0⟩

def Report.add (r : Report) (published : Bool) : Report :=
  if published then { r with published := r.published + 1 } else { r with failed := r.failed + 1 }

/-- The page with the form for a new version of a script. -/
def uploadUrl (site : String) (id : Nat) : String :=
  String.ofList (Text.dropEndWhile (· == '/') site.toList) ++
    "/scripts/add_script_version.php?script_id=" ++ toString id

namespace Publisher

def log (level : LogLevel) (text : String) : Action Unit :=
  modify fun s => { s with logs := s.logs ++ [⟨level, text⟩] }

def print (text : String) : Action Unit := modify fun s => { s with output := s.output ++ text }

def call (p : Publisher) (c : SiteCall) : Action Unit := fun s =>
  let t := { s with calls := s.calls ++ [c] }
  match p.client s.calls c with
  | .ok () => .ok () t
  | .error f => .error f t

def setLoggedIn (b : Bool) : Action Unit := modify fun s => { s with loggedIn := b }

/-- Does nothing in a session that is logged in. -/
def login (p : Publisher) : Action Unit := do
  if (← get).loggedIn then pure ()
  else match p.config.credentials? with
    | none => throw (.config .missingCredentials)
    | some (user, password) =>
      if p.config.dry then log .warn ("Login: " ++ user ++ ":*********")
      else do
        p.call (.login user password)
        setLoggedIn true

def logout (p : Publisher) : Action Unit := do
  if p.config.dry then log .warn "Log out" else p.call .logout
  setLoggedIn false

private def shownId : Option String → String
  | none => "None"
  | some id => "Some(" ++ Text.quoted id ++ ")"

/-- Reports why a descriptor is skipped. -/
def skip (text : String) : Action Bool := do
  log .error text
  pure false

/-- Whether the descriptor was published, or shown in a dry run. -/
def upload (p : Publisher) (w : Workspace) (d : Descriptor) : Action Bool :=
  match d.numericId? with
  | none => skip ("No valid script ID: " ++ shownId d.id)
  | some id =>
    match d.ensureComplete with
    | .error f => skip f.message
    | .ok () => do
      log .warn ("Upload URL: " ++ uploadUrl p.config.site id)
      if p.config.dry then
        print d.toYaml
        pure true
      else match d.version, d.message, d.file with
        | some version, some message, some file =>
          if w.isFile (.ofText file) then
            p.call (.upload id version message (.ofText file))
            pure true
          else skip ("Plugin file does not exist: " ++ file)
        | _, _, _ => pure false

/-- Publishes the descriptor in a file, with its gaps filled. -/
def uploadFile (p : Publisher) (w : Workspace) (path : Path) : Action Bool :=
  if w.isFile path then
    match Descriptor.load w path with
    | .error f => skip f.message
    | .ok d => p.upload w (d.orDefaults p.config.defaults)
  else skip ("YAML script definition not found: " ++ path.text)

def uploadAll (p : Publisher) (w : Workspace) (r : Report) : List Path → Action Report
  | [] => pure r
  | path :: paths => do
    let published ← p.uploadFile w path
    p.uploadAll w (r.add published) paths

/-- Logs out after a failure, which stays the failure of the whole. -/
def abandon {α : Type} (p : Publisher) (f : Failure) : Action α := fun s =>
  match p.logout s with
  | .ok () s => .error f s
  | .error g s => .error f { s with logs := s.logs ++ [⟨.error, "Logout failed: " ++ g.message⟩] }

/-- Publishes the descriptors in some files, in one session. -/
def process (p : Publisher) (w : Workspace) (paths : List Path) : Action Report := do
  p.login
  let report ← fun s =>
    match p.uploadAll w .empty paths s with
    | .ok r s => EStateM.Result.ok r s
    | .error f s => p.abandon f s
  p.logout
  log .info (toString report.published ++ " published, " ++ toString report.failed ++ " failed")
  pure report

end Publisher
end PluginRelease
