import PluginRelease.Publish.Session
import PluginRelease.Url.Reading

/-!
The calls of a session as requests to a site that cannot be reached: each ends where its address
is no URL, where no request can be made of it, or where the request finds no answer.
-/
namespace PluginRelease.Site
open Text

def root (site : String) : List Char := dropEndWhile (· == '/') site.toList

def loginPath : String := "/login.php"

def logoutPath : String := "/logout.php"

/-- A page of a site. -/
def pageUrl (site path : String) : Except Failure Url :=
  let raw := String.ofList (root site) ++ path
  match Url.ofText raw with
  | .ok u => .ok u
  | .error e =>
    .error (.withHelp ("Invalid site URL " ++ raw ++ ": " ++ e.message) "Check `site`.")

def formUrl (site : String) (id : Nat) : Except Failure Url :=
  match Url.ofText (uploadUrl site id) with
  | .ok u => .ok u
  | .error e => .error (.ofText ("Invalid upload URL: " ++ e.message))

/-- Marks that a host may have in a URL but not in a request. -/
def unsentMarks : List Char := ['"', '\x60', '\x7b', '\x7d']

def isSendable (u : Url) : Bool :=
  ["http", "https"].any (·.toList = u.scheme) &&
    (u.host.map Host.render).all fun h => !h.any unsentMarks.contains

def isText (encoded : List Char) : Bool :=
  (Utf8.decode? (Percent.decode (Utf8.encode encoded))).isSome

/-- User and password are taken out of the address of a request, if they can be read. -/
def requested (u : Url) : Url :=
  if isText u.user ∧ (!u.user.isEmpty ∨ isText u.password) then u.withoutUser else u

/-- Why fetching a page gives none. -/
def fetchFailure (u : Url) : Failure :=
  let shown := (requested u).render
  if isSendable u then .http (.unsent shown) else .http (.unfit shown)

/-- The page that a call fetches first. -/
def firstUrl (site : String) : SiteCall → Except Failure Url
  | .login _ _ => pageUrl site loginPath
  | .logout => pageUrl site logoutPath
  | .upload id _ _ _ => formUrl site id

def unreachable (site : String) : SiteClient := fun _ c => do
  let u ← firstUrl site c
  .error (fetchFailure u)

end PluginRelease.Site
