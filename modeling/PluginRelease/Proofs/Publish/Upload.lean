import PluginRelease.Publish.Session
import PluginRelease.Proofs.Descriptor.Complete

/-!
What a publisher does with one descriptor. First it adds to the log, and in a dry run to the
output; after that it makes the call for the descriptor, if there is one to make.
-/
namespace PluginRelease

namespace Descriptor
variable {d : Descriptor}

/-- The descriptor has a number, and none of its fields is missing. -/
def isReady (d : Descriptor) : Bool := d.numericId?.isSome && d.isComplete

/-- The file that the descriptor names exists. -/
def hasArchive (d : Descriptor) (w : Workspace) : Bool := d.file.any fun f => w.isFile f

/-- The upload of a descriptor under its number. -/
def call? (d : Descriptor) : Option SiteCall :=
  match d.numericId?, d.version, d.message, d.file with
  | some id, some version, some message, some file =>
    some (.upload id version message (.ofText file))
  | _, _, _, _ => none

theorem exists_of_isReady (h : d.isReady = true) : ∃ id version message file,
    d.numericId? = some id ∧ d.version = some version ∧ d.message = some message ∧
      d.file = some file ∧ d.call? = some (.upload id version message (.ofText file)) := by
  obtain ⟨hid, hcomplete⟩ := Bool.and_eq_true_iff.mp h
  obtain ⟨id, hid⟩ := Option.isSome_iff_exists.mp hid
  obtain ⟨version, hversion, -⟩ := exists_get_of_isComplete hcomplete .version
  obtain ⟨message, hmessage, -⟩ := exists_get_of_isComplete hcomplete .message
  obtain ⟨file, hfile, -⟩ := exists_get_of_isComplete hcomplete .file
  simp only [get] at hversion hmessage hfile
  exact ⟨id, version, message, file, hid, hversion, hmessage, hfile,
    by simp only [call?, hid, hversion, hmessage, hfile]⟩

theorem eq_upload_of_call {c : SiteCall} (h : d.call? = some c) :
    ∃ id version message file, c = .upload id version message file := by
  unfold call? at h
  split at h
  · obtain rfl := Option.some.inj h
    exact ⟨_, _, _, _, rfl⟩
  · cases h

end Descriptor

namespace PublishConfig

/-- A dry run does not look for the archive. -/
def accepts (c : PublishConfig) (w : Workspace) (d : Descriptor) : Bool :=
  d.isReady && (c.dry || d.hasArchive w)

/-- The descriptor in a file, with its gaps filled. -/
def effective? (c : PublishConfig) (w : Workspace) (path : Path) : Option Descriptor :=
  if w.isFile path then
    match Descriptor.load w path with
    | .error _ => none
    | .ok d => some (d.orDefaults c.defaults)
  else none

/-- The descriptor in a file, if it counts as published. -/
def accepted? (c : PublishConfig) (w : Workspace) (path : Path) : Option Descriptor :=
  (c.effective? w path).filter (c.accepts w)

/-- The uploads of some descriptors. -/
def sends (c : PublishConfig) (ds : List Descriptor) : List SiteCall :=
  if c.dry then [] else ds.filterMap Descriptor.call?

/-- What is printed of some descriptors. -/
def shows (c : PublishConfig) (ds : List Descriptor) : String :=
  if c.dry then String.join (ds.map Descriptor.toYaml) else ""

variable {c : PublishConfig}

theorem accepted?_of_load {w : Workspace} {path : Path} {d : Descriptor}
    (hfile : w.isFile path = true) (hload : Descriptor.load w path = .ok d) :
    c.accepted? w path = (some (d.orDefaults c.defaults)).filter (c.accepts w) := by
  unfold accepted? effective?
  rw [if_pos hfile, hload]

theorem sends_dry (h : c.dry = true) (ds : List Descriptor) : c.sends ds = [] := if_pos h

theorem sends_real (h : c.dry = false) (ds : List Descriptor) :
    c.sends ds = ds.filterMap Descriptor.call? := by
  rw [sends, h, if_neg (by decide)]

theorem shows_dry (h : c.dry = true) (ds : List Descriptor) :
    c.shows ds = String.join (ds.map Descriptor.toYaml) := if_pos h

theorem shows_real (h : c.dry = false) (ds : List Descriptor) : c.shows ds = "" := by
  rw [shows, h, if_neg (by decide)]

@[simp] theorem sends_nil : c.sends [] = [] := by simp [sends]

@[simp] theorem shows_nil : c.shows [] = "" := by simp [shows]

@[simp] theorem sends_append (ds es : List Descriptor) :
    c.sends (ds ++ es) = c.sends ds ++ c.sends es := by
  unfold sends
  split
  · rfl
  · exact List.filterMap_append

@[simp] theorem shows_append (ds es : List Descriptor) :
    c.shows (ds ++ es) = c.shows ds ++ c.shows es := by
  unfold shows
  split
  · rw [List.map_append, String.join_append]
  · rfl

end PublishConfig

/-- How many errors a session has logged. -/
def Session.errorCount (s : Session) : Nat := s.logs.countP (·.level == .error)

/-- What lies between two points of a session at which the same user, or none, is logged in. -/
structure Session.Adds (s t : Session) (calls : List SiteCall) (output : String)
    (errors : Nat) : Prop where
  loggedIn : t.loggedIn = s.loggedIn
  calls : t.calls = s.calls ++ calls
  output : t.output = s.output ++ output
  errorCount : t.errorCount = s.errorCount + errors

namespace Session.Adds
variable {s t u : Session} {calls later : List SiteCall} {output more : String} {m n : Nat}

theorem refl (s : Session) : s.Adds s [] "" 0 where
  loggedIn := rfl
  calls := (List.append_nil _).symm
  output := String.append_empty.symm
  errorCount := rfl

theorem trans (hs : s.Adds t calls output m) (ht : t.Adds u later more n) :
    s.Adds u (calls ++ later) (output ++ more) (m + n) where
  loggedIn := ht.loggedIn.trans hs.loggedIn
  calls := by rw [ht.calls, hs.calls, List.append_assoc]
  output := by rw [ht.output, hs.output, String.append_assoc]
  errorCount := by rw [ht.errorCount, hs.errorCount, Nat.add_assoc]

theorem line (s : Session) (l : LogLine) :
    s.Adds { s with logs := s.logs ++ [l] } [] "" (if l.level = .error then 1 else 0) where
  loggedIn := rfl
  calls := (List.append_nil _).symm
  output := String.append_empty.symm
  errorCount := by simp [Session.errorCount, List.countP_append, List.countP_cons]

theorem text (s : Session) (output : String) :
    s.Adds { s with output := s.output ++ output } [] output 0 where
  loggedIn := rfl
  calls := (List.append_nil _).symm
  output := rfl
  errorCount := rfl

theorem made (s : Session) (calls : List SiteCall) :
    s.Adds { s with calls := s.calls ++ calls } calls "" 0 where
  loggedIn := rfl
  calls := rfl
  output := String.append_empty.symm
  errorCount := rfl

end Session.Adds

namespace Publisher

theorem exists_of_bind {α β : Type} {x : Action α} {k : α → Action β} {s t : Session} {b : β}
    (h : (x >>= k) s = .ok b t) : ∃ a u, x s = .ok a u ∧ k a u = .ok b t := by
  change EStateM.bind x k s = .ok b t at h
  unfold EStateM.bind at h
  split at h
  · next a u hx => exact ⟨a, u, hx, h⟩
  · cases h

theorem bind_eq {α β : Type} {x : Action α} {k : α → Action β} {s t : Session} {a : α}
    (h : x s = .ok a t) : (x >>= k) s = k a t := by
  change EStateM.bind x k s = k a t
  rw [EStateM.bind, h]

variable {p : Publisher} {w : Workspace} {s : Session}

/-- The ways in which one descriptor may be settled, which is none if it is not accepted: it is
skipped with an error, it is shown in a dry run, or all that is left is to call for its upload. -/
inductive Settles (p : Publisher) (s : Session) :
    Option Descriptor → EStateM.Result Failure Session Bool → Prop
  | skipped {t : Session} (ht : s.Adds t [] "" 1) : Settles p s none (.ok false t)
  | shown {d : Descriptor} {t : Session} (hdry : p.config.dry = true)
      (ht : s.Adds t [] d.toYaml 0) : Settles p s (some d) (.ok true t)
  | called {d : Descriptor} {c : SiteCall} {t : Session} (hdry : p.config.dry = false)
      (hcall : d.call? = some c) (ht : s.Adds t [] "" 0) :
      Settles p s (some d) ((do p.call c; pure true : Action Bool) t)

/-- A descriptor that is skipped is reported by one error, whatever was reported before. -/
theorem skip_settles {t : Session} (ht : s.Adds t [] "" 0) (text : String) :
    p.Settles s none (skip text t) := by
  have herror := ht.trans (Session.Adds.line t ⟨.error, text⟩)
  exact .skipped (by simpa using herror)

theorem upload_settles (d : Descriptor) :
    p.Settles s ((some d).filter (p.config.accepts w)) (p.upload w d s) := by
  cases hid : d.numericId? with
  | none =>
    have hrefused : p.config.accepts w d = false := by
      simp [PublishConfig.accepts, Descriptor.isReady, hid]
    rw [Option.filter_some, hrefused, if_neg (by decide)]
    simp only [upload, hid]
    exact skip_settles (Session.Adds.refl s) _
  | some id =>
    cases hensure : d.ensureComplete with
    | error f =>
      have hmissing : d.isComplete ≠ true := by
        intro hcomplete
        rw [Descriptor.ensureComplete_eq_ok_iff.mpr hcomplete] at hensure
        cases hensure
      have hrefused : p.config.accepts w d = false := by
        simp [PublishConfig.accepts, Descriptor.isReady, hmissing]
      rw [Option.filter_some, hrefused, if_neg (by decide)]
      simp only [upload, hid, hensure]
      exact skip_settles (Session.Adds.refl s) _
    | ok u =>
      have hready : d.isReady = true := by
        simp [Descriptor.isReady, hid, Descriptor.ensureComplete_eq_ok_iff.mp hensure]
      obtain ⟨_, version, message, file, hid', hversion, hmessage, hfile, hcall⟩ :=
        Descriptor.exists_of_isReady hready
      obtain rfl := Option.some.inj (hid.symm.trans hid')
      let line : LogLine := ⟨.warn, "Upload URL: " ++ uploadUrl p.config.site id⟩
      let t : Session := { s with logs := s.logs ++ [line] }
      have ht : s.Adds t [] "" 0 := Session.Adds.line s line
      cases hdry : p.config.dry with
      | true =>
        have haccepted : p.config.accepts w d = true := by
          simp [PublishConfig.accepts, hready, hdry]
        have hupload : p.upload w d s = .ok true { t with output := t.output ++ d.toYaml } := by
          simp only [upload, hid, hensure, hdry]
          rfl
        rw [Option.filter_some, if_pos haccepted, hupload]
        exact .shown hdry (by simpa using ht.trans (Session.Adds.text t d.toYaml))
      | false =>
        have hupload : p.upload w d s =
            (if w.isFile file then do p.call (.upload id version message file); pure true
              else skip ("Plugin file does not exist: " ++ file) : Action Bool) t := by
          simp only [upload, hid, hensure, hdry, hversion, hmessage, hfile]
          rfl
        have harchive : p.config.accepts w d = w.isFile file := by
          simp [PublishConfig.accepts, hready, hdry, Descriptor.hasArchive, hfile]
        rw [Option.filter_some, harchive, hupload]
        split
        · exact .called hdry hcall ht
        · exact skip_settles ht _

theorem uploadFile_settles (path : Path) :
    p.Settles s (p.config.accepted? w path) (p.uploadFile w path s) := by
  unfold uploadFile PublishConfig.accepted? PublishConfig.effective?
  split
  · cases Descriptor.load w path with
    | error f => exact skip_settles (Session.Adds.refl s) _
    | ok d => exact upload_settles _
  · exact skip_settles (Session.Adds.refl s) _

end Publisher
end PluginRelease
