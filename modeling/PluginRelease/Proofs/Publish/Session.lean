import PluginRelease.Proofs.Descriptor.RoundTrip
import PluginRelease.Proofs.Publish.Upload

/-!
The calls of a session: a login where one is due, the uploads of the valid descriptors up to
the first that is refused, and one logout behind them on every way out.
-/
namespace PluginRelease

/-- The failure of a call, given the calls before it. -/
def SiteClient.failure? (client : SiteClient) (before : List SiteCall) (c : SiteCall) :
    Option Failure :=
  match client before c with
  | .ok () => none
  | .error f => some f

/-- The calls that are made of a list when the first that is refused ends it, and its
failure. -/
def SiteClient.sendUntil (client : SiteClient) (before : List SiteCall) :
    List SiteCall → List SiteCall × Option Failure
  | [] => ([], none)
  | c :: cs =>
    match client.failure? before c with
    | some f => ([c], some f)
    | none =>
      let r := client.sendUntil (before ++ [c]) cs
      (c :: r.1, r.2)

theorem SiteClient.sendUntil_singleton (client : SiteClient) (before : List SiteCall)
    (c : SiteCall) : client.sendUntil before [c] = ([c], client.failure? before c) := by
  cases h : client.failure? before c <;> simp [sendUntil, h]

theorem SiteClient.sendUntil_prefix (client : SiteClient) (before cs : List SiteCall) :
    (client.sendUntil before cs).1 <+: cs := by
  induction cs generalizing before with
  | nil => exact List.prefix_rfl
  | cons c cs ih =>
    unfold sendUntil
    split
    · exact ⟨cs, rfl⟩
    · exact List.cons_prefix_cons.mpr ⟨rfl, ih (before ++ [c])⟩

/-- How a step of a session ends: with these calls behind it, and with this failure if any. -/
def EndsWith {α : Type} (r : EStateM.Result Failure Session α) (calls : List SiteCall) :
    Option Failure → Prop
  | none => ∃ a t, r = .ok a t ∧ t.calls = calls
  | some f => ∃ t, r = .error f t ∧ t.calls = calls

namespace EndsWith
variable {α β : Type} {x : Action α} {k : α → Action β} {s : Session}
  {calls later : List SiteCall} {f : Failure} {failure : Option Failure}

theorem bind (hx : EndsWith (x s) calls none)
    (hk : ∀ a t, t.calls = calls → EndsWith (k a t) later failure) :
    EndsWith ((x >>= k) s) later failure := by
  obtain ⟨a, t, hx, ht⟩ := hx
  rw [Publisher.bind_eq hx]
  exact hk a t ht

theorem bind_failed (hx : EndsWith (x s) calls (some f)) :
    EndsWith ((x >>= k) s) calls (some f) := by
  obtain ⟨t, hx, ht⟩ := hx
  refine ⟨t, ?_, ht⟩
  change EStateM.bind x k s = _
  rw [EStateM.bind, hx]

/-- What follows makes no call and does not fail. -/
theorem andThen (hx : EndsWith (x s) calls failure)
    (hk : ∀ a t, t.calls = calls → EndsWith (k a t) calls none) :
    EndsWith ((x >>= k) s) calls failure := by
  cases failure with
  | none => exact hx.bind hk
  | some f => exact hx.bind_failed

end EndsWith

namespace Publisher
variable (p : Publisher) (w : Workspace)

/-- The upload of a descriptor, if it is valid: it has a number, no missing field, and an
archive that exists. -/
def requestOf? (d : Descriptor) : Option SiteCall :=
  match d.numericId?, d.version, d.message, d.file with
  | some id, some version, some message, some file =>
    if d.isComplete && w.isFile (.ofText file) then
      some (.upload id version message (.ofText file))
    else none
  | _, _, _, _ => none

/-- The upload of the descriptor in a file, if it loads and is valid with its gaps filled. -/
def request? (path : Path) : Option SiteCall :=
  if w.isFile path then
    match Descriptor.load w path with
    | .error _ => none
    | .ok d => requestOf? w (d.orDefaults p.config.defaults)
  else none

theorem requestOf?_ne_logout (d : Descriptor) : requestOf? w d ≠ some .logout := by
  unfold requestOf?
  split
  · split <;> simp
  · simp

theorem request?_ne_logout (path : Path) : p.request? w path ≠ some .logout := by
  unfold request?
  split
  · split
    · simp
    · exact requestOf?_ne_logout w _
  · simp

variable {p w} {s : Session}

theorem log_endsWith (level : LogLevel) (text : String) :
    EndsWith (log level text s) s.calls none :=
  ⟨(), _, rfl, rfl⟩

theorem skip_endsWith (text : String) : EndsWith (skip text s) s.calls none :=
  ⟨false, _, rfl, rfl⟩

theorem call_endsWith (c : SiteCall) :
    EndsWith (p.call c s) (s.calls ++ [c]) (p.client.failure? s.calls c) := by
  unfold call SiteClient.failure?
  cases p.client s.calls c with
  | ok u => exact ⟨(), _, rfl, rfl⟩
  | error f => exact ⟨_, rfl, rfl⟩

/-- A valid descriptor is one that a session accepts where it is no dry run. -/
theorem requestOf?_eq_ite (hdry : p.config.dry = false) (d : Descriptor) :
    requestOf? w d = if p.config.accepts w d then d.call? else none := by
  have haccepts : p.config.accepts w d = (d.isReady && d.hasArchive w) := by
    simp [PublishConfig.accepts, hdry]
  rw [haccepts]
  unfold requestOf?
  split
  · next id version message file hid hversion hmessage hfile =>
    have hcall : d.call? = some (.upload id version message (.ofText file)) := by
      simp only [Descriptor.call?, hid, hversion, hmessage, hfile]
    simp [Descriptor.isReady, Descriptor.hasArchive, hid, hfile, hcall]
  · next hgap =>
    have hcall : d.call? = none := by
      unfold Descriptor.call?
      split
      · next id version message file hid hversion hmessage hfile =>
        exact (hgap id version message file hid hversion hmessage hfile).elim
      · rfl
    simp [hcall]

/-- An upload either skips a descriptor without a call, or comes to the call for a valid one. -/
theorem upload_cases (hdry : p.config.dry = false) (d : Descriptor) (s : Session) :
    (requestOf? w d = none ∧ ∃ t, p.upload w d s = .ok false t ∧ t.calls = s.calls) ∨
    ∃ c t, requestOf? w d = some c ∧ t.calls = s.calls ∧
      p.upload w d s = (do p.call c; pure true : Action Bool) t := by
  have hsettled := upload_settles (p := p) (w := w) (s := s) d
  rw [requestOf?_eq_ite hdry]
  rw [Option.filter_some] at hsettled
  generalize p.upload w d s = r at hsettled ⊢
  split at hsettled
  · next haccepted =>
    right
    rw [if_pos haccepted]
    cases hsettled with
    | shown hdry' ht =>
      rw [hdry] at hdry'
      cases hdry'
    | called _ hcall ht => exact ⟨_, _, hcall, ht.calls.trans (List.append_nil _), rfl⟩
  · next hrefused =>
    left
    rw [if_neg hrefused]
    cases hsettled with
    | skipped ht => exact ⟨rfl, _, rfl, ht.calls.trans (List.append_nil _)⟩

/-- An upload makes one call for a valid descriptor, and none for another. -/
theorem upload_endsWith (hdry : p.config.dry = false) (d : Descriptor) :
    EndsWith (p.upload w d s)
      (s.calls ++ (p.client.sendUntil s.calls (requestOf? w d).toList).1)
      (p.client.sendUntil s.calls (requestOf? w d).toList).2 := by
  rcases upload_cases hdry d s with ⟨hnone, t, hupload, ht⟩ | ⟨c, t, hrequest, ht, hupload⟩
  · rw [hnone, hupload]
    exact ⟨false, t, rfl, by simpa [SiteClient.sendUntil] using ht⟩
  · have hcall := @call_endsWith p t c
    rw [hrequest, Option.toList, SiteClient.sendUntil_singleton, hupload, ← ht]
    exact hcall.andThen fun _ r hr => ⟨true, r, rfl, hr⟩

/-- A descriptor file that does not load makes no call either. -/
theorem uploadFile_endsWith (hdry : p.config.dry = false) (path : Path) :
    EndsWith (p.uploadFile w path s)
      (s.calls ++ (p.client.sendUntil s.calls (p.request? w path).toList).1)
      (p.client.sendUntil s.calls (p.request? w path).toList).2 := by
  unfold uploadFile request?
  split
  · cases Descriptor.load w path with
    | error f => simpa [SiteClient.sendUntil] using skip_endsWith _
    | ok d => exact upload_endsWith hdry _
  · simpa [SiteClient.sendUntil] using skip_endsWith _

/-- A batch makes the calls of its descriptors until one is refused. -/
theorem uploadAll_endsWith (hdry : p.config.dry = false) (r : Report) (paths : List Path) :
    EndsWith (p.uploadAll w r paths s)
      (s.calls ++ (p.client.sendUntil s.calls (paths.filterMap (p.request? w))).1)
      (p.client.sendUntil s.calls (paths.filterMap (p.request? w))).2 := by
  induction paths generalizing r s with
  | nil => exact ⟨r, s, rfl, by simp [SiteClient.sendUntil]⟩
  | cons path paths ih =>
    have hfile := @uploadFile_endsWith p w s hdry path
    unfold uploadAll
    cases hrequest : p.request? w path with
    | none =>
      rw [hrequest] at hfile
      rw [List.filterMap_cons_none hrequest]
      refine hfile.bind fun published t ht => ?_
      have hrest := @ih t (r.add published)
      rwa [show t.calls = s.calls by simpa [SiteClient.sendUntil] using ht] at hrest
    | some c =>
      rw [hrequest, Option.toList, SiteClient.sendUntil_singleton] at hfile
      rw [List.filterMap_cons_some hrequest]
      unfold SiteClient.sendUntil
      cases hanswer : p.client.failure? s.calls c with
      | some f =>
        rw [hanswer] at hfile
        exact hfile.bind_failed
      | none =>
        rw [hanswer] at hfile
        refine hfile.bind fun published t ht => ?_
        have hrest := @ih t (r.add published)
        rw [show t.calls = s.calls ++ [c] from ht] at hrest
        simpa using hrest

theorem logout_endsWith (hdry : p.config.dry = false) :
    EndsWith (p.logout s) (s.calls ++ [.logout]) (p.client.failure? s.calls .logout) := by
  have hcall := @call_endsWith p s .logout
  unfold logout
  rw [hdry, if_neg (by decide)]
  exact hcall.andThen fun _ t ht => ⟨(), _, rfl, ht⟩

/-- After a failure there is one logout too, and its own failure is not the one that shows. -/
theorem abandon_endsWith {α : Type} (hdry : p.config.dry = false) (f : Failure) :
    EndsWith (@abandon α p f s) (s.calls ++ [.logout]) (some f) := by
  have hlogout := @logout_endsWith p s hdry
  unfold abandon
  cases hanswer : p.client.failure? s.calls .logout with
  | some g =>
    rw [hanswer] at hlogout
    obtain ⟨t, hrun, ht⟩ := hlogout
    rw [hrun]
    exact ⟨_, rfl, ht⟩
  | none =>
    rw [hanswer] at hlogout
    obtain ⟨a, t, hrun, ht⟩ := hlogout
    rw [hrun]
    exact ⟨t, rfl, ht⟩

/-- The uploads of a session, with a logout behind them if they fail. -/
def uploadsOrAbandon (p : Publisher) (w : Workspace) (paths : List Path) : Action Report := fun s =>
  match p.uploadAll w .empty paths s with
  | .ok r s => .ok r s
  | .error f s => p.abandon f s

/-- What follows the login. -/
def session (p : Publisher) (w : Workspace) (paths : List Path) : Action Report := do
  let report ← p.uploadsOrAbandon w paths
  p.logout
  log .info (toString report.published ++ " published, " ++ toString report.failed ++ " failed")
  pure report

theorem process_eq (paths : List Path) :
    p.process w paths = p.login >>= fun _ => p.session w paths := rfl

theorem session_endsWith (hdry : p.config.dry = false) (paths : List Path) :
    EndsWith (p.session w paths s)
      (s.calls ++ (p.client.sendUntil s.calls (paths.filterMap (p.request? w))).1 ++ [.logout])
      ((p.client.sendUntil s.calls (paths.filterMap (p.request? w))).2.or
        (p.client.failure? (s.calls ++
          (p.client.sendUntil s.calls (paths.filterMap (p.request? w))).1) .logout)) := by
  have huploads := @uploadAll_endsWith p w s hdry .empty paths
  generalize p.client.sendUntil s.calls (paths.filterMap (p.request? w)) = sent at *
  obtain ⟨calls, failure⟩ := sent
  dsimp only at *
  cases failure with
  | some f =>
    obtain ⟨t, hrun, ht⟩ := huploads
    have habandon : EndsWith (p.uploadsOrAbandon w paths s) (s.calls ++ calls ++ [.logout])
        (some f) := by
      unfold uploadsOrAbandon
      rw [hrun, ← ht]
      exact abandon_endsWith hdry f
    exact habandon.bind_failed
  | none =>
    obtain ⟨r, t, hrun, ht⟩ := huploads
    have hdone : EndsWith (p.uploadsOrAbandon w paths s) (s.calls ++ calls) none := by
      unfold uploadsOrAbandon
      rw [hrun]
      exact ⟨r, t, rfl, ht⟩
    refine hdone.bind fun report u hu => ?_
    have hlogout := @logout_endsWith p u hdry
    rw [hu] at hlogout
    refine hlogout.andThen fun _ v hv => ?_
    exact (log_endsWith _ _).bind fun _ x hx => ⟨report, x, rfl, hx.trans hv⟩

/-- How a session opens when it does: with a login, unless it is logged in already. -/
inductive Opens (p : Publisher) (s : Session) : List SiteCall → Prop
  | already (hin : s.loggedIn = true) : Opens p s []
  | login {user password : String} (hout : s.loggedIn = false)
      (hcredentials : p.config.credentials? = some (user, password))
      (hanswer : p.client s.calls (.login user password) = .ok ()) :
      Opens p s [.login user password]

theorem login_loggedIn (hin : s.loggedIn = true) : p.login s = .ok () s := by
  change (if s.loggedIn = true then pure () else _ : Action Unit) s = _
  rw [if_pos hin]
  rfl

theorem login_unknown (hout : s.loggedIn = false) (hcredentials : p.config.credentials? = none) :
    p.login s = .error (.config .missingCredentials) s := by
  change (if s.loggedIn = true then pure () else _ : Action Unit) s = _
  rw [hout, if_neg (by decide), hcredentials]
  rfl

theorem login_eq (hout : s.loggedIn = false) {user password : String}
    (hcredentials : p.config.credentials? = some (user, password)) :
    p.login s = (if p.config.dry then log .warn ("Login: " ++ user ++ ":*********")
      else do p.call (.login user password); setLoggedIn true : Action Unit) s := by
  change (if s.loggedIn = true then pure () else _ : Action Unit) s = _
  rw [hout, if_neg (by decide), hcredentials]

theorem login_endsWith (hdry : p.config.dry = false) {user password : String}
    (hout : s.loggedIn = false) (hcredentials : p.config.credentials? = some (user, password)) :
    EndsWith (p.login s) (s.calls ++ [.login user password])
      (p.client.failure? s.calls (.login user password)) := by
  have hcall := @call_endsWith p s (.login user password)
  rw [login_eq hout hcredentials, hdry, if_neg (by decide)]
  exact hcall.andThen fun _ t ht => ⟨(), _, rfl, ht⟩

theorem Opens.endsWith (hdry : p.config.dry = false) {opening : List SiteCall}
    (hopens : p.Opens s opening) : EndsWith (p.login s) (s.calls ++ opening) none := by
  cases hopens with
  | already hin => exact ⟨(), s, login_loggedIn hin, (List.append_nil _).symm⟩
  | @login user password hout hcredentials hanswer =>
    have hlogin := @login_endsWith p s hdry user password hout hcredentials
    rwa [SiteClient.failure?, hanswer] at hlogin

theorem Opens.ne_logout {opening : List SiteCall} (hopens : p.Opens s opening) :
    .logout ∉ opening := by
  cases hopens <;> simp

theorem logout_not_mem_sent (before : List SiteCall) (paths : List Path) :
    .logout ∉ (p.client.sendUntil before (paths.filterMap (p.request? w))).1 := by
  intro hsent
  obtain ⟨path, -, hpath⟩ := List.mem_filterMap.mp
    ((p.client.sendUntil_prefix before (paths.filterMap (p.request? w))).subset hsent)
  exact p.request?_ne_logout w path hpath

/-- The calls of a session that is no dry run, and its result. Without credentials nothing is
called, and a refused login is the only call. Otherwise a login is made where one is due, then
the uploads of the valid descriptors until one is refused, and at the end the only logout. The
failure of an upload shows before that of the logout. -/
theorem process_calls (p : Publisher) (w : Workspace) (s : Session) (paths : List Path)
    (hdry : p.config.dry = false) :
    (s.loggedIn = false → p.config.credentials? = none →
      EndsWith (p.process w paths s) s.calls (some (.config .missingCredentials))) ∧
    (∀ user password f, s.loggedIn = false →
      p.config.credentials? = some (user, password) →
      p.client s.calls (.login user password) = .error f →
        EndsWith (p.process w paths s) (s.calls ++ [.login user password]) (some f)) ∧
    ∀ opening, p.Opens s opening →
      let sent := p.client.sendUntil (s.calls ++ opening) (paths.filterMap (p.request? w))
      .logout ∉ opening ++ sent.1 ∧
        EndsWith (p.process w paths s) (s.calls ++ opening ++ sent.1 ++ [.logout])
          (sent.2.or (p.client.failure? (s.calls ++ opening ++ sent.1) .logout)) := by
  rw [process_eq]
  refine ⟨fun hout hcredentials => ?_, fun user password f hout hcredentials hanswer => ?_,
    fun opening hopens => ⟨?_, ?_⟩⟩
  · have hlogin : EndsWith (p.login s) s.calls (some (.config .missingCredentials)) :=
      ⟨s, login_unknown hout hcredentials, rfl⟩
    exact hlogin.bind_failed
  · have hlogin := @login_endsWith p s hdry user password hout hcredentials
    rw [SiteClient.failure?, hanswer] at hlogin
    exact hlogin.bind_failed
  · rw [List.mem_append, not_or]
    exact ⟨hopens.ne_logout, logout_not_mem_sent _ paths⟩
  · refine (hopens.endsWith hdry).bind fun _ t ht => ?_
    have hsession := @session_endsWith p w t hdry paths
    rwa [ht] at hsession

/-- A refused upload of a valid descriptor. -/
theorem process_calls_of_refused_upload :
    let d : Descriptor := ⟨some "11", some "1.05", some "Fix", some "a.vba"⟩
    let w : Workspace := ⟨[([Utf8.ofText "a.yml"], .file (Utf8.encode d.toYaml.toList)),
      ([Utf8.ofText "a.vba"], .file [])], []⟩
    let p : Publisher :=
      ⟨{ PublishConfig.default with username := some "tom", password := some "secret" },
        fun _ c => match c with
          | .upload _ _ _ _ => .error (.ofText "connection reset")
          | _ => .ok ()⟩
    EndsWith (p.process w ["b.yml", "a.yml", "a.yml"] Session.start)
      [.login "tom" "secret", .upload 11 "1.05" "Fix" "a.vba", .logout]
      (some (.ofText "connection reset")) := by
  intro d w p
  have hload : Descriptor.load w "a.yml" = .ok d := Descriptor.load_of_page rfl rfl
  have hmissing : p.request? w "b.yml" = none := rfl
  have hrequest : p.request? w "a.yml" = some (.upload 11 "1.05" "Fix" "a.vba") := by
    have hfile : w.isFile "a.yml" = true := rfl
    unfold request?
    rw [hload, if_pos hfile]
    rfl
  obtain ⟨-, -, hcalls⟩ := process_calls p w Session.start ["b.yml", "a.yml", "a.yml"] rfl
  obtain ⟨-, hends⟩ := hcalls [.login "tom" "secret"] (.login rfl rfl rfl)
  simpa [hmissing, hrequest, SiteClient.sendUntil, SiteClient.failure?, Session.start, p]
    using hends

end Publisher
end PluginRelease
