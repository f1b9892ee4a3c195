import PluginRelease.Proofs.Publish.Session

/-!
Sessions that go through. From a session in which nobody is logged in, a batch adds the calls, the
printed text and the errors of its descriptors one after the other, and reports one by one whether
they are accepted.
-/
namespace PluginRelease

theorem Session.Adds.relabel {s t : Session} {calls : List SiteCall} {output : String} {n : Nat}
    (h : s.Adds t calls output n) (b : Bool) :
    { s with loggedIn := b }.Adds { t with loggedIn := b } calls output n :=
  ⟨rfl, h.calls, h.output, h.errorCount⟩

namespace Report

/-- Reports on two batches in one. -/
instance : Add Report := ⟨fun r q => ⟨r.published + q.published, r.failed + q.failed⟩⟩

theorem add_eq (r q : Report) : r + q = ⟨r.published + q.published, r.failed + q.failed⟩ := rfl

theorem add_assoc (r q k : Report) : r + q + k = r + (q + k) := by
  simp [add_eq, Nat.add_assoc]

theorem empty_add (r : Report) : empty + r = r := by
  simp [add_eq, empty]

@[simp] theorem add_empty (r : Report) : r + empty = r := rfl

/-- The report on one descriptor. -/
def single (published : Bool) : Report := if published then ⟨1, 0⟩ else ⟨0, 1⟩

theorem add_single (r : Report) (b : Bool) : r.add b = r + single b := by
  cases b <;> rfl

end Report

namespace PublishConfig

/-- The entries of a report on the descriptors in some files. -/
def reportOf (c : PublishConfig) (w : Workspace) (paths : List Path) : Report where
  published := paths.countP fun path => (c.accepted? w path).isSome
  failed := paths.countP fun path => (c.accepted? w path).isNone

/-- The descriptors in some files that count as published. -/
def accepted (c : PublishConfig) (w : Workspace) (paths : List Path) : List Descriptor :=
  paths.filterMap (c.accepted? w)

def opening (c : PublishConfig) (user password : String) : List SiteCall :=
  if c.dry then [] else [.login user password]

def closing (c : PublishConfig) : List SiteCall := if c.dry then [] else [.logout]

/-- The calls of a session in which these descriptors are accepted. -/
def script (c : PublishConfig) (user password : String) (ds : List Descriptor) : List SiteCall :=
  c.opening user password ++ c.sends ds ++ c.closing

variable {c : PublishConfig} {w : Workspace}

theorem opening_dry (h : c.dry = true) (user password : String) :
    c.opening user password = [] := if_pos h

theorem opening_real (h : c.dry = false) (user password : String) :
    c.opening user password = [.login user password] := by
  rw [opening, h, if_neg (by decide)]

theorem closing_dry (h : c.dry = true) : c.closing = [] := if_pos h

theorem closing_real (h : c.dry = false) : c.closing = [.logout] := by
  rw [closing, h, if_neg (by decide)]

theorem script_dry (h : c.dry = true) (user password : String) (ds : List Descriptor) :
    c.script user password ds = [] := by
  rw [script, opening_dry h, sends_dry h, closing_dry h]
  rfl

theorem script_real (h : c.dry = false) (user password : String) (ds : List Descriptor) :
    c.script user password ds =
      [.login user password] ++ ds.filterMap Descriptor.call? ++ [.logout] := by
  rw [script, opening_real h, sends_real h, closing_real h]

@[simp] theorem accepted_nil : c.accepted w [] = [] := rfl

theorem accepted_append (ps qs : List Path) :
    c.accepted w (ps ++ qs) = c.accepted w ps ++ c.accepted w qs := List.filterMap_append

theorem accepted_cons (path : Path) (paths : List Path) :
    c.accepted w (path :: paths) = (c.accepted? w path).toList ++ c.accepted w paths := by
  cases h : c.accepted? w path <;> simp [accepted, h]

@[simp] theorem reportOf_nil : c.reportOf w [] = .empty := rfl

theorem reportOf_append (ps qs : List Path) :
    c.reportOf w (ps ++ qs) = c.reportOf w ps + c.reportOf w qs := by
  simp [reportOf, Report.add_eq]

theorem reportOf_cons (path : Path) (paths : List Path) : c.reportOf w (path :: paths) =
    Report.single (c.accepted? w path).isSome + c.reportOf w paths := by
  cases h : c.accepted? w path <;>
    simp [reportOf, h, Report.single, Report.add_eq, Nat.add_comm]

end PublishConfig

namespace Publisher

variable {p : Publisher} {w : Workspace} {s t : Session}

theorem call_eq_ok_iff {c : SiteCall} : p.call c s = .ok () t ↔
    p.client s.calls c = .ok () ∧ t = { s with calls := s.calls ++ [c] } := by
  unfold call
  cases p.client s.calls c with
  | ok u => simp [eq_comm]
  | error f => simp

/-! ## The descriptors -/

/-- What is added where a descriptor is settled without a failure, and the calls that were
answered. -/
theorem Settles.adds {o : Option Descriptor} {b : Bool} (h : p.Settles s o (.ok b t)) :
    b = o.isSome ∧
    s.Adds t (p.config.sends o.toList) (p.config.shows o.toList)
      (Report.single o.isSome).failed ∧
    ∀ c ∈ p.config.sends o.toList, ∃ before, p.client before c = .ok () := by
  generalize hr : EStateM.Result.ok b t = r at h
  cases h with
  | skipped ht =>
    obtain ⟨rfl, rfl⟩ := EStateM.Result.ok.inj hr
    exact ⟨rfl, by simpa [Report.single] using ht, by simp⟩
  | @shown d u hdry ht =>
    obtain ⟨rfl, rfl⟩ := EStateM.Result.ok.inj hr
    have hshows : p.config.shows [d] = d.toYaml := by
      rw [PublishConfig.shows_dry hdry]
      simp
    rw [Option.toList_some, PublishConfig.sends_dry hdry, hshows]
    exact ⟨rfl, ht, by simp⟩
  | @called d c u hdry hcall hu =>
    rw [Option.toList_some, PublishConfig.sends_real hdry, List.filterMap_cons_some hcall,
      PublishConfig.shows_real hdry]
    obtain ⟨_, v, hv, hpure⟩ := exists_of_bind hr.symm
    obtain ⟨hanswer, rfl⟩ := call_eq_ok_iff.mp hv
    obtain ⟨rfl, rfl⟩ := EStateM.Result.ok.inj hpure
    exact ⟨rfl, hu.trans (Session.Adds.made u [c]),
      List.forall_mem_singleton.mpr ⟨u.calls, hanswer⟩⟩

/-- A descriptor is settled without a failure where its call is answered. -/
theorem Settles.exists_ok {o : Option Descriptor} {r : EStateM.Result Failure Session Bool}
    (h : p.Settles s o r)
    (hclient : ∀ c ∈ p.config.sends o.toList, ∀ before, p.client before c = .ok ()) :
    ∃ b t, r = .ok b t := by
  cases h with
  | skipped ht => exact ⟨_, _, rfl⟩
  | shown hdry ht => exact ⟨_, _, rfl⟩
  | @called d c u hdry hcall hu =>
    rw [Option.toList_some, PublishConfig.sends_real hdry, List.filterMap_cons_some hcall] at hclient
    have hv := call_eq_ok_iff.mpr ⟨hclient c List.mem_cons_self u.calls, rfl⟩
    exact ⟨true, _, bind_eq hv⟩

/-- A batch without a failure settles its descriptors in their order. -/
theorem uploadAll_adds {paths : List Path} {r q : Report}
    (h : p.uploadAll w r paths s = .ok q t) :
    q = r + p.config.reportOf w paths ∧
    s.Adds t (p.config.sends (p.config.accepted w paths))
      (p.config.shows (p.config.accepted w paths)) (p.config.reportOf w paths).failed ∧
    ∀ c ∈ p.config.sends (p.config.accepted w paths), ∃ before, p.client before c = .ok () := by
  induction paths generalizing r s with
  | nil =>
    obtain ⟨rfl, rfl⟩ := EStateM.Result.ok.inj h
    exact ⟨by simp, by simpa [Report.empty] using Session.Adds.refl s, by simp⟩
  | cons path paths ih =>
    unfold uploadAll at h
    obtain ⟨b, u, hfile, hrest⟩ := exists_of_bind h
    have hsettled : p.Settles s (p.config.accepted? w path) (.ok b u) := by
      rw [← hfile]
      exact uploadFile_settles path
    obtain ⟨rfl, hu, hanswered⟩ := hsettled.adds
    obtain ⟨rfl, ht, hlater⟩ := ih hrest
    rw [PublishConfig.accepted_cons, PublishConfig.reportOf_cons, PublishConfig.sends_append,
      PublishConfig.shows_append]
    refine ⟨?_, hu.trans ht, ?_⟩
    · rw [Report.add_single, Report.add_assoc]
    · rw [List.forall_mem_append]
      exact ⟨hanswered, hlater⟩

theorem exists_uploadAll {paths : List Path} (r : Report)
    (hclient : ∀ c ∈ p.config.sends (p.config.accepted w paths),
      ∀ before, p.client before c = .ok ()) : ∃ q t, p.uploadAll w r paths s = .ok q t := by
  induction paths generalizing r s with
  | nil => exact ⟨r, s, rfl⟩
  | cons path paths ih =>
    rw [PublishConfig.accepted_cons, PublishConfig.sends_append, List.forall_mem_append] at hclient
    have hsettled := uploadFile_settles (p := p) (w := w) (s := s) path
    obtain ⟨b, u, hfile⟩ := hsettled.exists_ok hclient.1
    obtain ⟨q, t, hrest⟩ := ih (s := u) (r.add b) hclient.2
    exact ⟨q, t, (bind_eq hfile).trans hrest⟩

/-! ## The session around them -/

theorem exists_credentials (hout : s.loggedIn = false) (h : p.login s = .ok () t) :
    ∃ user password, p.config.credentials? = some (user, password) := by
  cases hcredentials : p.config.credentials? with
  | none =>
    rw [login_unknown hout hcredentials] at h
    cases h
  | some pair => exact ⟨pair.1, pair.2, rfl⟩

theorem login_adds (hout : s.loggedIn = false) {user password : String}
    (hcredentials : p.config.credentials? = some (user, password)) (h : p.login s = .ok () t) :
    { s with loggedIn := !p.config.dry }.Adds t (p.config.opening user password) "" 0 ∧
      ∀ c ∈ p.config.opening user password, ∃ before, p.client before c = .ok () := by
  rw [login_eq hout hcredentials] at h
  cases hdry : p.config.dry with
  | true =>
    rw [hdry, if_pos rfl] at h
    obtain ⟨-, rfl⟩ := EStateM.Result.ok.inj h
    have hline := Session.Adds.line s ⟨.warn, "Login: " ++ user ++ ":*********"⟩
    rw [PublishConfig.opening_dry hdry]
    exact ⟨⟨hout, hline.calls, hline.output, hline.errorCount⟩, by simp⟩
  | false =>
    rw [hdry, if_neg (by decide)] at h
    obtain ⟨_, u, hcall, hset⟩ := exists_of_bind h
    obtain ⟨hanswer, rfl⟩ := call_eq_ok_iff.mp hcall
    obtain ⟨-, rfl⟩ := EStateM.Result.ok.inj hset
    rw [PublishConfig.opening_real hdry]
    exact ⟨Session.Adds.made { s with loggedIn := true } [.login user password],
      List.forall_mem_singleton.mpr ⟨s.calls, hanswer⟩⟩

theorem exists_login (hout : s.loggedIn = false) {user password : String}
    (hcredentials : p.config.credentials? = some (user, password))
    (hclient : ∀ c ∈ p.config.opening user password, ∀ before, p.client before c = .ok ()) :
    ∃ t, p.login s = .ok () t := by
  rw [login_eq hout hcredentials]
  cases hdry : p.config.dry with
  | true => exact ⟨_, rfl⟩
  | false =>
    rw [PublishConfig.opening_real hdry, List.forall_mem_singleton] at hclient
    exact ⟨_, bind_eq (call_eq_ok_iff.mpr ⟨hclient s.calls, rfl⟩)⟩

theorem logout_adds (h : p.logout s = .ok () t) :
    { s with loggedIn := false }.Adds t p.config.closing "" 0 ∧
      ∀ c ∈ p.config.closing, ∃ before, p.client before c = .ok () := by
  unfold logout at h
  cases hdry : p.config.dry with
  | true =>
    rw [hdry, if_pos rfl] at h
    obtain ⟨-, rfl⟩ := EStateM.Result.ok.inj h
    rw [PublishConfig.closing_dry hdry]
    exact ⟨(Session.Adds.line s ⟨.warn, "Log out"⟩).relabel false, by simp⟩
  | false =>
    rw [hdry, if_neg (by decide)] at h
    obtain ⟨_, u, hcall, hset⟩ := exists_of_bind h
    obtain ⟨hanswer, rfl⟩ := call_eq_ok_iff.mp hcall
    obtain ⟨-, rfl⟩ := EStateM.Result.ok.inj hset
    rw [PublishConfig.closing_real hdry]
    exact ⟨(Session.Adds.made s [.logout]).relabel false,
      List.forall_mem_singleton.mpr ⟨s.calls, hanswer⟩⟩

theorem exists_logout (hclient : ∀ c ∈ p.config.closing, ∀ before, p.client before c = .ok ()) :
    ∃ t, p.logout s = .ok () t := by
  unfold logout
  cases hdry : p.config.dry with
  | true => exact ⟨_, rfl⟩
  | false =>
    rw [PublishConfig.closing_real hdry, List.forall_mem_singleton] at hclient
    exact ⟨_, bind_eq (call_eq_ok_iff.mpr ⟨hclient s.calls, rfl⟩)⟩

theorem uploadsOrAbandon_eq_ok_iff {paths : List Path} {r : Report} :
    p.uploadsOrAbandon w paths s = .ok r t ↔ p.uploadAll w .empty paths s = .ok r t := by
  unfold uploadsOrAbandon
  cases huploads : p.uploadAll w .empty paths s with
  | ok q u => exact Iff.rfl
  | error f u =>
    unfold abandon
    dsimp only
    split <;> simp

theorem exists_credentials_of_process {paths : List Path} {r : Report}
    (hout : s.loggedIn = false) (h : p.process w paths s = .ok r t) :
    ∃ user password, p.config.credentials? = some (user, password) := by
  rw [process_eq] at h
  obtain ⟨_, u, hlogin, -⟩ := exists_of_bind h
  exact exists_credentials hout hlogin

/-- A session that goes through, from login to logout. -/
theorem process_adds {paths : List Path} {r : Report} (hout : s.loggedIn = false)
    {user password : String} (hcredentials : p.config.credentials? = some (user, password))
    (h : p.process w paths s = .ok r t) :
    r = p.config.reportOf w paths ∧
    s.Adds t (p.config.script user password (p.config.accepted w paths))
      (p.config.shows (p.config.accepted w paths)) r.failed ∧
    ∀ c ∈ p.config.script user password (p.config.accepted w paths),
      ∃ before, p.client before c = .ok () := by
  rw [process_eq] at h
  obtain ⟨_, u, hlogin, hsession⟩ := exists_of_bind h
  obtain ⟨q, v, huploads, hrest⟩ := exists_of_bind hsession
  obtain ⟨_, x, hlogout, hlog⟩ := exists_of_bind hrest
  obtain ⟨_, y, hline, hpure⟩ := exists_of_bind hlog
  obtain ⟨-, rfl⟩ := EStateM.Result.ok.inj hline
  obtain ⟨rfl, rfl⟩ := EStateM.Result.ok.inj hpure
  obtain ⟨hu, hopened⟩ := login_adds hout hcredentials hlogin
  obtain ⟨rfl, hv, hanswered⟩ := uploadAll_adds (uploadsOrAbandon_eq_ok_iff.mp huploads)
  obtain ⟨hx, hclosed⟩ := logout_adds hlogout
  rw [Report.empty_add] at *
  -- The parts agree on everything but the flag, which the logout puts back to where it was.
  have hstart : { s with loggedIn := false } = s := by rw [← hout]
  have hx' := (((hu.relabel false).trans (hv.relabel false)).trans hx).trans
    (Session.Adds.line x ⟨.info, toString (p.config.reportOf w paths).published ++ " published, " ++
      toString (p.config.reportOf w paths).failed ++ " failed"⟩)
  refine ⟨rfl, ?_, ?_⟩
  · simpa [hstart, PublishConfig.script] using hx'
  · unfold PublishConfig.script
    rw [List.forall_mem_append, List.forall_mem_append]
    exact ⟨⟨hopened, hanswered⟩, hclosed⟩

/-- A session goes through where its calls are answered. -/
theorem exists_process (paths : List Path) (hout : s.loggedIn = false) {user password : String}
    (hcredentials : p.config.credentials? = some (user, password))
    (hclient : ∀ c ∈ p.config.script user password (p.config.accepted w paths),
      ∀ before, p.client before c = .ok ()) : ∃ r t, p.process w paths s = .ok r t := by
  unfold PublishConfig.script at hclient
  rw [List.forall_mem_append, List.forall_mem_append] at hclient
  obtain ⟨⟨hopening, hsends⟩, hclosing⟩ := hclient
  obtain ⟨u, hlogin⟩ := exists_login hout hcredentials hopening
  obtain ⟨r, v, huploads⟩ := exists_uploadAll (s := u) .empty hsends
  obtain ⟨x, hlogout⟩ := exists_logout (s := v) hclosing
  have hsession : p.session w paths u = _ :=
    (bind_eq (uploadsOrAbandon_eq_ok_iff.mpr huploads)).trans (bind_eq hlogout)
  rw [process_eq]
  exact ⟨r, _, (bind_eq hlogin).trans hsession⟩

end Publisher
end PluginRelease
