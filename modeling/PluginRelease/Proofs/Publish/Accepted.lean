import PluginRelease.Proofs.Publish.Batch

/-!
Sessions with a site that refuses nothing. Each goes through, so a batch makes the calls of all its
valid descriptors and reports how many there were.
-/
namespace PluginRelease

/-- The site refuses no call. -/
def SiteClient.Accepts (client : SiteClient) : Prop := ∀ before c, client before c = .ok ()

/-- A step of a session gives this value, with these calls behind it. -/
def Yields {α : Type} (r : EStateM.Result Failure Session α) (a : α) (calls : List SiteCall) :
    Prop :=
  ∃ t, r = .ok a t ∧ t.calls = calls

namespace Publisher
variable {p : Publisher} {w : Workspace} {s : Session}

/-- A file comes to an upload if its descriptor is accepted. -/
theorem request?_eq_bind (hdry : p.config.dry = false) (path : Path) :
    p.request? w path = (p.config.accepted? w path).bind Descriptor.call? := by
  unfold request? PublishConfig.accepted? PublishConfig.effective?
  split
  · cases Descriptor.load w path with
    | error f => rfl
    | ok d =>
      dsimp only
      rw [requestOf?_eq_ite hdry, Option.filter_some]
      split <;> rfl
  · rfl

theorem sends_accepted (hdry : p.config.dry = false) (paths : List Path) :
    p.config.sends (p.config.accepted w paths) = paths.filterMap (p.request? w) := by
  rw [PublishConfig.sends_real hdry, PublishConfig.accepted, List.filterMap_filterMap]
  congr 1
  funext path
  rw [request?_eq_bind hdry]

theorem isSome_request? (hdry : p.config.dry = false) (path : Path) :
    (p.request? w path).isSome = (p.config.accepted? w path).isSome := by
  rw [request?_eq_bind hdry]
  cases haccepted : p.config.accepted? w path with
  | none => rfl
  | some d =>
    have hready : d.isReady = true := by
      have haccepts := (Option.filter_eq_some_iff.mp haccepted).2
      exact (Bool.and_eq_true_iff.mp haccepts).1
    obtain ⟨_, _, _, _, -, -, -, -, hcall⟩ := Descriptor.exists_of_isReady hready
    rw [Option.bind_some, hcall]
    rfl

/-- What a batch reports: a descriptor counts as published if it comes to an upload. -/
def reportOf (p : Publisher) (w : Workspace) (r : Report) (paths : List Path) : Report :=
  paths.foldl (fun r path => r.add (p.request? w path).isSome) r

theorem reportOf_eq_add (hdry : p.config.dry = false) (r : Report) (paths : List Path) :
    p.reportOf w r paths = r + p.config.reportOf w paths := by
  induction paths generalizing r with
  | nil => rfl
  | cons path paths ih =>
    have hrest := ih (r.add (p.request? w path).isSome)
    rw [isSome_request? hdry, Report.add_single, Report.add_assoc,
      ← PublishConfig.reportOf_cons, ← Report.add_single, ← isSome_request? hdry] at hrest
    exact hrest

/-- A session that is no dry run uploads what it accepts, and prints nothing. -/
theorem exists_process_real (hdry : p.config.dry = false) (hclient : p.client.Accepts)
    {user password : String} (hout : s.loggedIn = false)
    (hcredentials : p.config.credentials? = some (user, password)) (paths : List Path) :
    ∃ t, p.process w paths s = .ok (p.config.reportOf w paths) t ∧
      t.calls = s.calls ++ ([.login user password] ++
        (p.config.accepted w paths).filterMap Descriptor.call? ++ [.logout]) ∧
      t.output = s.output := by
  obtain ⟨r, t, hprocess⟩ := exists_process (w := w) paths hout hcredentials
    fun call _ before => hclient before call
  obtain ⟨rfl, ht, -⟩ := process_adds hout hcredentials hprocess
  refine ⟨t, hprocess, ?_, ?_⟩
  · rw [ht.calls, PublishConfig.script_real hdry]
  · rw [ht.output, PublishConfig.shows_real hdry, String.append_empty]

/-- A session from the login to the logout, with the uploads of the valid descriptors between. -/
theorem process_yields (hdry : p.config.dry = false) (hclient : p.client.Accepts)
    {user password : String} (hout : s.loggedIn = false)
    (hcredentials : p.config.credentials? = some (user, password)) (paths : List Path) :
    Yields (p.process w paths s) (p.reportOf w .empty paths)
      (s.calls ++ [.login user password] ++ paths.filterMap (p.request? w) ++ [.logout]) := by
  obtain ⟨t, hprocess, hcalls, -⟩ :=
    exists_process_real (w := w) hdry hclient hout hcredentials paths
  refine ⟨t, ?_, ?_⟩
  · rw [reportOf_eq_add hdry, Report.empty_add]
    exact hprocess
  · rw [hcalls, ← PublishConfig.sends_real hdry, sends_accepted hdry, List.append_assoc,
      List.append_assoc, List.append_assoc]

end Publisher
end PluginRelease
