import PluginRelease.Proofs.Descriptor.RoundTrip
import PluginRelease.Proofs.Publish.Batch

/-!
The account of a batch. On a site whose answers do not depend on what it was asked before, each
entry is settled on its own: the report is a sum over the entries, whatever their order.
-/
namespace PluginRelease

/-- The answer to a call does not depend on the calls before it. -/
def SiteClient.Memoryless (client : SiteClient) : Prop :=
  ∀ before after c, client before c = client after c

def SiteCall.isUpload : SiteCall → Bool
  | .upload _ _ _ _ => true
  | _ => false

def Session.uploads (s : Session) : List SiteCall := s.calls.filter SiteCall.isUpload

namespace PublishConfig
variable {c : PublishConfig} {v w : Workspace} {path : Path} {paths others : List Path}

/-- Two workspaces agree on the file of a descriptor and on the archive that it names. -/
structure SameFiles (c : PublishConfig) (v w : Workspace) (path : Path) : Prop where
  isFile : v.isFile path = w.isFile path
  text : v.readText path = w.readText path
  archive : ∀ d file, c.effective? v path = some d → d.file = some file →
    v.isFile (.ofText file) = w.isFile (.ofText file)

theorem SameFiles.effective?_eq (h : c.SameFiles v w path) :
    c.effective? v path = c.effective? w path := by
  have hload : Descriptor.load v path = Descriptor.load w path := by
    unfold Descriptor.load
    rw [h.text]
  unfold effective?
  rw [h.isFile, hload]

theorem SameFiles.accepted?_eq (h : c.SameFiles v w path) :
    c.accepted? v path = c.accepted? w path := by
  unfold accepted?
  rw [← h.effective?_eq]
  cases hd : c.effective? v path with
  | none => rfl
  | some d =>
    have harchive : d.hasArchive v = d.hasArchive w := by
      unfold Descriptor.hasArchive
      cases hfile : d.file with
      | none => rfl
      | some file => exact h.archive d file hd hfile
    simp [Option.filter_some, accepts, harchive]

theorem length_reportOf (c : PublishConfig) (w : Workspace) (paths : List Path) :
    (c.reportOf w paths).published + (c.reportOf w paths).failed = paths.length := by
  have hfailed : (fun path => (c.accepted? w path).isNone) =
      fun path => decide ¬(c.accepted? w path).isSome = true := by
    funext path
    cases c.accepted? w path <;> rfl
  unfold reportOf
  rw [hfailed]
  exact (List.length_eq_countP_add_countP _).symm

theorem reportOf_perm (h : others.Perm paths) : c.reportOf w others = c.reportOf w paths := by
  unfold reportOf
  rw [h.countP_eq, h.countP_eq]

theorem sends_subset {ds es : List Descriptor} (h : ds ⊆ es) : c.sends ds ⊆ c.sends es := by
  unfold sends
  split
  · exact List.Subset.refl _
  · exact List.filterMap_subset _ h

/-- Fewer entries make no new call. -/
theorem script_subset (h : others ⊆ paths) (user password : String) :
    c.script user password (c.accepted w others) ⊆ c.script user password (c.accepted w paths) := by
  have hsends := sends_subset (c := c) (List.filterMap_subset (c.accepted? w) h)
  intro call hcall
  simp only [script, List.mem_append] at hcall ⊢
  rcases hcall with (hopening | hsent) | hclosing
  · exact .inl (.inl hopening)
  · exact .inl (.inr (hsends hsent))
  · exact .inr hclosing

theorem mem_script_append {user password : String} {ds es : List Descriptor} {call : SiteCall} :
    call ∈ c.script user password (ds ++ es) ↔
      call ∈ c.script user password ds ∨ call ∈ c.script user password es := by
  simp only [script, sends_append, List.mem_append]
  grind

theorem isUpload_of_mem_sends {ds : List Descriptor} {call : SiteCall} (h : call ∈ c.sends ds) :
    call.isUpload = true := by
  unfold sends at h
  split at h
  · cases h
  · obtain ⟨d, -, hd⟩ := List.mem_filterMap.mp h
    obtain ⟨id, version, message, file, rfl⟩ := Descriptor.eq_upload_of_call hd
    rfl

/-- The uploads of a session are what it sends. -/
theorem uploads_script (user password : String) (ds : List Descriptor) :
    (c.script user password ds).filter SiteCall.isUpload = c.sends ds := by
  have hopening : (c.opening user password).filter SiteCall.isUpload = [] := by
    unfold opening
    split <;> rfl
  have hclosing : c.closing.filter SiteCall.isUpload = [] := by
    unfold closing
    split <;> rfl
  have hsends : (c.sends ds).filter SiteCall.isUpload = c.sends ds := by
    rw [List.filter_eq_self]
    intro call hcall
    exact isUpload_of_mem_sends hcall
  rw [script, List.filter_append, List.filter_append, hopening, hsends, hclosing,
    List.nil_append, List.append_nil]

end PublishConfig

namespace Publisher
variable {p : Publisher} {w : Workspace} {paths others : List Path} {r : Report} {t : Session}

/-- A session from its start has a report, uploads and output that are read off its entries. -/
theorem process_reports (h : p.process w paths .start = .ok r t) :
    r = p.config.reportOf w paths ∧ t.errorCount = r.failed ∧
      t.uploads = p.config.sends (p.config.accepted w paths) ∧
      t.output = p.config.shows (p.config.accepted w paths) := by
  obtain ⟨user, password, hcredentials⟩ := exists_credentials_of_process rfl h
  obtain ⟨rfl, ht, -⟩ := process_adds rfl hcredentials h
  refine ⟨rfl, ?_, ?_, ?_⟩
  · simpa [Session.errorCount, Session.start] using ht.errorCount
  · rw [Session.uploads, ht.calls]
    exact PublishConfig.uploads_script user password _
  · rw [ht.output]
    exact String.empty_append

/-- What two sessions report, upload and show adds up to that of both in one. -/
theorem process_append {before after : List Path} {q k : Report} {x y : Session}
    (h : p.process w (before ++ after) .start = .ok r t)
    (hbefore : p.process w before .start = .ok q x) (hafter : p.process w after .start = .ok k y) :
    r = q + k ∧ t.uploads = x.uploads ++ y.uploads ∧ t.output = x.output ++ y.output := by
  obtain ⟨rfl, -, ht, ht'⟩ := process_reports h
  obtain ⟨rfl, -, hx, hx'⟩ := process_reports hbefore
  obtain ⟨rfl, -, hy, hy'⟩ := process_reports hafter
  refine ⟨PublishConfig.reportOf_append before after, ?_, ?_⟩
  · rw [ht, hx, hy, PublishConfig.accepted_append, PublishConfig.sends_append]
  · rw [ht', hx', hy', PublishConfig.accepted_append, PublishConfig.shows_append]

/-- A session goes through where each of its calls was answered once. -/
theorem exists_process_of_answered (hclient : p.client.Memoryless) {user password : String}
    (hcredentials : p.config.credentials? = some (user, password))
    (hanswered : ∀ call ∈ p.config.script user password (p.config.accepted w others),
      ∃ before, p.client before call = .ok ()) :
    ∃ u, p.process w others .start = .ok (p.config.reportOf w others) u := by
  have hclient' : ∀ call ∈ p.config.script user password (p.config.accepted w others),
      ∀ before, p.client before call = .ok () := by
    intro call hcall before
    obtain ⟨earlier, hanswer⟩ := hanswered call hcall
    exact (hclient before earlier call).trans hanswer
  obtain ⟨q, u, hprocess⟩ := exists_process (s := .start) others rfl hcredentials hclient'
  obtain ⟨rfl, -⟩ := process_reports hprocess
  exact ⟨u, hprocess⟩

/-- A session with fewer entries goes through as well. -/
theorem exists_process_of_subset (hclient : p.client.Memoryless)
    (h : p.process w paths .start = .ok r t) (hsubset : others ⊆ paths) :
    ∃ u, p.process w others .start = .ok (p.config.reportOf w others) u := by
  obtain ⟨user, password, hcredentials⟩ := exists_credentials_of_process rfl h
  obtain ⟨-, -, hanswered⟩ := process_adds rfl hcredentials h
  refine exists_process_of_answered hclient hcredentials fun call hcall => ?_
  exact hanswered call (PublishConfig.script_subset hsubset user password hcall)

/-- Two sessions that go through do so in one. -/
theorem exists_process_append (hclient : p.client.Memoryless) {q : Report} {x : Session}
    (h : p.process w paths .start = .ok r t) (hothers : p.process w others .start = .ok q x) :
    ∃ u, p.process w (paths ++ others) .start = .ok (p.config.reportOf w (paths ++ others)) u := by
  obtain ⟨user, password, hcredentials⟩ := exists_credentials_of_process rfl h
  obtain ⟨-, -, hanswered⟩ := process_adds rfl hcredentials h
  obtain ⟨-, -, hanswered'⟩ := process_adds rfl hcredentials hothers
  refine exists_process_of_answered hclient hcredentials fun call hcall => ?_
  rw [PublishConfig.accepted_append, PublishConfig.mem_script_append] at hcall
  rcases hcall with hcall | hcall
  · exact hanswered call hcall
  · exact hanswered' call hcall

/-- What a file counts for is a matter of the options and of the files that it names. -/
theorem uploadFile_eq_isSome {v : Workspace} {path : Path} {s u : Session} {b : Bool}
    (hsame : p.config.SameFiles w v path) (h : p.uploadFile v path s = .ok b u) :
    b = (p.config.accepted? w path).isSome := by
  have hsettled := uploadFile_settles (p := p) (w := v) (s := s) path
  rw [h] at hsettled
  obtain ⟨rfl, -⟩ := hsettled.adds
  rw [hsame.accepted?_eq]

/-- The account of a batch that goes through. Each entry counts once, and each that fails is
reported once. What an entry counts for is the same alone, in any session and on any site, and it
depends only on the files that the entry names. The parts of a batch go through on their own and
add up to the whole, two batches go through in one, and the order of the entries does not change
the report. -/
theorem process_accounting (hclient : p.client.Memoryless)
    (h : p.process w paths .start = .ok r t) :
    r.published + r.failed = paths.length ∧ t.errorCount = r.failed ∧
    (∃ counted : Path → Bool,
      r = ⟨paths.countP counted, paths.countP fun path => !counted path⟩ ∧
      ∀ path ∈ paths, (∃ u, p.process w [path] .start = .ok (.single (counted path)) u) ∧
        ∀ (client : SiteClient) (v : Workspace), p.config.SameFiles w v path → ∀ s b u,
          Publisher.uploadFile ⟨p.config, client⟩ v path s = .ok b u → b = counted path) ∧
    (∀ before after, paths = before ++ after → ∃ q x k y,
      p.process w before .start = .ok q x ∧ p.process w after .start = .ok k y ∧
      r = q + k ∧ t.uploads = x.uploads ++ y.uploads ∧ t.output = x.output ++ y.output) ∧
    (∀ others q x, p.process w others .start = .ok q x → ∃ y,
      p.process w (paths ++ others) .start = .ok (r + q) y ∧
      y.uploads = t.uploads ++ x.uploads ∧ y.output = t.output ++ x.output) ∧
    ∀ others, others.Perm paths → ∃ u, p.process w others .start = .ok r u := by
  obtain ⟨rfl, herrors, -⟩ := process_reports h
  refine ⟨PublishConfig.length_reportOf _ w paths, herrors,
    ⟨fun path => (p.config.accepted? w path).isSome, ?_, fun path hpath => ⟨?_, ?_⟩⟩, ?_, ?_, ?_⟩
  · simp [PublishConfig.reportOf]
  · have hsubset : [path] ⊆ paths := List.cons_subset.mpr ⟨hpath, List.nil_subset paths⟩
    obtain ⟨u, hone⟩ := exists_process_of_subset hclient h hsubset
    rw [PublishConfig.reportOf_cons, PublishConfig.reportOf_nil, Report.add_empty] at hone
    exact ⟨u, hone⟩
  · intro client v hsame s b u hfile
    exact uploadFile_eq_isSome (p := ⟨p.config, client⟩) hsame hfile
  · rintro before after rfl
    obtain ⟨x, hbefore⟩ := exists_process_of_subset hclient h (List.subset_append_left before after)
    obtain ⟨y, hafter⟩ := exists_process_of_subset hclient h (List.subset_append_right before after)
    exact ⟨_, x, _, y, hbefore, hafter, process_append h hbefore hafter⟩
  · intro others q x hothers
    obtain ⟨y, happend⟩ := exists_process_append hclient h hothers
    obtain ⟨hsum, huploads, houtput⟩ := process_append happend h hothers
    rw [hsum] at happend
    exact ⟨y, happend, huploads, houtput⟩
  · intro others hperm
    obtain ⟨u, hothers⟩ := exists_process_of_subset hclient h hperm.subset
    rw [PublishConfig.reportOf_perm hperm] at hothers
    exact ⟨u, hothers⟩

/-- A file that is missing beside a descriptor, on a site that refuses another script. -/
theorem process_accounting_of_missing_file :
    let d : Descriptor := ⟨some "11", some "1.05", some "Fix", some "a.vba"⟩
    let w : Workspace := ⟨[([Utf8.ofText "a.yml"], .file (Utf8.encode d.toYaml.toList)),
      ([Utf8.ofText "a.vba"], .file [])], []⟩
    let p : Publisher :=
      ⟨{ PublishConfig.default with username := some "tom", password := some "secret" },
        fun _ call => match call with
          | .upload 12 _ _ _ => .error (.ofText "refused")
          | _ => .ok ()⟩
    ∃ t u, p.process w ["b.yml", "a.yml"] .start = .ok ⟨1, 1⟩ t ∧ t.errorCount = 1 ∧
      p.process w ["a.yml", "b.yml"] .start = .ok ⟨1, 1⟩ u := by
  intro d w p
  have hd : Descriptor.load w "a.yml" = .ok d := Descriptor.load_of_page rfl rfl
  have hmissing : p.config.accepted? w "b.yml" = none := rfl
  have haccepted : p.config.accepted? w "a.yml" = some d :=
    PublishConfig.accepted?_of_load rfl hd
  have hall : p.config.accepted w ["b.yml", "a.yml"] = [d] := by
    simp [PublishConfig.accepted, hmissing, haccepted]
  have hreport : p.config.reportOf w ["b.yml", "a.yml"] = ⟨1, 1⟩ := by
    simp [PublishConfig.reportOf, hmissing, haccepted]
  have hclient : ∀ call ∈ p.config.script "tom" "secret" [d],
      ∀ before, p.client before call = .ok () := by
    intro call hcall before
    change call ∈ [.login "tom" "secret", .upload 11 "1.05" "Fix" "a.vba", .logout] at hcall
    simp only [List.mem_cons, List.not_mem_nil, or_false] at hcall
    rcases hcall with rfl | rfl | rfl <;> rfl
  rw [← hall] at hclient
  obtain ⟨r, t, hprocess⟩ := exists_process (s := .start) _ rfl rfl hclient
  obtain ⟨rfl, -⟩ := process_reports hprocess
  rw [hreport] at hprocess
  obtain ⟨-, herrors, -, -, -, hperm⟩ := process_accounting (fun _ _ _ => rfl) hprocess
  obtain ⟨u, hswapped⟩ := hperm ["a.yml", "b.yml"] (List.Perm.swap _ _ _)
  exact ⟨t, u, hprocess, herrors, hswapped⟩

end Publisher
end PluginRelease
