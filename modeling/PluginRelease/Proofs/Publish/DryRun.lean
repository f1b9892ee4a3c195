import PluginRelease.Proofs.Descriptor.Number
import PluginRelease.Proofs.Publish.Accepted
import PluginRelease.Proofs.Publish.Batch
import PluginRelease.Proofs.Workspace.Path
import Mathlib.Data.List.Forall2

/-!
What a dry run tells of the run that is none. It shows the descriptors that have a number and
no gap; of these, the other run publishes those whose archive exists.
-/
namespace PluginRelease

namespace Descriptor
variable {d : Descriptor}

/-- The uploads of descriptors that are ready, one for each. -/
theorem forall₂_calls {ds : List Descriptor} (h : ∀ d ∈ ds, d.isReady = true) :
    List.Forall₂ (fun d call => d.call? = some call) ds (ds.filterMap call?) := by
  induction ds with
  | nil => exact .nil
  | cons d ds ih =>
    obtain ⟨hd, hds⟩ := List.forall_mem_cons.mp h
    obtain ⟨_, _, _, _, -, -, -, -, hcall⟩ := exists_of_isReady hd
    rw [List.filterMap_cons_some hcall]
    exact .cons hcall (ih hds)

/-- The upload of a descriptor that is ready has a number and no blank field. -/
theorem fields_of_call {w : Workspace} {id : Nat} {version message : String} {file : Path}
    (hready : d.isReady = true) (harchive : d.hasArchive w = true)
    (hcall : d.call? = some (.upload id version message file)) :
    id ≠ 0 ∧ Text.isBlankText version.toList = false ∧
      Text.isBlankText message.toList = false ∧
      Text.isBlankText file.text.toList = false ∧ w.isFile file = true := by
  obtain ⟨n, v, m, f, hid, hversion, hmessage, hfile, hcall'⟩ := exists_of_isReady hready
  obtain ⟨rfl, rfl, rfl, rfl⟩ := SiteCall.upload.inj (Option.some.inj (hcall.symm.trans hcall'))
  obtain ⟨-, hcomplete⟩ := Bool.and_eq_true_iff.mp hready
  have hblank (g : Field) : isBlankValue (d.get g) = false := isComplete_iff.mp hcomplete g
  have hpositive : 0 < id := by
    obtain ⟨text, htext, hnumber⟩ := Option.bind_eq_some_iff.mp hid
    exact (idNumber?_eq_some_iff.mp hnumber).2.1
  have hversion' := hblank .version
  have hmessage' := hblank .message
  have hfile' := hblank .file
  simp only [get, hversion, hmessage, hfile, isBlankValue, Option.all_some]
    at hversion' hmessage' hfile'
  rw [hasArchive, hfile] at harchive
  exact ⟨Nat.ne_of_gt hpositive, hversion', hmessage', by rwa [Path.text_ofText], harchive⟩

end Descriptor

namespace PublishConfig
variable {c : PublishConfig} {w : Workspace} {paths : List Path}

/-- The same options for a dry run, or for one that is none. -/
def withDry (c : PublishConfig) (dry : Bool) : PublishConfig := { c with dry := dry }

@[simp] theorem dry_withDry (dry : Bool) : (c.withDry dry).dry = dry := rfl

theorem accepts_of_mem_accepted {d : Descriptor} (hd : d ∈ c.accepted w paths) :
    c.accepts w d = true := by
  obtain ⟨path, -, hpath⟩ := List.mem_filterMap.mp hd
  exact (Option.filter_eq_some_iff.mp hpath).2

theorem published_reportOf (c : PublishConfig) (w : Workspace) (paths : List Path) :
    (c.reportOf w paths).published = (c.accepted w paths).length :=
  List.length_filterMap_eq_countP.symm

/-- A dry run leaves out nothing but the look for the archive. -/
theorem accepted_withDry (c : PublishConfig) (w : Workspace) (paths : List Path) :
    (c.withDry false).accepted w paths =
      ((c.withDry true).accepted w paths).filter (·.hasArchive w) := by
  unfold accepted
  rw [List.filter_filterMap]
  congr 1
  funext path
  unfold accepted?
  rw [Option.filter_filter]
  congr 1
  funext d
  simp [accepts]

end PublishConfig

namespace Publisher
variable {p : Publisher} {w : Workspace} {s : Session}

/-- A dry run settles every descriptor, and counts those that it accepts. -/
theorem exists_uploadFile_dry (hdry : p.config.dry = true) (path : Path) :
    ∃ t, p.uploadFile w path s = .ok (p.config.accepted? w path).isSome t := by
  have hsettled := uploadFile_settles (p := p) (w := w) (s := s) path
  obtain ⟨b, t, hfile⟩ := hsettled.exists_ok (by simp [PublishConfig.sends_dry hdry])
  rw [hfile] at hsettled
  obtain ⟨rfl, -, -⟩ := hsettled.adds
  exact ⟨t, hfile⟩

/-- A dry run makes no call and shows what it accepts. -/
theorem exists_process_dry (hdry : p.config.dry = true) {user password : String}
    (hout : s.loggedIn = false)
    (hcredentials : p.config.credentials? = some (user, password)) (paths : List Path) :
    ∃ t, p.process w paths s = .ok (p.config.reportOf w paths) t ∧ t.calls = s.calls ∧
      t.output = s.output ++ String.join ((p.config.accepted w paths).map Descriptor.toYaml) := by
  obtain ⟨r, t, hprocess⟩ := exists_process (w := w) paths hout hcredentials
    (by simp [PublishConfig.script_dry hdry])
  obtain ⟨rfl, ht, -⟩ := process_adds hout hcredentials hprocess
  refine ⟨t, hprocess, ?_, ?_⟩
  · rw [ht.calls, PublishConfig.script_dry hdry, List.append_nil]
  · rw [ht.output, PublishConfig.shows_dry hdry]

/-- A dry run against the run that it is for, both with credentials, the second on a site that
refuses nothing. The dry run makes no call and shows the descriptors that it counts. The other
run shows nothing, and it uploads those of them whose archive exists, in the same order, each
under its number and with its other fields as they are shown. -/
theorem process_dryRun {c : PublishConfig} {user password : String}
    (hcredentials : c.credentials? = some (user, password)) (idle client : SiteClient)
    (hclient : client.Accepts) (w : Workspace) (paths : List Path) :
    let dry : Publisher := ⟨c.withDry true, idle⟩
    let real : Publisher := ⟨c.withDry false, client⟩
    let shown := (c.withDry true).accepted w paths
    (∀ path s, ∃ t, dry.uploadFile w path s =
      .ok ((c.withDry true).accepted? w path).isSome t) ∧
    ∃ planned s done t uploads,
      dry.process w paths .start = .ok planned s ∧ real.process w paths .start = .ok done t ∧
      s.calls = [] ∧ s.output = String.join (shown.map Descriptor.toYaml) ∧
      planned.published = shown.length ∧
      t.output = "" ∧ t.calls = [.login user password] ++ uploads ++ [.logout] ∧
      List.Forall₂ (fun d call => d.call? = some call) (shown.filter (·.hasArchive w)) uploads ∧
      (∀ id version message file, .upload id version message file ∈ t.calls →
        id ≠ 0 ∧ Text.isBlankText version.toList = false ∧
          Text.isBlankText message.toList = false ∧
          Text.isBlankText file.text.toList = false ∧ w.isFile file = true) ∧
      done.published + (shown.filter fun d => !d.hasArchive w).length = planned.published := by
  intro dry real shown
  refine ⟨fun path s => exists_uploadFile_dry rfl path, ?_⟩
  have hin : Session.start.loggedIn = false := rfl
  obtain ⟨s, hdry, hsilent, hshown⟩ := exists_process_dry (p := dry) (w := w) rfl hin
    hcredentials paths
  obtain ⟨t, hreal, hcalls, houtput⟩ := exists_process_real (p := real) (w := w) rfl hclient hin
    hcredentials paths
  have hsplit : real.config.accepted w paths = shown.filter (·.hasArchive w) :=
    PublishConfig.accepted_withDry c w paths
  have hready : ∀ d ∈ real.config.accepted w paths,
      d.isReady = true ∧ d.hasArchive w = true := by
    intro d hd
    simpa [PublishConfig.accepts, real] using PublishConfig.accepts_of_mem_accepted hd
  have hplanned := PublishConfig.published_reportOf dry.config w paths
  refine ⟨_, s, _, t, _, hdry, hreal, hsilent, hshown.trans String.empty_append, hplanned,
    houtput, hcalls, ?_, ?_, ?_⟩
  · rw [← hsplit]
    exact Descriptor.forall₂_calls fun d hd => (hready d hd).1
  · intro id version message file hmem
    simp only [hcalls, Session.start, List.nil_append, List.mem_append, List.mem_singleton,
      reduceCtorEq, false_or, or_false, List.mem_filterMap] at hmem
    obtain ⟨d, hd, hcall⟩ := hmem
    exact Descriptor.fields_of_call (hready d hd).1 (hready d hd).2 hcall
  · have hcount := List.length_eq_length_filter_add (l := shown) (·.hasArchive w)
    rw [PublishConfig.published_reportOf, hsplit, hplanned]
    exact hcount.symm

/-- Two descriptors that are ready, one of them without its archive, and a file that is none. -/
theorem process_dryRun_of_missing_archive :
    let d : Descriptor := ⟨some "11", some "1.05", some "Fix", some "a.vba"⟩
    let e : Descriptor := ⟨some "12", some "2.00", some "New", some "b.vba"⟩
    let w : Workspace := ⟨[([Utf8.ofText "a.yml"], .file (Utf8.encode d.toYaml.toList)),
      ([Utf8.ofText "b.yml"], .file (Utf8.encode e.toYaml.toList)),
      ([Utf8.ofText "a.vba"], .file [])], []⟩
    let c : PublishConfig :=
      { PublishConfig.default with username := some "tom", password := some "secret" }
    let paths : List Path := ["b.yml", "c.yml", "a.yml"]
    ∃ planned s done t,
      Publisher.process ⟨c.withDry true, fun _ _ => .error (.ofText "refused")⟩ w paths .start =
        .ok planned s ∧
      Publisher.process ⟨c.withDry false, fun _ _ => .ok ()⟩ w paths .start = .ok done t ∧
      s.calls = [] ∧ s.output = e.toYaml ++ d.toYaml ∧ planned.published = 2 ∧
      t.calls = [.login "tom" "secret", .upload 11 "1.05" "Fix" "a.vba", .logout] ∧
      done.published = 1 := by
  intro d e w c paths
  have hd : Descriptor.load w "a.yml" = .ok d := Descriptor.load_of_page rfl rfl
  have he : Descriptor.load w "b.yml" = .ok e := Descriptor.load_of_page rfl rfl
  have hshown : (c.withDry true).accepted w paths = [e, d] := by
    have hb : (c.withDry true).accepted? w "b.yml" = some e :=
      PublishConfig.accepted?_of_load rfl he
    have ha : (c.withDry true).accepted? w "a.yml" = some d :=
      PublishConfig.accepted?_of_load rfl hd
    have hc : (c.withDry true).accepted? w "c.yml" = none := rfl
    simp [PublishConfig.accepted, paths, ha, hb, hc]
  obtain ⟨-, planned, s, done, t, uploads, hdry, hreal, hs, hout, hplanned, -, ht, huploads, -,
    hdone⟩ := process_dryRun (c := c) rfl (fun _ _ => .error (.ofText "refused"))
      (fun _ _ => .ok ()) (fun _ _ => rfl) w paths
  have harchives : [e, d].filter (·.hasArchive w) = [d] := rfl
  have hmissing : ([e, d].filter fun g => !g.hasArchive w).length = 1 := rfl
  rw [hshown] at hout hplanned huploads hdone
  rw [harchives] at huploads
  obtain ⟨call, hcall, rfl⟩ : ∃ call, d.call? = some call ∧ uploads = [call] := by
    cases huploads with
    | cons hcall hnil =>
      cases hnil
      exact ⟨_, hcall, rfl⟩
  obtain rfl := Option.some.inj hcall
  refine ⟨planned, s, done, t, hdry, hreal, hs, ?_, hplanned, ht, ?_⟩
  · rw [hout]
    rfl
  · rw [hmissing, hplanned] at hdone
    exact Nat.succ.inj hdone

end Publisher
end PluginRelease
