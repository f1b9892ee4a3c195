import PluginRelease.Proofs.Descriptor.RoundTrip
import PluginRelease.Proofs.Publish.Origin

/-!
Fields that are left missing. A default takes the place of nothing, but not of a blank value,
which is reported like nothing.
-/
namespace PluginRelease
namespace Descriptor
open Text

/-- No value that is there is blank. -/
def IsShown (d : Descriptor) : Prop := ∀ f v, d.get f = some v → isBlankText v.toList = false

theorem isBlankValue_or (v w : Option String) :
    isBlankValue (v.or w) = (isBlankValue v && (v.isSome || isBlankValue w)) := by
  cases v with
  | none => rfl
  | some s => exact (Bool.and_true _).symm

theorem mem_missingFields {d : Descriptor} {f : Field} :
    f ∈ d.missingFields ↔ isBlankValue (d.get f) = true := by
  rw [missingFields, List.mem_filter, and_iff_right (Field.mem_all f)]

theorem contains_missingFields (d : Descriptor) (f : Field) :
    d.missingFields.contains f = isBlankValue (d.get f) := by
  rw [Bool.eq_iff_iff, List.contains_iff_mem, mem_missingFields]

theorem missingFields_orDefaults_eq (d e : Descriptor) :
    (d.orDefaults e).missingFields =
      d.missingFields.filter fun f => (d.get f).isSome || e.missingFields.contains f := by
  unfold missingFields
  rw [List.filter_filter]
  refine List.filter_congr fun f _ => ?_
  rw [get_orDefaults, isBlankValue_or, Bool.and_comm]
  exact congrArg (fun b => ((d.get f).isSome || b) && isBlankValue (d.get f))
    (contains_missingFields e f).symm

/-- A field that is there is not missing where no value is blank. -/
theorem IsShown.get_eq_none {d : Descriptor} (h : d.IsShown) {f : Field}
    (hf : f ∈ d.missingFields) : d.get f = none := by
  cases hv : d.get f with
  | none => rfl
  | some v =>
    rw [mem_missingFields, hv] at hf
    rw [isBlankValue, Option.all_some, h f v hv] at hf
    cases hf

theorem isComplete_orDefaults_iff (d e : Descriptor) :
    (d.orDefaults e).isComplete = true ↔
      ∀ f ∈ d.missingFields, d.get f = none ∧ f ∉ e.missingFields := by
  rw [isComplete, List.isEmpty_iff, missingFields_orDefaults_eq, List.filter_eq_nil_iff]
  simp

/-- A complete descriptor is turned down for its number or its archive only. -/
theorem uploadFile_settles_of_isComplete {p : Publisher} {w : Workspace} {path : Path}
    {d : Descriptor} (hload : load w path = .ok d)
    (hcomplete : (d.orDefaults p.config.defaults).isComplete = true) (s : Session) :
    p.Settles s ((some (d.orDefaults p.config.defaults)).filter fun e =>
      e.numericId?.isSome && (p.config.dry || e.hasArchive w)) (p.uploadFile w path s) := by
  have hsettles := p.uploadFile_settles (w := w) (s := s) path
  rw [PublishConfig.accepted?_of_load (isFile_of_load hload) hload, Option.filter_some] at hsettles
  rw [Option.filter_some]
  simpa [PublishConfig.accepts, isReady, hcomplete] using hsettles

/-- The fields that are missing after defaults were filled in: those that were missing and are
missing from the defaults too, and those with a blank value, which no default replaces. Without
blank values there are only the first, and complete defaults leave none. Then a publisher does not
skip a descriptor for a field that is given elsewhere. -/
theorem missingFields_orDefaults (d e : Descriptor) :
    (d.orDefaults e).missingFields =
        d.missingFields.filter (fun f => (d.get f).isSome || e.missingFields.contains f) ∧
      (d.IsShown →
        (d.orDefaults e).missingFields = d.missingFields.filter e.missingFields.contains) ∧
      (e.isComplete = true → ((d.orDefaults e).isComplete = true ↔ d.IsShown)) ∧
      ∀ (p : Publisher) (w : Workspace) (path : Path) (s : Session), p.config.defaults = e →
        load w path = .ok d → (∀ f ∈ d.missingFields, d.get f = none ∧ f ∉ e.missingFields) →
          p.Settles s ((some (d.orDefaults e)).filter fun e =>
            e.numericId?.isSome && (p.config.dry || e.hasArchive w)) (p.uploadFile w path s) := by
  refine ⟨missingFields_orDefaults_eq d e, fun hshown => ?_, fun hcomplete => ?_, ?_⟩
  · rw [missingFields_orDefaults_eq]
    refine List.filter_congr fun f hf => ?_
    rw [hshown.get_eq_none hf]
    rfl
  · rw [isComplete_orDefaults_iff]
    constructor
    · intro h f v hv
      rw [Bool.eq_false_iff]
      intro hblank
      have hmissing : f ∈ d.missingFields := by
        rw [mem_missingFields, hv]
        exact hblank
      rw [(h f hmissing).1] at hv
      cases hv
    · intro hshown f hf
      refine ⟨hshown.get_eq_none hf, ?_⟩
      rw [List.isEmpty_iff.mp hcomplete]
      exact List.not_mem_nil
  · rintro p w path s rfl hload hgiven
    exact uploadFile_settles_of_isComplete hload ((isComplete_orDefaults_iff d _).mpr hgiven) s

/-- Complete defaults do not complete a descriptor with a blank message. -/
theorem missingFields_orDefaults_of_blank :
    let d : Descriptor := ⟨some "1", some "1.00", some "", some "a.vba"⟩
    let e : Descriptor := ⟨some "2", some "2.00", some "Fix", some "b.vba"⟩
    e.isComplete = true ∧ d.missingFields.filter e.missingFields.contains = [] ∧
      (d.orDefaults e).missingFields = [.message] := by decide

/-- Without a message a descriptor is published with the one that is configured. -/
theorem missingFields_orDefaults_of_null :
    let d : Descriptor := ⟨some "11", some "1.05", none, some "a.vba"⟩
    let w : Workspace := ⟨[([Utf8.ofText "a.yml"], .file (Utf8.encode d.toYaml.toList)),
      ([Utf8.ofText "a.vba"], .file [])], []⟩
    let p : Publisher := ⟨{ PublishConfig.default with message := some "Fix" }, fun _ _ => .ok ()⟩
    d.IsShown ∧ (d.orDefaults p.config.defaults).missingFields = [] ∧
      p.Settles .start (some ⟨some "11", some "1.05", some "Fix", some "a.vba"⟩)
        (p.uploadFile w "a.yml" .start) := by
  intro d w p
  have hshown : d.IsShown := by
    intro f v hv
    cases f with
    | message => cases hv
    | _ =>
      cases hv
      rfl
  have hload : load w "a.yml" = .ok d := load_of_page rfl rfl
  obtain ⟨-, hmissing, -, hsettles⟩ := missingFields_orDefaults d p.config.defaults
  refine ⟨hshown, (hmissing hshown).trans (by decide), ?_⟩
  exact hsettles p w "a.yml" .start rfl hload (by decide)

end Descriptor
end PluginRelease
