import PluginRelease.Descriptor.Basic

/-!
Complete descriptors. Every field of theirs has a value that is not blank, so there is no gap
for a default to fill.
-/
namespace PluginRelease.Descriptor
variable {d : Descriptor}

theorem isComplete_iff : d.isComplete = true ↔ ∀ f, isBlankValue (d.get f) = false := by
  unfold isComplete missingFields
  rw [List.isEmpty_iff, List.filter_eq_nil_iff]
  constructor
  · intro h f
    simpa using h f (Field.mem_all f)
  · intro h f hf
    simp [h f]

theorem ensureComplete_eq_ok_iff : d.ensureComplete = .ok () ↔ d.isComplete = true := by
  unfold ensureComplete isComplete
  constructor
  · intro h
    by_cases hmissing : d.missingFields.isEmpty = true
    · exact hmissing
    · rw [if_neg hmissing] at h
      cases h
  · intro h
    rw [if_pos h]

theorem ensureComplete_eq_error_iff {f : Failure} : d.ensureComplete = .error f ↔
    d.missingFields ≠ [] ∧ f = .extract (.incompleteDescriptor d.missingFields) := by
  unfold ensureComplete
  cases d.missingFields with
  | nil => simp
  | cons g gs => simp [eq_comm]

/-- Where version and message show, no other field than the first and the last is missing. -/
theorem missingFields_sublist (hversion : isBlankValue d.version = false)
    (hmessage : isBlankValue d.message = false) : d.missingFields.Sublist [.id, .file] := by
  have hfields : d.missingFields = [.id, .file].filter fun f => isBlankValue (d.get f) := by
    simp [missingFields, Field.all, get, List.filter, hversion, hmessage]
  rw [hfields]
  exact List.filter_sublist

theorem exists_get_of_isComplete (h : d.isComplete = true) (f : Field) :
    ∃ v, d.get f = some v ∧ Text.isBlankText v.toList = false := by
  have hf := isComplete_iff.mp h f
  cases hv : d.get f with
  | none =>
    rw [hv] at hf
    cases hf
  | some v =>
    rw [hv] at hf
    exact ⟨v, rfl, hf⟩

theorem orDefaults_of_isComplete (h : d.isComplete = true) (defaults : Descriptor) :
    d.orDefaults defaults = d := by
  apply ext_get
  intro f
  obtain ⟨v, hv, -⟩ := exists_get_of_isComplete h f
  rw [get_orDefaults, hv, Option.some_or]

end PluginRelease.Descriptor
