import PluginRelease.Proofs.Form.Control

/-!
What is sent of a form, by the place of each control: all with a name, but of the submit buttons
only one with no other before it.
-/
namespace PluginRelease.Form
variable {f : Form} {before after cs : List Control} {c : Control}

def IsSent (before : List Control) (c : Control) : Prop :=
  c.name ≠ "" ∧ (c.kind = .submit → ∀ b ∈ before, b.kind ≠ .submit)

instance (before : List Control) (c : Control) : Decidable (IsSent before c) :=
  inferInstanceAs (Decidable (_ ∧ _))

/-- The controls that are sent, in document order. -/
def sent (f : Form) : List Control :=
  (f.controls.zipIdx.filter fun p => IsSent (f.controls.take p.2) p.1).map (·.1)

theorem map_fst_filter_zipIdx (p : Control → Bool) (cs : List Control) (k : Nat) :
    ((cs.zipIdx k).filter fun q => p q.1).map (·.1) = cs.filter p := by
  have hmap := List.filter_map (f := Prod.fst) (p := p) (l := cs.zipIdx k)
  rw [List.zipIdx_map_fst] at hmap
  exact hmap.symm

/-- A list without its further submit buttons holds, by their places, the controls that are none
and the one with none before it. -/
theorem oneSubmit_eq (cs : List Control) :
    oneSubmit cs = (cs.zipIdx.filter fun p =>
      p.1.kind = .submit → ∀ b ∈ cs.take p.2, b.kind ≠ .submit).map (·.1) := by
  induction cs with
  | nil => rfl
  | cons c cs ih =>
    rw [oneSubmit, List.zipIdx_cons', List.filter_cons_of_pos (by simp), List.map_cons,
      List.filter_map, List.map_map]
    congr 1
    by_cases hc : c.kind = .submit
    · rw [if_pos hc, ← map_fst_filter_zipIdx _ cs 0]
      simp [Function.comp_def, hc]
    · rw [if_neg hc, ih]
      simp [Function.comp_def, hc]

theorem submitted_eq_sent (f : Form) : f.submitted = f.sent := by
  rw [submitted, sent, oneSubmit_eq, List.filter_map, List.filter_filter]
  congr 1
  apply List.filter_congr
  intro p _
  rw [Bool.eq_iff_iff, decide_eq_true_iff]
  simp [IsSent, Decidable.imp_iff_not_or]

theorem oneSubmit_append (before after : List Control) :
    oneSubmit (before ++ after) = oneSubmit before ++
      if ∃ b ∈ before, b.kind = .submit then after.filter (·.kind ≠ .submit)
      else oneSubmit after := by
  induction before with
  | nil => simp [oneSubmit]
  | cons b bs ih =>
    rw [List.cons_append, oneSubmit, oneSubmit, List.cons_append]
    split
    · next hb => simp [hb]
    · next hb => simp [hb, ih]

/-- A field with a name is sent, behind what is sent of the controls before it and in front of what
does not depend on its value. -/
theorem exists_pairs_append (f : Form) (before after : List Control) : ∃ later, ∀ c : Control,
    c.kind = .value → c.name ≠ "" → pairs { f with controls := before ++ c :: after } =
      pairs { f with controls := before } ++ (c.name, c.value) :: later := by
  let rest := if ∃ b ∈ before, b.kind = .submit then after.filter (·.kind ≠ .submit)
    else oneSubmit after
  refine ⟨((rest.filter (·.name ≠ "")).filter (·.kind ≠ .file)).map fun c => (c.name, c.value),
    fun c hc hname => ?_⟩
  have hsent : oneSubmit (before ++ c :: after) = oneSubmit before ++ c :: rest := by
    rw [oneSubmit_append]
    congr 1
    unfold rest
    split
    · simp [hc]
    · simp [oneSubmit, hc]
  simp only [pairs, submitted, hsent, List.filter_append, List.map_append]
  simp [hc, hname]

/-! ## By kind -/

theorem oneSubmit_sublist (cs : List Control) : (oneSubmit cs).Sublist cs := by
  induction cs with
  | nil => exact .slnil
  | cons c cs ih =>
    rw [oneSubmit]
    split
    · exact List.filter_sublist.cons_cons c
    · exact ih.cons_cons c

theorem filter_other_oneSubmit (cs : List Control) :
    (oneSubmit cs).filter (·.kind ≠ .submit) = cs.filter (·.kind ≠ .submit) := by
  induction cs with
  | nil => rfl
  | cons c cs ih =>
    rw [oneSubmit, List.filter_cons, List.filter_cons]
    by_cases hc : c.kind = .submit
    · simp [hc, List.filter_filter]
    · simpa [hc] using ih

theorem filter_submit_oneSubmit (cs : List Control) :
    (oneSubmit cs).filter (·.kind = .submit) = (cs.find? (·.kind = .submit)).toList := by
  induction cs with
  | nil => rfl
  | cons c cs ih =>
    rw [oneSubmit, List.filter_cons]
    by_cases hc : c.kind = .submit
    · simp [hc, List.filter_filter]
    · simpa [hc] using ih

/-- All controls but submit buttons are sent, since they have names. -/
theorem WellNamed.filter_sent (hf : f.WellNamed) {kind : ControlKind} (hkind : kind ≠ .submit) :
    f.sent.filter (·.kind = kind) = f.controls.filter (·.kind = kind) := by
  have hsame (cs : List Control) : cs.filter (·.kind = kind) =
      (cs.filter (·.kind ≠ .submit)).filter (·.kind = kind) := by
    rw [List.filter_filter]
    apply List.filter_congr
    intro c _
    by_cases hc : c.kind = kind <;> simp [hc, hkind]
  rw [hsame f.controls, ← filter_other_oneSubmit, ← hsame, ← submitted_eq_sent, submitted,
    List.filter_filter]
  apply List.filter_congr
  intro c hc
  rw [Bool.and_eq_left_iff_imp]
  intro hck
  have hother : c.kind ≠ .submit := by rwa [of_decide_eq_true hck]
  simpa using hf c ((oneSubmit_sublist _).subset hc) hother

theorem filter_submit_sent (f : Form) : f.sent.filter (·.kind = .submit) =
    (f.controls.find? (·.kind = .submit)).toList.filter (·.name ≠ "") := by
  rw [← submitted_eq_sent, submitted, List.filter_filter, ← filter_submit_oneSubmit,
    List.filter_filter]
  apply List.filter_congr
  intro c _
  exact Bool.and_comm _ _

end PluginRelease.Form
