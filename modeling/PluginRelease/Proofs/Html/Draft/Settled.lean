import PluginRelease.Proofs.Html.Draft.Control

/-!
Between tokens. While a text is read, its element is open on top of a draft of the body, which goes
on when the text ends.
-/
namespace PluginRelease.Html.Draft
variable {d e f : Draft} {i j k p : Nat} {l : List Nat} {t : Tag} {u : Token} {m : Mode}
  {reading : Reading}

/-- The draft that a text or what waits in a table leads back to. -/
def settle (d : Draft) : Draft :=
  match d.mode with
  | .text => { d with stack := d.stack.tail, mode := d.returnMode }
  | .tableText => { d with mode := d.returnMode }
  | _ => d

/-- Elements that hold text alone. -/
def textTags : List String :=
  ["title", "script", "noframes", "noscript", "style", "textarea", "xmp", "iframe", "noembed"]

/-- A draft that is ready for the next token. -/
structure Settled (d : Draft) : Prop where
  sound : Sound d.settle
  text : d.mode = .text → ∃ i l, d.stack = i :: l ∧ d.IsIn textTags i
  table : d.mode = .tableText → d.currentIn ElementName.tableParts = true

theorem settle_of_not_passing (hm : d.mode ∉ passingModes) : d.settle = d := by
  rw [settle]
  split
  · next h => exact absurd (h ▸ by decide) hm
  · next h => exact absurd (h ▸ by decide) hm
  · rfl

theorem Sound.settle_eq (h : Sound d) : d.settle = d := settle_of_not_passing h.mode.lasting

theorem Sound.settled (h : Sound d) : Settled d where
  sound := h.settle_eq.symm ▸ h
  text hm := absurd (hm ▸ by decide) h.mode.lasting
  table hm := absurd (hm ▸ by decide) h.mode.lasting

/-- What the rules make of a draft while they go on with a token. -/
structure Reaches (d e : Draft) : Prop where
  settled : Settled e
  leads : Leads d e.settle

/-- What the rules make of a draft when they are done with a token. -/
structure Ends (u : Token) (d e : Draft) : Prop where
  settled : Settled e
  adds : Adds u d e.settle

theorem Leads.reaches (h : Leads d e) : Reaches d e :=
  ⟨h.sound.settled, h.sound.settle_eq.symm ▸ h⟩

theorem Reaches.ends (h : Reaches d e) : Ends u d e := ⟨h.settled, h.leads.adds⟩

theorem Leads.ends (h : Leads d e) : Ends u d e := h.reaches.ends

theorem Adds.ends (h : Adds u d e) : Ends u d e :=
  ⟨h.sound.settled, h.sound.settle_eq.symm ▸ h⟩

theorem Leads.trans_reaches (h : Leads d e) (h' : Reaches e f) : Reaches d f :=
  ⟨h'.settled, h.trans h'.leads⟩

theorem Leads.trans_ends (h : Leads d e) (h' : Ends u e f) : Ends u d f :=
  ⟨h'.settled, h.trans_adds h'.adds⟩

/-- What comes of a token. -/
inductive Comes (u : Token) (d : Draft) : Outcome → Prop
  | done {e : Draft} : Ends u d e → Comes u d (.done e)
  | again {e : Draft} : Reaches d e → Comes u d (.again e)

/-- One branch of the rules or the other. -/
theorem Ends.ite {c : Prop} [Decidable c] (h : c → Ends u d e) (h' : ¬ c → Ends u d f) :
    Ends u d (if c then e else f) := by
  split
  · next hc => exact h hc
  · next hc => exact h' hc

theorem Comes.ite {c : Prop} [Decidable c] {o p : Outcome} (h : c → Comes u d o)
    (h' : ¬ c → Comes u d p) : Comes u d (if c then o else p) := by
  split
  · next hc => exact h hc
  · next hc => exact h' hc

theorem Leads.done (h : Leads d e) : Comes u d (.done e) := .done h.ends

theorem Leads.again (h : Leads d e) : Comes u d (.again e) := .again h.reaches

theorem Reaches.done (h : Reaches d e) : Comes u d (.done e) := .done h.ends

/-- The page ends within a template, or it does not. -/
theorem Sound.comes_abandonTemplate (h : Sound d) : Comes u d d.abandonTemplate := by
  cases ho : d.abandonTemplate with
  | done e =>
    rw [Draft.abandonTemplate] at ho
    split at ho
    · cases ho
    · obtain rfl := Outcome.done.inj ho
      exact (Leads.refl h).done
  | again e => exact (h.abandonTemplate ho).again

theorem Leads.trans_comes {o : Outcome} (h : Leads d e) (h' : Comes u e o) : Comes u d o := by
  cases h' with
  | done h' => exact .done (h.trans_ends h')
  | again h' => exact .again (h.trans_reaches h')

/-! ## Flags -/

/-- Two drafts that differ in flags alone. -/
def Flagged (d e : Draft) : Prop :=
  ∃ framesAllowed old fostering skipLineFeed tableText reading,
    e = { d with framesAllowed, old, fostering, skipLineFeed, tableText, reading }

namespace Flagged
variable (h : Flagged d e)
include h

theorem entries : e.entries = d.entries := by
  obtain ⟨_, _, _, _, _, _, rfl⟩ := h
  rfl

theorem stack : e.stack = d.stack := by
  obtain ⟨_, _, _, _, _, _, rfl⟩ := h
  rfl

theorem mode : e.mode = d.mode := by
  obtain ⟨_, _, _, _, _, _, rfl⟩ := h
  rfl

theorem leads (hd : Sound d) : Leads d e := by
  obtain ⟨_, _, _, _, _, _, rfl⟩ := h
  exact hd.flags rfl rfl rfl rfl rfl rfl rfl

theorem settle : Flagged d.settle e.settle := by
  obtain ⟨framesAllowed, old, fostering, skipLineFeed, tableText, reading, rfl⟩ := h
  refine ⟨framesAllowed, old, fostering, skipLineFeed, tableText, reading, ?_⟩
  unfold Draft.settle
  dsimp only
  split <;> rfl

theorem settled (hd : Settled d) : Settled e where
  sound := (h.settle.leads hd.sound).sound
  text hm := by
    obtain ⟨i, l, hl, hin⟩ := hd.text (h.mode.symm.trans hm)
    exact ⟨i, l, h.stack.trans hl, hin.congr h.entries⟩
  table hm := by
    rw [currentIn, currentIs, current?, is_congr h.entries, h.stack]
    exact hd.table (h.mode.symm.trans hm)

theorem reaches (hd : Reaches f d) : Reaches f e :=
  ⟨h.settled hd.settled, hd.leads.trans (h.settle.leads hd.leads.sound)⟩

theorem adds (hd : Adds u f d) : Adds u f e := by
  have hleads := h.leads hd.sound
  have halike : Alike d e := .of_entries hd.sound.linked h.entries hleads.keeps.head
  have hunder {k i : Nat} : Under e k i ↔ Under d k i := halike.under_iff
  have hshut {k : Nat} : Shut e k ↔ Shut d k := by
    simp only [Shut, h.stack, hunder]
  refine ⟨⟨hd.before, hleads.sound, hd.keeps.trans hleads.keeps, fun i hi hclosed => ?_,
    fun i hi hclosed hp => ?_, fun k hk hk' => ?_, fun k hk hopen i hi => ?_,
    fun k hk hclosed i hi => ?_⟩, fun i hi hin => ?_, fun k hk hopen => ?_⟩
  · rw [h.stack]
    exact hd.stays_closed i hi hclosed
  · rw [halike.parent]
    exact hd.stays i hi hclosed hp
  · simp only [hshut, hunder]
    exact hd.shut k hk hk'
  · exact hunder.mpr (hd.under k hk hopen i hi)
  · exact halike.moored (h.stack ▸ .refl _) (hd.moored k hk hclosed i hi)
  · obtain ⟨⟨t, hu, hc⟩, hinside, houtside⟩ := hd.planted i hi (halike.isIn_iff.mp hin)
    refine ⟨⟨t, hu, by rwa [content?_congr h.entries]⟩, fun k hk hopen htemplate => ?_,
      fun k hk hk' => ?_⟩
    · refine hunder.mpr (hinside k (halike.isIn_iff.mp hk) (h.stack ▸ hopen) ?_)
      rw [isInTemplate_eq_false_iff, h.stack] at htemplate
      exact isInTemplate_eq_false_iff.mpr fun j hj hin =>
        htemplate j hj (halike.isIn_iff.mpr hin)
    · exact fun hki => houtside k (halike.isIn_iff.mp hk) (hshut.mp hk') (hunder.mp hki)
  · rw [h.stack, hshut]
    exact hd.closes k hk hopen

theorem ends (hd : Ends u f d) : Ends u f e := ⟨h.settled hd.settled, h.settle.adds hd.adds⟩

end Flagged

theorem Flagged.noFrames (d : Draft) : Flagged d d.noFrames := ⟨_, _, _, _, _, _, rfl⟩

theorem Leads.flag (h : Leads d e) (hf : Flagged e f) : Leads d f := h.trans (hf.leads h.sound)

/-! ## Elements that hold text -/

theorem settle_openText (h : Sound d) (t : Tag) (reading : Reading) :
    (d.openText t reading).settle =
      { d.insertEmpty t with mode := d.mode, returnMode := d.mode, reading } := by
  rw [openText, settle, Draft.openTag, Draft.openElement, Draft.insertEmpty, h.insertElement_eq]
  rfl

section
variable (h : Sound d)
include h

theorem Sound.name?_insertEmpty (t : Tag) :
    (d.insertEmpty t).name? d.entries.size = some (.html t.name) :=
  name?_eq_some_iff.mpr ⟨_, h.content?_insertEmpty⟩

/-- The element of a text is open, whatever flags are set besides. -/
theorem Sound.settled_text (ht : t.name ∈ textTags) (hmode : e.mode = .text)
    (hentries : e.entries = (d.insertEmpty t).entries)
    (hstack : e.stack = d.entries.size :: d.stack) (hsound : Sound e.settle) : Settled e where
  sound := hsound
  text _ := by
    refine ⟨_, _, hstack, IsIn.congr (.of_name? (h.name?_insertEmpty t) ht) hentries⟩
  table hm := by
    rw [hmode] at hm
    cases hm

theorem Sound.openText (ht : t.name ∈ textTags) (hother : t.name ≠ "textarea") :
    Reaches d (d.openText t reading) := by
  have hleaf := h.insertEmpty (t := t) ((by decide : ∀ tag ∈ textTags, tag ≠ "textarea" →
    tag ∉ reservedTags) _ ht hother)
  have hleads : Leads d (d.openText t reading).settle := by
    rw [settle_openText h]
    exact hleaf.trans (hleaf.sound.flags rfl rfl rfl rfl rfl (Rewired.insertEmpty d t).mode.symm rfl)
  refine ⟨h.settled_text ht rfl h.entries_openTag ?_ hleads.sound, hleads⟩
  exact h.stack_openTag t

/-- The one control that holds text. -/
theorem Sound.openTextarea (ht : t.name = "textarea") :
    Ends (.startTag t) d (d.openText t reading) := by
  have hadds : Adds (.startTag t) d (d.openText t reading).settle := by
    rw [settle_openText h]
    have he := Rewired.insertEmpty d t
    exact h.plant (ht ▸ by decide) rfl he.stack he.head he.form he.formatting rfl he.templateModes
  refine ⟨h.settled_text (ht ▸ by decide) rfl h.entries_openTag ?_ hadds.sound, hadds⟩
  exact h.stack_openTag t

end

end PluginRelease.Html.Draft
