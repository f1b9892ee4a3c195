import PluginRelease.Proofs.Html.Draft.Table

/-!
Texts that wait for their end: those of elements that hold text alone, and what is read in a table
until it is known to be blank.
-/
namespace PluginRelease.Html.Draft
variable {d e : Draft} {i : Nat} {l : List Nat} {u : Token}

theorem Settled.reaches (h : Settled d) : Reaches d.settle d := ⟨h, .refl h.sound⟩

/-! ## Text in a table -/

theorem Sound.foldCharacters {step : Draft → Char → Draft}
    (hstep : ∀ d, Sound d → ∀ c, Leads d (step d c)) (h : Sound d) (text : List Char) :
    Leads d (text.foldl step d) := by
  induction text generalizing d with
  | nil => exact .refl h
  | cons c text ih => exact (hstep d h c).trans (ih (hstep d h c).sound)

theorem Settled.settleTableText (h : Settled d) (hmode : d.mode = .tableText) :
    Leads d.settle d.settleTableText := by
  have hstart : Leads d.settle { d with tableText := [], mode := d.returnMode } := by
    have hflag : Flagged d.settle { d with tableText := [], mode := d.returnMode } := by
      rw [settle, hmode]
      exact ⟨_, _, _, _, _, _, rfl⟩
    exact hflag.leads h.sound
  rw [Draft.settleTableText]
  split
  · exact hstart.trans (hstart.sound.foldCharacters (fun _ h c => h.insertCharacter c) _)
  · exact hstart.trans (hstart.sound.foldCharacters (fun _ h c => h.fosterCharacter c) _)

theorem Settled.inTableText (h : Settled d) (hmode : d.mode = .tableText) :
    Comes u d.settle (d.inTableText u) := by
  have hover := (h.settleTableText hmode).again (u := u)
  cases u with
  | character c =>
    refine .done (.ite (fun _ => h.reaches.ends) fun _ => ?_)
    exact Flagged.ends ⟨_, _, _, _, _, _, rfl⟩ h.reaches.ends
  | startTag t => exact hover
  | endTag t => exact hover
  | finish => exact hover
  | comment => exact hover
  | doctype _ => exact hover

/-! ## Elements of text -/

theorem settle_of_text (hmode : d.mode = .text) :
    d.settle = { d with stack := d.stack.tail, mode := d.returnMode } := by
  rw [settle, hmode]

theorem entries_settle (d : Draft) : d.settle.entries = d.entries := by
  rw [settle]
  split <;> rfl

/-- A text is put into its element. -/
theorem place_of_text (hstack : d.stack = i :: l) (hi : d.IsIn textTags i) : d.place = .last i := by
  rw [place, current?, hstack, List.head?_cons, Option.getD_some, placeIn, if_neg, if_neg]
  · exact fun htemplate => hi.not_of_disjoint (by decide) (isTag_iff_isIn.mp htemplate)
  · rw [Bool.and_eq_true, is_isOneOf_iff]
    exact fun hpart => hi.not_of_disjoint (by decide) hpart.2

theorem Settled.insertCharacter (h : Settled d) (hmode : d.mode = .text) (c : Char) :
    Reaches d.settle (d.insertCharacter c) := by
  obtain ⟨i, l, hstack, hi⟩ := h.text hmode
  have he := Rewired.insertCharacter d c
  have hmode' : (d.insertCharacter c).mode = .text := he.mode.trans hmode
  have hi' : d.settle.IsIn textTags i := hi.congr (entries_settle d)
  have hleads : Leads d.settle (d.insertCharacter c).settle := by
    have hentries := entries_settle d
    rcases insertCharacter_cases d c with heq | ⟨j, s, hs, heq⟩
    · rw [place_of_text hstack hi] at heq
      have hadded : (d.insertCharacter c).settle.entries =
          ((d.settle.add (.text [c])).1.attach d.settle.entries.size (.last i)).entries := by
        rw [entries_settle, heq, hentries]
        exact entries_attach_congr (d := (d.settle.add (.text [c])).1)
          (e := (d.add (.text [c])).1) (congrArg (Array.push · _) hentries.symm) _ _
      refine h.sound.addText hadded ⟨_, rfl⟩ ?_ hi'.lt_size fun s hs => ?_
      · rw [settle_of_text hmode, settle_of_text hmode']
        obtain ⟨entries, he⟩ := he
        exact ⟨entries, by rw [he]⟩
      · obtain ⟨c, hc, htext⟩ := exists_holder hi'.isSome
        exact htext s (Option.some.inj (hc.symm.trans hs))
    · have hgrown := h.sound.growText (c := c) ((content?_congr hentries ▸ hs : _))
      rw [settle_of_text hmode', heq]
      rw [settle_of_text hmode] at hgrown ⊢
      exact hgrown
  refine ⟨⟨hleads.sound, fun _ => ⟨i, l, he.stack.trans hstack, ?_⟩, fun htable => ?_⟩, hleads⟩
  · exact ((hleads.keeps.isIn_iff hi'.lt_size).mpr hi').congr (entries_settle _).symm
  · rw [hmode'] at htable
    cases htable

theorem Settled.inText (h : Settled d) (hmode : d.mode = .text) :
    Comes u d.settle (d.inText u) := by
  have hover : Leads d.settle { d.pop with mode := d.returnMode, reading := .markup } := by
    refine (show Flagged d.settle _ from ?_).leads h.sound
    rw [settle_of_text hmode]
    exact ⟨_, _, _, _, _, _, rfl⟩
  cases u with
  | character c => exact .done (h.insertCharacter hmode c).ends
  | startTag t => exact .done h.reaches.ends
  | endTag t => exact hover.done
  | finish => exact hover.again
  | comment => exact .done h.reaches.ends
  | doctype _ => exact .done h.reaches.ends

end PluginRelease.Html.Draft
