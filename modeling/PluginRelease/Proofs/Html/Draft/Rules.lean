import PluginRelease.Html.Draft.Frames
import PluginRelease.Proofs.Html.Draft.Texts

/-!
The rules of the other parts of a page: its head, lists of options, what templates hold, frames, and
what follows the end of the body.
-/
namespace PluginRelease.Html.Draft
variable {d e : Draft} {i : Nat} {l : List Nat} {t : Tag} {u : Token} {m : Mode}

section
variable (h : Sound d)
include h

/-! ## The head -/

/-- Whatever is current is closed, unless it is the root element. -/
theorem Sound.leaveCurrent (hl : d.stack = i :: l) (hne : l ≠ []) (hm : m ∈ freeModes) :
    Leads d (d.pop.enter m) := by
  rw [Draft.pop, hl, List.tail_cons]
  exact h.leave (a := [i]) hl hne (fun _ hy => hy) (.of_free hm)

theorem Sound.leaveHead (hmode : d.mode = .head) : Leads d d.leaveHead := by
  obtain ⟨i, hi, hin⟩ := h.mode.anchored (hmode ▸ by decide)
  obtain ⟨j, l, hl⟩ := List.exists_cons_of_ne_nil h.stack_ne_nil
  refine h.leaveCurrent hl ?_ (by decide)
  rintro rfl
  have hbottom := h.bottom_of_append (a := []) hl (by simp)
  rw [hl, List.mem_singleton] at hi
  obtain rfl : i = 1 := hi.trans (Option.some.inj hbottom)
  exact hin.not_of_disjoint (hmode ▸ by decide) h.isIn_one

theorem Sound.inHead (hmode : d.mode = .head) : Comes u d (d.inHead u) := by
  have hleave := h.leaveHead hmode
  cases u with
  | character c =>
    exact .ite (fun _ => (h.insertCharacter c).done) fun _ => hleave.again
  | startTag t =>
    refine .ite (fun _ => h.mergeRoot.done) fun _ => ?_
    refine .ite (fun hname => (h.openHeadTag ?_).done) fun _ => ?_
    · rcases hname with hname | hname
      · exact .tail _ (List.contains_iff_mem.mp hname)
      · exact hname ▸ .head _
    exact .ite (fun _ => (Leads.refl h).done) fun _ => hleave.again
  | endTag t =>
    refine .ite (fun _ => hleave.done) fun _ => ?_
    refine .ite (fun _ => h.closeTemplate.done) fun _ => ?_
    exact .ite (fun _ => hleave.again) fun _ => (Leads.refl h).done
  | finish => exact hleave.again
  | comment => exact (Leads.refl h).done
  | doctype _ => exact hleave.again

theorem Sound.openBody (ht : t.name = "body") : Leads d (d.openBody t) := by
  have hopened := h.openTag (t := t) (ht ▸ by decide)
  exact hopened.trans (hopened.sound.enter (.of_free (by decide)))

theorem Sound.inAfterHead (hmode : d.mode = .afterHead) : Comes u d (d.inAfterHead u) := by
  have hbody := h.openBody (t := .plain "body") rfl
  cases u with
  | character c =>
    exact .ite (fun _ => (h.insertCharacter c).done) fun _ => hbody.again
  | startTag t =>
    refine .ite (fun _ => h.mergeRoot.done) fun _ => ?_
    refine .ite (fun hname => ((h.openBody hname).flag (.noFrames _)).done) fun _ => ?_
    refine .ite (fun hname => ?_) fun _ => ?_
    · have hopened := h.openTag (t := t) (hname ▸ by decide)
      exact (hopened.trans (hopened.sound.enter (.of_free (by decide)))).done
    refine .ite (fun hname => (h.openLateHeadTag (hmode ▸ by decide)
      (List.contains_iff_mem.mp hname)).done) fun _ => ?_
    exact .ite (fun _ => (Leads.refl h).done) fun _ => hbody.again
  | endTag t =>
    refine .ite (fun _ => h.closeTemplate.done) fun _ => ?_
    exact .ite (fun _ => hbody.again) fun _ => (Leads.refl h).done
  | finish => exact hbody.again
  | comment => exact (Leads.refl h).done
  | doctype _ => exact hbody.again

/-! ## Lists of options -/

theorem Sound.popGroup : Leads d d.popGroup := by
  rw [Draft.popGroup]
  split
  · next hx => exact h.popTag hx (by decide)
  · exact .refl h

theorem Sound.closeGroup : Leads d d.closeGroup := by
  rw [Draft.closeGroup]
  split
  · next i j l hl =>
    split
    · next hboth =>
      obtain ⟨hi, hj⟩ := Bool.and_eq_true_iff.mp hboth
      have hpopped := h.popTag (currentIs_iff.mpr ⟨i, _, hl, hi⟩) (by decide)
      refine hpopped.trans (hpopped.sound.popTag (currentIs_iff.mpr ⟨j, l, ?_, hj⟩) (by decide))
      rw [Draft.pop, hl, List.tail_cons]
    · exact h.popGroup
  · exact h.popGroup

theorem Sound.inSelect : Comes u d (d.inSelect u) := by
  have hclose (hopen : d.hasTag .select "select" = true) : Leads d d.closeSelect :=
    h.closeSelect (exists_of_inScope hopen)
  cases u with
  | character c =>
    exact .done (.ite (fun _ => (Leads.refl h).ends) fun _ => (h.insertCharacter c).ends)
  | startTag t =>
    refine .ite (fun _ => h.mergeRoot.done) fun _ => ?_
    refine .ite (fun hname => ?_) fun _ => ?_
    · exact (h.popOption.trans (h.popOption.sound.openTag (hname ▸ by decide))).done
    refine .ite (fun hname => ?_) fun _ => ?_
    · have hpopped := h.popOption.trans h.popOption.sound.popGroup
      exact (hpopped.trans (hpopped.sound.openTag (hname ▸ by decide))).done
    refine .ite (fun _ => .done (.ite (fun hopen => (hclose hopen).ends)
      fun _ => (Leads.refl h).ends)) fun _ => ?_
    refine .ite (fun _ => .ite (fun hopen => (hclose hopen).again)
      fun _ => (Leads.refl h).done) fun _ => ?_
    refine .ite (fun hname => (h.openHeadTag ?_).done) fun _ => (Leads.refl h).done
    rcases hname with hname | hname <;> exact hname ▸ by decide
  | endTag t =>
    refine .ite (fun _ => h.closeGroup.done) fun _ => ?_
    refine .ite (fun _ => h.popOption.done) fun _ => ?_
    refine .ite (fun _ => .done (.ite (fun hopen => (hclose hopen).ends)
      fun _ => (Leads.refl h).ends)) fun _ => ?_
    exact .ite (fun _ => h.closeTemplate.done) fun _ => (Leads.refl h).done
  | finish => exact inBody_finish h
  | comment => exact (Leads.refl h).done
  | doctype _ => exact (Leads.refl h).done

theorem Sound.inSelectInTable (hmode : d.mode = .selectInTable) :
    Comes u d (d.inSelectInTable u) := by
  have hclose : Leads d d.closeSelect := by
    obtain ⟨x, hx, hin⟩ := h.mode.anchored (hmode ▸ by decide)
    exact h.closeSelect ⟨x, hx, isTag_iff_isIn.mpr (hin.mono (hmode ▸ by decide))⟩
  cases u with
  | startTag t => exact .ite (fun _ => hclose.again) fun _ => h.inSelect
  | endTag t =>
    exact .ite (fun _ => .ite (fun _ => hclose.again) fun _ => (Leads.refl h).done)
      fun _ => h.inSelect
  | character c => exact h.inSelect
  | finish => exact h.inSelect
  | comment => exact h.inSelect
  | doctype _ => exact h.inSelect

/-! ## Templates -/

/-- The content of a template is read on in another mode. -/
theorem Sound.turn (hmode : d.mode = .template) (hm : m ∈ contentModes) :
    Leads d { d with templateModes := m :: d.templateModes.tail, mode := m } := by
  obtain ⟨i, hi, hin⟩ := h.mode.anchored (hmode ▸ by decide)
  refine h.retune rfl rfl rfl (fun _ hk => .inl hk) (fun _ hy => .inl hy)
    (.of_content hm hi (hin.mono (hmode ▸ by decide))) fun m' hm' => ?_
  rcases List.mem_cons.mp hm' with rfl | hm'
  · exact hm
  · exact h.templates m' (List.mem_of_mem_tail hm')

theorem Sound.inTemplate (hmode : d.mode = .template) : Comes u d (d.inTemplate u) := by
  have hgo {m : Mode} (hm : m ∈ contentModes) :
      Comes u d (.again { d with templateModes := m :: d.templateModes.tail, mode := m }) :=
    (h.turn hmode hm).again
  have hbody (hend : ∀ t, u ≠ .endTag t) : Comes u d (d.inBody u) :=
    h.inBody (fun tag htag => (by decide : ∀ tag ∈ anchors .template, tag ∈ fences) tag
      (hmode ▸ htag)) fun t ht => absurd ht (hend t)
  cases u with
  | startTag t =>
    refine .ite (fun hname => (h.openHeadTag (.tail _ (List.contains_iff_mem.mp hname))).done)
      fun _ => ?_
    refine .ite (fun _ => hgo (by decide)) fun _ => ?_
    refine .ite (fun _ => hgo (by decide)) fun _ => ?_
    refine .ite (fun _ => hgo (by decide)) fun _ => ?_
    exact .ite (fun _ => hgo (by decide)) fun _ => hgo (by decide)
  | endTag t =>
    exact .done (.ite (fun _ => h.closeTemplate.ends) fun _ => (Leads.refl h).ends)
  | finish => exact h.comes_abandonTemplate
  | character c => exact hbody fun _ ht => nomatch ht
  | comment => exact hbody fun _ ht => nomatch ht
  | doctype _ => exact hbody fun _ ht => nomatch ht

/-! ## After the body -/

theorem Sound.inAfterBody : Comes u d (d.inAfterBody u) := by
  have hbody : Leads d (d.enter .body) := h.enter (.of_free (by decide))
  cases u with
  | character c => exact .ite (fun _ => (h.flow c).done) fun _ => hbody.again
  | startTag t => exact .ite (fun _ => h.mergeRoot.done) fun _ => hbody.again
  | endTag t =>
    exact .ite (fun _ => (h.enter (.of_free (by decide))).done) fun _ => hbody.again
  | finish => exact (Leads.refl h).done
  | comment => exact (Leads.refl h).done
  | doctype _ => exact (Leads.refl h).done

theorem Sound.closeFrameset (hmode : anchors d.mode = []) : Leads d d.closeFrameset := by
  rw [Draft.closeFrameset]
  split
  · exact .refl h
  · next hlong =>
    obtain ⟨i, l, hl⟩ := List.exists_cons_of_ne_nil h.stack_ne_nil
    have hne : l ≠ [] := by
      rintro rfl
      simp [hl] at hlong
    dsimp only
    split
    · rw [Draft.pop, hl, List.tail_cons]
      exact h.drop (a := [i]) hl hne fun j _ => by simp [hmode, IsIn]
    · exact h.leaveCurrent hl hne (by decide)

theorem Sound.inFrameset (hmode : anchors d.mode = []) : Comes u d (d.inFrameset u) := by
  cases u with
  | character c =>
    exact .done (.ite (fun _ => (h.insertCharacter c).ends) fun _ => (Leads.refl h).ends)
  | startTag t =>
    refine .done (.ite (fun _ => h.mergeRoot.ends) fun _ => ?_)
    refine .ite (fun hname => (h.openTag (hname ▸ by decide)).ends) fun _ => ?_
    refine .ite (fun hname => (h.insertEmpty (hname ▸ by decide)).ends) fun _ => ?_
    exact .ite (fun hname => (h.openHeadTag (hname ▸ by decide)).ends) fun _ => (Leads.refl h).ends
  | endTag t =>
    exact .done (.ite (fun _ => (h.closeFrameset hmode).ends) fun _ => (Leads.refl h).ends)
  | finish => exact (Leads.refl h).done
  | comment => exact (Leads.refl h).done
  | doctype _ => exact (Leads.refl h).done

theorem Sound.inAfterFrameset : Comes u d (d.inAfterFrameset u) := by
  cases u with
  | character c =>
    refine .ite (fun _ => .done ?_) fun _ => (Leads.refl h).done
    exact .ite (fun _ => (h.insertCharacter c).ends) fun _ => (h.flow c).ends
  | startTag t =>
    refine .done (.ite (fun _ => h.mergeRoot.ends) fun _ => ?_)
    exact .ite (fun hname => (h.openHeadTag (hname ▸ by decide)).ends) fun _ => (Leads.refl h).ends
  | endTag t =>
    exact .done (.ite (fun _ => (h.enter (.of_free (by decide))).ends)
      fun _ => (Leads.refl h).ends)
  | finish => exact (Leads.refl h).done
  | comment => exact (Leads.refl h).done
  | doctype _ => exact (Leads.refl h).done

end

end PluginRelease.Html.Draft
