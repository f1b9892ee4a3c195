import PluginRelease.Proofs.Html.Draft.Settled

/-!
What belongs into the head of a page, wherever it stands. After the end of the head it still goes
there, which no form is around.
-/
namespace PluginRelease.Html.Draft
variable {d e : Draft} {i j k p h : Nat} {l : List Nat} {t : Tag} {u : Token} {place : Place}
  {name : ElementName} {attributes : List Attribute}

/-- What is done with an element of the head. -/
theorem openHeadTag_cases (d : Draft) (ht : t.name ∈ "noscript" :: headTags) :
    (∃ reading, t.name ∈ textTags ∧ t.name ≠ "textarea" ∧
        d.openHeadTag t = d.openText t reading) ∨
      t.name = "template" ∧ d.openHeadTag t = d.openTemplate t ∨
      t.name ∉ partTags ∧ d.openHeadTag t = d.insertEmpty t := by
  rw [openHeadTag]
  split
  · next hname => exact .inl ⟨_, hname ▸ by decide, hname ▸ by decide, rfl⟩
  split
  · next hname => exact .inl ⟨_, hname ▸ by decide, hname ▸ by decide, rfl⟩
  split
  · next hname =>
    have hname : t.name ∈ ["noframes", "noscript", "style"] := by simpa using hname
    have hall : ∀ tag ∈ ["noframes", "noscript", "style"], tag ∈ textTags ∧ tag ≠ "textarea" := by
      decide
    exact .inl ⟨_, (hall _ hname).1, (hall _ hname).2, rfl⟩
  split
  · next hname => exact .inr (.inl ⟨hname, rfl⟩)
  · exact .inr (.inr ⟨(by decide : ∀ tag ∈ "noscript" :: headTags, tag ∉ partTags) _ ht, rfl⟩)

theorem Sound.openHeadTag (hd : Sound d) (ht : t.name ∈ "noscript" :: headTags) :
    Reaches d (d.openHeadTag t) := by
  obtain ⟨reading, htext, hother, heq⟩ | ⟨htemplate, heq⟩ | ⟨hpart, heq⟩ := openHeadTag_cases d ht
  · exact heq ▸ hd.openText htext hother
  · exact heq ▸ (hd.openTemplate htemplate).reaches
  · exact heq ▸ (hd.insertEmpty fun hin => hpart
      ((by decide : ∀ tag ∈ reservedTags, tag ∈ partTags) _ hin)).reaches

/-! ## After the end of the head -/

theorem entries_create_congr (he : e.entries = d.entries) (name : ElementName)
    (attributes : List Attribute) :
    (e.create name attributes).1.entries = (d.create name attributes).1.entries := by
  rw [create_eq, create_eq]
  split <;> simp only [add, setInside, modify, he]

theorem entries_attach_congr (he : e.entries = d.entries) (i : Nat) (place : Place) :
    (e.attach i place).entries = (d.attach i place).entries := by
  cases place <;> simp only [attach, modify, he]

theorem Grown.of_create (hd : Linked d) (hp : place.parent < d.entries.size)
    (hholds : ∀ s, d.content? place.parent ≠ some (.text s)) (name : ElementName)
    (attributes : List Attribute) :
    Grown d ((d.create name attributes).1.attach d.entries.size place) d.entries.size
      place.parent :=
  .of_made (.create hd name attributes) (by simp) hp hholds

section
variable (hd : Sound d) (hh : d.head = some h)
include hd hh

theorem Sound.isIn_head : d.IsIn ["head"] h ∧ d.parent? h = some 1 := by
  obtain ⟨i, hi, hin⟩ := hd.grounded.head
  obtain rfl := Option.some.inj (hh.symm.trans hi)
  exact hin

/-- While the head is pushed for a moment, it is where content goes. -/
theorem Sound.insertElement_push (name : ElementName) (attributes : List Attribute) :
    (d.push h).insertElement name attributes =
      (((d.push h).create name attributes).1.attach d.entries.size (.last h), d.entries.size) := by
  have hin := (hd.isIn_head hh).1
  have hlinked : Linked (d.push h) := Linked.congr (d := d) rfl hd.linked
  have hkeeps := (Made.create hlinked name attributes).keeps
  have hstack := (Rewired.create (d.push h) name attributes).stack
  have hin' : ((d.push h).create name attributes).1.IsIn ["head"] h :=
    (hkeeps.isIn_iff hin.lt_size).mpr (hin.congr rfl)
  have hplace : ((d.push h).create name attributes).1.place = .last h := by
    rw [place, current?, hstack, push, List.head?_cons, Option.getD_some, placeIn,
      if_neg, if_neg]
    · exact fun htemplate => hin'.not_of_disjoint (by decide) (isTag_iff_isIn.mp htemplate)
    · rw [Bool.and_eq_true, is_isOneOf_iff]
      exact fun hpart => hin'.not_of_disjoint (by decide) hpart.2
  rw [← hplace, ← show ((d.push h).create name attributes).2 = d.entries.size from create_snd ..]
  rfl

/-- What is put into the head while that is pushed for a moment. -/
theorem Sound.grown_head (hentries : e.entries = ((d.push h).insertElement name attributes).1.entries)
    (hhead : e.head = d.head) : Grown (d.close h) e d.entries.size h := by
  have hin := (hd.isIn_head hh).1
  have hlinked : Linked (d.close h) := Linked.congr (d := d) rfl hd.linked
  have hgrown := @Grown.of_create (d.close h) (.last h) hlinked hin.lt_size (fun s hs => ?_) name
    attributes
  · refine hgrown.congr ?_ (hhead.trans hgrown.keeps.head.symm)
    rw [hentries, hd.insertElement_push hh]
    have hcreated : ((d.push h).create name attributes).1.entries =
        ((d.close h).create name attributes).1.entries :=
      entries_create_congr (d := d.close h) (e := d.push h) rfl name attributes
    exact entries_attach_congr hcreated _ _
  · obtain ⟨c, hc, htext⟩ := exists_holder hin.isSome
    exact htext s (Option.some.inj (hc.symm.trans hs))

theorem Sound.name?_head
    (hentries : e.entries = ((d.push h).insertElement name attributes).1.entries) :
    e.name? d.entries.size = some name := by
  refine name?_eq_some_iff.mpr ⟨attributes, ?_⟩
  rw [content?_congr hentries, hd.insertElement_push hh, content?_attach]
  have hlinked : Linked (d.push h) := Linked.congr (d := d) rfl hd.linked
  exact (Made.create hlinked name attributes).content

/-- No form is around the head. -/
theorem Sound.not_under_head (hk : d.IsIn ["form"] k) : ¬ Under d k h := by
  obtain ⟨hin, hparent⟩ := hd.isIn_head hh
  rw [under_step hparent, under_step hd.grounded.page, under_of_free hd.grounded.rooted.root_free]
  rintro (rfl | rfl | rfl)
  · exact hk.not_of_disjoint (by decide) hin
  · exact hk.not_of_disjoint (by decide) hd.isIn_one
  · exact hk.not_root hd.grounded.rooted.content

theorem Sound.close_head (hmode : "head" ∉ anchors d.mode) : Leads d (d.close h) := by
  have hin := (hd.isIn_head hh).1
  exact hd.close_of (hin.not_of_disjoint (by decide)) (hin.not_of_disjoint (by decide))
    (hin.not_of_disjoint fun tag htag hmem => hmode (List.mem_singleton.mp htag ▸ hmem))

variable (hmode : "head" ∉ anchors d.mode)
include hmode

/-- What is put into the head, and opened or not. -/
theorem Sound.leads_head (hentries : e.entries = ((d.push h).insertElement name attributes).1.entries)
    (hname : ∀ tag ∈ partTags, name ≠ .html tag)
    (he : Rewired (d.close h) { e with stack := (d.close h).stack })
    (hstack : e.stack = (d.close h).stack ∨
      name = .html "template" ∧ e.stack = d.entries.size :: (d.close h).stack) : Leads d e := by
  have hclosed := hd.close_head hh hmode
  have hd' := hclosed.sound
  have hg := hd.grown_head hh hentries he.head
  have hn := hd.name?_head hh hentries
  have hnot {tags : List String} (hsub : ∀ tag ∈ tags, tag ∈ partTags) :
      ¬ e.IsIn tags d.entries.size := by
    rintro ⟨tag, htag, htagged⟩
    exact hname tag (hsub tag htag) (Option.some.inj (hn.symm.trans htagged))
  have ho : Opened (d.close h) e d.entries.size h := by
    rcases hstack with hstack | ⟨htemplate, hstack⟩
    · exact .of_leaf hd' hg hstack
    · have hnew {j k : Nat} (hk : d.entries.size ≤ k) (hj : j ∈ (d.close h).stack) :
          ¬ Under e k j := hg.not_under_of_new hd'.linked (hd'.lt_of_mem hj) hk
      refine .of_open hd' hg hstack ⟨by simp [hn], fun j hj => ⟨hnew (Nat.le_refl _) hj,
        hnew hg.le_ground hj⟩, fun hin => absurd hin (hnot (by decide)),
        fun hin => absurd hin (hnot (by decide)), fun hin => absurd hin (hnot (by decide)),
        fun hother => absurd (.of_name? (htemplate ▸ hn) (by simp)) hother⟩ fun k hk _ => ?_
      exact hd'.not_under_head hh hk
  exact hclosed.trans (hd'.grow_other hg (hd.isIn_head hh).1.lt_size ho (hnot (by decide)) he.form
    he.formatting he.mode he.templateModes)

omit hmode in
theorem Sound.openTag_push (t : Tag) : ((d.push h).openTag t).close h =
    { d with entries := ((d.push h).insertElement (.html t.name) t.attributes).1.entries,
             stack := d.entries.size :: (d.close h).stack } := by
  obtain ⟨entries, he⟩ := Rewired.insertElement (d.push h) (.html t.name) t.attributes
  have hne : d.entries.size ≠ h := Nat.ne_of_gt (hd.isIn_head hh).1.lt_size
  have hnum : ((d.push h).insertElement (.html t.name) t.attributes).2 = d.entries.size := by
    rw [hd.insertElement_push hh]
  have hopen : (d.push h).openTag t =
      ((d.push h).insertElement (.html t.name) t.attributes).1.push
        ((d.push h).insertElement (.html t.name) t.attributes).2 := rfl
  rw [hopen, hnum, he]
  simp [push, Draft.close, hne]

omit hd hh hmode in
theorem rewired_closed (entries : Array Entry) :
    Rewired (d.close h) { d with entries, stack := (d.close h).stack } :=
  ⟨entries, rfl⟩

theorem Sound.text_head {reading : Reading} (ht : t.name ∈ textTags) (hother : t.name ≠ "textarea") :
    Reaches d (((d.push h).openText t reading).close h) := by
  have hpart : t.name ∉ partTags :=
    (by decide : ∀ tag ∈ textTags, tag ≠ "textarea" → tag ∉ partTags) _ ht hother
  have heq : ((d.push h).openText t reading).close h =
      { ((d.push h).openTag t).close h with mode := .text, returnMode := d.mode, reading } := rfl
  rw [hd.openTag_push hh t] at heq
  have hleaf := hd.leads_head (e := { d with
    entries := ((d.push h).insertElement (.html t.name) t.attributes).1.entries,
    stack := (d.close h).stack }) hh hmode rfl (html_ne_of_not_mem hpart) (rewired_closed _)
    (.inl rfl)
  have hleads := hleaf.trans (hleaf.sound.flags (e := (((d.push h).openText t reading).close h).settle)
    (heq ▸ rfl) (heq ▸ rfl) (heq ▸ rfl) (heq ▸ rfl) (heq ▸ rfl) (heq ▸ rfl) (heq ▸ rfl))
  refine ⟨⟨hleads.sound, fun _ => ?_, fun hm => ?_⟩, hleads⟩
  · rw [heq]
    exact ⟨_, _, rfl, .of_name? (hd.name?_head hh rfl) ht⟩
  · rw [heq] at hm
    cases hm

theorem Sound.template_head (ht : t.name = "template") :
    Leads d (((d.push h).openTemplate t).close h) := by
  have hopened := hd.leads_head (e := ((d.push h).openTag t).close h) hh hmode
    (by rw [hd.openTag_push hh t]) (html_ne_of_not_mem (ht ▸ by decide))
    (by rw [hd.openTag_push hh t]; exact rewired_closed _)
    (.inr ⟨congrArg _ ht, by rw [hd.openTag_push hh t]⟩)
  have hentered := hopened.sound.enterTemplate (i := d.entries.size)
    (by rw [hd.openTag_push hh t]; exact .head _)
    (.of_name? (hd.name?_head hh (by rw [hd.openTag_push hh t])) (List.mem_singleton.mpr ht))
  have hmodes : (((d.push h).openTag t).close h).templateModes = d.templateModes := by
    rw [hd.openTag_push hh t]
  rw [hmodes] at hentered
  exact hopened.trans hentered

theorem Sound.empty_head (ht : t.name ∉ partTags) :
    Leads d (((d.push h).insertEmpty t).close h) := by
  obtain ⟨entries, he⟩ := Rewired.insertEmpty (d.push h) t
  have hentries : (((d.push h).insertEmpty t).close h).entries =
      ((d.push h).insertElement (.html t.name) t.attributes).1.entries := rfl
  refine hd.leads_head hh hmode hentries (html_ne_of_not_mem ht) ?_ (.inl ?_)
  · rw [he]
    exact ⟨entries, rfl⟩
  · rw [he]
    simp [push, Draft.close]

end

/-- What belongs into the head goes there after its end. -/
theorem Sound.openLateHeadTag (hd : Sound d) (hmode : "head" ∉ anchors d.mode)
    (ht : t.name ∈ headTags) : Reaches d (d.openLateHeadTag t) := by
  obtain ⟨h, hh, -⟩ := hd.grounded.head
  rw [Draft.openLateHeadTag, hh]
  dsimp only
  obtain ⟨reading, htext, hother, heq⟩ | ⟨htemplate, heq⟩ | ⟨hpart, heq⟩ :=
    openHeadTag_cases (d.push h) (List.mem_cons_of_mem _ ht)
  · exact heq ▸ hd.text_head hh hmode htext hother
  · exact heq ▸ (hd.template_head hh hmode htemplate).reaches
  · exact heq ▸ (hd.empty_head hh hmode hpart).reaches

end PluginRelease.Html.Draft
