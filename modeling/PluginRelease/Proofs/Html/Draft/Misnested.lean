import PluginRelease.Proofs.Html.Draft.Splitting

/-!
End tags that come in the wrong order: those of formatting elements, and those without rules of
their own.
-/
namespace PluginRelease.Html.Draft
variable {d e : Draft} {i j k x : Nat} {a l : List Nat} {t : Tag} {f : Format} {tag : String}
  {tags : List String}

theorem pillars_subset_special : ∀ tag ∈ pillars, tag ∈ ElementName.special := by decide

theorem not_pillar_of_not_special (hi : d.is ElementName.isSpecial i = false) :
    ¬ d.IsIn pillars i := by
  intro hin
  have hspecial : d.is ElementName.isSpecial i = true :=
    is_isOneOf_iff.mpr (hin.mono pillars_subset_special)
  rw [hi] at hspecial
  cases hspecial

theorem not_anchor_of_not_special (hi : d.is ElementName.isSpecial i = false) :
    ¬ d.IsIn (anchors d.mode) i := fun hin =>
  not_pillar_of_not_special hi (hin.mono (anchors_subset_pillars _))

/-- The nearest element with a tag is closed, if no special element is open in it. -/
theorem Sound.closeOther (h : Sound d) (hhtml : tag ≠ "html") (htag : tag ∉ anchors d.mode) :
    Leads d (d.closeOther tag) := by
  rw [Draft.closeOther]
  dsimp only
  split
  · exact .refl h
  · next i hi =>
    split
    · next htagged =>
      obtain ⟨-, a, l, hl, ha⟩ := List.find?_eq_some_iff_append.mp hi
      have hnone (j : Nat) (hj : j ∈ a) :
          d.isTag tag j = false ∧ d.is ElementName.isSpecial j = false := by
        simpa using ha j hj
      have hstay : d.is (!·.isOneOf (ElementName.impliedEnds.filter (· ≠ tag))) i = true :=
        (is_not_isOneOf_iff (isTag_iff_isIn.mp htagged).isSome).mpr fun hin =>
          not_mem_impliedEnds_except tag ((isIn_iff_of_name? (isTag_iff.mp htagged)).mp hin)
      obtain ⟨b, hb, -⟩ := exists_dropWhile_append
        (!d.is (!·.isOneOf (ElementName.impliedEnds.filter (· ≠ tag))) ·) (a := a) (l := l)
        (x := i) (by rw [hstay]; rfl)
      have hstack : (d.implyEndsExcept tag).stack = b ++ i :: l := by
        rw [implyEndsExcept, Draft.implyEnds, Draft.popTo, hl]
        exact hb
      have himplied : Leads d (d.implyEnds (ElementName.impliedEnds.filter (· ≠ tag))) :=
        h.implyEnds fun tag' htag' => (by decide : ∀ tag ∈ ElementName.impliedEnds, tag ∉ pillars) tag'
          (List.mem_of_mem_filter htag')
      have hnodup : (b ++ i :: l).Nodup := by
        have hnodup := himplied.sound.stacked.nodup
        rwa [← hstack]
      rw [hstack, dropWhile_ne_append_cons hnodup]
      refine h.drop_through hl (fun j hj => not_anchor_of_not_special (hnone j hj).2) fun hin => ?_
      have hmem := (isIn_iff_of_name? (isTag_iff.mp htagged)).mp hin
      exact (List.mem_cons.mp hmem).elim hhtml htag
    · exact .refl h

theorem formatTags_not_anchor (m : Mode) (htag : tag ∈ formatTags) : tag ∉ anchors m := fun hin =>
  formatTags_not_pillar tag htag (anchors_subset_pillars m tag hin)

section
variable (h : Sound d)
include h

/-- A formatting element is closed with what is open in it, if that is nothing special. -/
theorem Sound.drop_format (hi : d.IsIn formatTags i) (hl : d.stack = a ++ i :: l)
    (ha : ∀ j ∈ a, d.is ElementName.isSpecial j = false) : Leads d { d with stack := l } := by
  refine h.drop_through hl (fun j hj => not_anchor_of_not_special (ha j hj)) ?_
  refine hi.not_of_disjoint fun tag htag hmem => ?_
  rcases List.mem_cons.mp hmem with rfl | hmem
  · exact absurd htag (by decide)
  · exact formatTags_not_anchor _ htag hmem

theorem Sound.closeFormatOnce (htag : tag ∈ formatTags) :
    Leads d (d.closeFormatOnce tag).1 := by
  rw [Draft.closeFormatOnce]
  split
  · refine h.closeOther ?_ (formatTags_not_anchor _ htag)
    rintro rfl
    exact absurd htag (by decide)
  · next f hf =>
    have hmem : some f ∈ d.formatting := mem_of_mem_recentFormats (List.mem_of_find?_eq_some hf)
    obtain ⟨hn, ht⟩ := h.formats f.1 f.2 hmem
    have hi : d.IsIn formatTags f.1 := .of_name? hn ht
    split
    · exact h.removeFormat _
    · split
      · exact .refl h
      · next hscope =>
        have hscope : d.scopeContains .default (· = f.1) d.stack = true := by simpa using hscope
        obtain ⟨a, x, l, hl, hx, ha⟩ := h.exists_in_scope (by decide) hscope fun j hj => by
          obtain rfl : j = f.1 := by simpa using hj
          exact hi.not_of_disjoint (by decide)
        obtain rfl : x = f.1 := by simpa using hx
        have hnodup : (a ++ f.1 :: l).Nodup := hl ▸ h.stacked.nodup
        rw [hl, takeWhile_ne_append_cons hnodup, dropWhile_ne_append_cons hnodup]
        dsimp only
        split
        · next hnone =>
          have hleads := h.drop_format hi hl fun j hj => by
            simpa using List.find?_eq_none.mp hnone j (List.mem_reverse.mpr hj)
          exact hleads.trans (hleads.sound.removeFormat f.1)
        · next block hblock =>
          obtain ⟨-, mid, above, hsplit, hmid⟩ := List.find?_eq_some_iff_append.mp hblock
          have ha' : a = above.reverse ++ block :: mid.reverse := by
            rw [← List.reverse_reverse a, hsplit]
            simp
          subst ha'
          have hstack : d.stack = above.reverse ++ block :: (mid.reverse ++ f.1 :: l) := by
            simpa using hl
          refine h.splitAround hmem hstack (fun b hb => (ha b hb).2) fun b hb => not_pillar_of_not_special ?_
          simpa using hmid b (List.mem_reverse.mp hb)

theorem Sound.closeFormatRounds (htag : tag ∈ formatTags) (rounds : Nat) :
    Leads d (closeFormatRounds tag rounds d) := by
  induction rounds generalizing d with
  | zero => exact .refl h
  | succ rounds ih =>
    have honce := h.closeFormatOnce htag
    rw [Draft.closeFormatRounds]
    split
    · next e hrest =>
      rw [hrest] at honce
      exact honce.trans (ih honce.sound)
    · next e hrest =>
      rw [hrest] at honce
      exact honce

theorem Sound.closeFormat (htag : tag ∈ formatTags) : Leads d (d.closeFormat tag) := by
  rw [Draft.closeFormat]
  split
  · next i hi =>
    split
    · next hunknown =>
      have htagged := (Bool.and_eq_true_iff.mp hunknown).1
      obtain ⟨l, hl⟩ := List.head?_eq_some_iff.mp hi
      have hleads := h.drop_format (a := []) (.of_name? (isTag_iff.mp htagged) htag) hl (by simp)
      rwa [pop, hl, List.tail_cons]
    · exact h.closeFormatRounds htag 8
  · exact .refl h

/-- A link closes the one that is open. -/
theorem Sound.openLink (ht : t.name = "a") : Leads d (d.openLink t) := by
  have hopen {e : Draft} (he : Leads d e) : Leads d (e.reconstruct.openFormat t) := by
    have hagain := he.trans he.sound.reconstruct
    exact hagain.trans (hagain.sound.openFormat (ht ▸ by decide))
  rw [Draft.openLink]
  split
  · next f hf =>
    have htagged : d.isTag "a" f.1 = true := by simpa using List.find?_some hf
    have hi : d.IsIn ["a"] f.1 := isTag_iff_isIn.mp htagged
    have hclosed : Leads d (d.closeFormat "a") := h.closeFormat (by decide)
    have hremoved := hclosed.trans (hclosed.sound.removeFormat f.1)
    refine hopen (hremoved.trans (hremoved.sound.close ?_))
    exact ((hremoved.keeps.isIn_iff hi.lt_size).mpr hi).not_of_disjoint (by decide)
  · exact hopen (.refl h)

theorem Sound.openUnbroken (ht : t.name = "nobr") : Leads d (d.openUnbroken t) := by
  have hagain := h.reconstruct
  have hopen {e : Draft} (he : Leads d e) : Leads d (e.openFormat t) :=
    he.trans (he.sound.openFormat (ht ▸ by decide))
  rw [Draft.openUnbroken]
  split
  · have hclosed : Leads d (d.reconstruct.closeFormat "nobr") :=
      hagain.trans (hagain.sound.closeFormat (by decide))
    exact hopen (hclosed.trans hclosed.sound.reconstruct)
  · exact hopen hagain

end

end PluginRelease.Html.Draft
