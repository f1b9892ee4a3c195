import PluginRelease.Proofs.Html.Draft.Head

/-!
The rules for running text: what its start tags close and open, and what its end tags close.
-/
namespace PluginRelease.Html.Draft
variable {d e : Draft} {i j k x : Nat} {a l : List Nat} {t : Tag} {u : Token} {tag : String}
  {tags : List String} {s : ElementName.Scope} {space : Space}

theorem impliedEnds_not_pillar : ∀ tag ∈ ElementName.impliedEnds, tag ∉ pillars := by decide

theorem Flows.of_mode (h : Flows d) (he : e.mode = d.mode) : Flows e := by
  rwa [Flows, he]

theorem mode_openTag (d : Draft) (t : Tag) : (d.openTag t).mode = d.mode :=
  (Rewired.insertElement d (.html t.name) t.attributes).mode

/-! ## Closing -/

section
variable (h : Sound d) (hflows : Flows d)
include h hflows

theorem Sound.closeParagraph (hopen : d.hasTag .button "p" = true) : Leads d d.closeParagraph :=
  h.popThroughTag_implyEnds hflows (by decide) hopen (by decide) (by decide)

theorem Sound.closeParagraphInScope : Leads d d.closeParagraphInScope := by
  rw [Draft.closeParagraphInScope]
  split
  · next hopen => exact h.closeParagraph hflows hopen
  · exact .refl h

theorem Sound.closeTag (htag : tag ∉ fences) (himplied : tag ∉ ElementName.impliedEnds) :
    Leads d (d.closeTag .default tag) := by
  rw [Draft.closeTag]
  split
  · next hopen => exact h.popThroughTag_implyEnds hflows (by decide) hopen himplied htag
  · exact .refl h

theorem Sound.closeItem (htag : tag ∈ ["li", "dd", "dt"]) : Leads d (d.closeItem tag) := by
  rw [Draft.closeItem]
  have hscope : (if tag = "li" then ElementName.Scope.listItem else .default) ∈ scopes := by
    split <;> decide
  generalize (if tag = "li" then ElementName.Scope.listItem else .default) = s at *
  split
  · next hopen =>
    exact h.popThroughTag_implyEnds hflows hscope hopen (not_mem_impliedEnds_except tag)
      ((by decide : ∀ tag ∈ ["li", "dd", "dt"], tag ∉ fences) tag htag)
  · exact .refl h

theorem Sound.closeHeading : Leads d d.closeHeading := by
  rw [Draft.closeHeading]
  split
  · next hopen =>
    obtain ⟨a, x, l, hl, hx, ha, hleads⟩ := h.close_in_scope hflows (by decide) hopen fun i hi =>
      (is_isOneOf_iff.mp hi).not_of_disjoint (by decide)
    have hstay : d.is (!·.isOneOf ElementName.impliedEnds) x = true := by
      have hheading := is_isOneOf_iff.mp hx
      exact (is_not_isOneOf_iff hheading.isSome).mpr (hheading.not_of_disjoint (by decide))
    rwa [Draft.implyEnds, popThrough_popTo_eq hl hx ha hstay]
  · exact .refl h

/-- The end of a paragraph that is not open opens one first. -/
theorem Sound.closeParagraphTag : Leads d d.closeParagraphTag := by
  rw [Draft.closeParagraphTag]
  split
  · next hopen => exact h.closeParagraph hflows hopen
  · have hopened := h.openTag (t := .plain "p") (by decide)
    refine hopened.trans (hopened.sound.closeParagraph (hflows.of_mode (mode_openTag d _)) ?_)
    rw [hasTag, inScope, h.stack_openTag, scopeContains, Bool.or_eq_true]
    exact .inl (isTag_iff.mpr (h.name?_openTag _))

end

/-! ## Opening -/

theorem currentIs_iff {r : ElementName → Bool} :
    d.currentIs r = true ↔ ∃ i l, d.stack = i :: l ∧ d.is r i = true := by
  rw [currentIs, current?]
  cases d.stack with
  | nil => simp
  | cons i l => simp

/-- What stops the search for an item to close is no pillar before the item is found. -/
theorem not_pillar_of_not_wall
    (hi : d.is (fun n => n.isSpecial && !n.isOneOf ["address", "div", "p"]) i = false) :
    ¬ d.IsIn pillars i := by
  rintro ⟨tag, htag, hn⟩
  have hwall : ∀ tag ∈ pillars, ((ElementName.html tag).isSpecial &&
      !(ElementName.html tag).isOneOf ["address", "div", "p"]) = true := by decide
  rw [is, hn, Option.any_some, hwall tag htag] at hi
  cases hi

section
variable (h : Sound d)
include h

/-- The current element is closed. -/
theorem Sound.pop (hx : d.currentIn tags = true) (htags : ∀ tag ∈ tags, tag ∉ pillars) :
    Leads d d.pop := by
  obtain ⟨i, l, hl, hin⟩ := currentIs_iff.mp hx
  rw [Draft.pop, hl, List.tail_cons]
  refine h.drop_through (a := []) hl (by simp) ((is_isOneOf_iff.mp hin).not_of_disjoint ?_)
  intro tag htag hmem
  rcases List.mem_cons.mp hmem with rfl | hmem
  · exact htags _ htag (by decide)
  · exact htags tag htag (anchors_subset_pillars _ tag hmem)

theorem Sound.popTag (hx : d.currentIsTag tag = true) (htag : tag ∉ pillars) : Leads d d.pop := by
  obtain ⟨i, l, hl, hin⟩ := currentIs_iff.mp hx
  have hcurrent : d.currentIn [tag] = true :=
    currentIs_iff.mpr ⟨i, l, hl, is_isOneOf_iff.mpr (isTag_iff_isIn.mp hin)⟩
  exact h.pop hcurrent (by simpa using htag)

theorem Sound.popOption : Leads d d.popOption := by
  rw [Draft.popOption]
  split
  · next hx => exact h.popTag hx (by decide)
  · exact .refl h

theorem Sound.flow (c : Char) : Leads d (d.flow c) := by
  have hagain := h.reconstruct
  rw [Draft.flow]
  split
  · exact .refl h
  · dsimp only
    split
    · exact hagain.trans (hagain.sound.insertCharacter c)
    · have hshown := hagain.trans hagain.sound.noFrames
      exact hshown.trans (hshown.sound.insertCharacter c)

theorem Sound.mergeBody : Leads d (d.mergeBody t) := by
  rw [Draft.mergeBody]
  split
  · next i hi =>
    split
    · exact .refl h
    · have hbody : d.isTag "body" i = true := by
        rw [body?] at hi
        split at hi
        · split at hi
          · next hbody => exact Option.some.inj hi ▸ hbody
          · cases hi
        · cases hi
      exact h.noFrames.trans (h.noFrames.sound.addMissing
        ((isTag_iff_isIn.mp hbody).mono (by decide)) t.attributes)
  · exact .refl h

theorem Sound.openForeign (hspace : space ≠ .html) : Leads d (d.openForeign space tag t) := by
  have hother (tags : List String) : ∀ other ∈ tags, ElementName.mk space tag ≠ .html other := by
    rintro other - heq
    exact hspace (congrArg ElementName.space heq)
  rw [Draft.openForeign]
  split
  · exact h.insertElement (hother _) _
  · exact h.openElement (hother _) _

theorem Sound.openRuby (container : List String) (ht : t.name ∉ partTags) :
    Leads d (d.openRuby t container) := by
  have hclosed : Leads d (if d.hasTag .default "ruby" then
      d.implyEnds (ElementName.impliedEnds.filter (!container.contains ·)) else d) := by
    split
    · exact h.implyEnds fun tag htag => impliedEnds_not_pillar tag (List.mem_of_mem_filter htag)
    · exact .refl h
  exact hclosed.trans (hclosed.sound.openTag ht)

theorem Sound.flowEmpty (ht : t.name ∉ reservedTags) : Leads d (d.flowEmpty t) :=
  h.reconstruct.trans (h.reconstruct.sound.insertEmpty ht)

end

section
variable (h : Sound d) (hflows : Flows d)
include h hflows

theorem Sound.openBlock (ht : t.name ∉ partTags) : Leads d (d.openBlock t) := by
  have hclosed := h.closeParagraphInScope hflows
  exact hclosed.trans (hclosed.sound.openTag ht)

theorem Sound.openHeading (ht : t.name ∉ partTags) : Leads d (d.openHeading t) := by
  have hclosed := h.closeParagraphInScope hflows
  rw [Draft.openHeading]
  split
  · next hheading =>
    have hpopped := hclosed.trans (hclosed.sound.pop hheading (by decide))
    exact hpopped.trans (hpopped.sound.openTag ht)
  · exact hclosed.trans (hclosed.sound.openTag ht)

/-- A new item closes the one before it. -/
theorem Sound.openItem (ht : t.name ∉ partTags) : Leads d (d.openItem t) := by
  have hopen {e : Draft} (he : Leads d e) (hmode : e.mode = d.mode) :
      Leads d (e.closeParagraphInScope.openTag t) := by
    have hclosed := he.trans (he.sound.closeParagraphInScope (hflows.of_mode hmode))
    exact hclosed.trans (hclosed.sound.openTag ht)
  rw [Draft.openItem]
  generalize hclosing : (if t.name = "li" then ["li"] else ["dd", "dt"]) = closing
  have hitem : ∀ tag ∈ closing, tag ∉ pillars := by
    rw [← hclosing]
    split <;> decide
  dsimp only
  split
  · next n hn =>
    obtain ⟨i, hi, hn⟩ := Option.bind_eq_some_iff.mp hn
    split
    · next hclose =>
      obtain ⟨tag, htag, rfl⟩ := isOneOf_iff.mp hclose
      obtain ⟨-, a, l, hl, ha⟩ := List.find?_eq_some_iff_append.mp hi
      have hnone (j : Nat) (hj : j ∈ a) : d.is (·.isOneOf closing) j = false ∧
          d.is (fun n => n.isSpecial && !n.isOneOf ["address", "div", "p"]) j = false := by
        simpa using ha j hj
      have hx : d.isTag tag i = true := isTag_iff.mpr hn
      have htagged (j : Nat) (hj : j ∈ a) : d.isTag tag j = false := by
        rw [Bool.eq_false_iff]
        intro hj'
        have hin := is_isOneOf_iff.mpr (.of_name? (isTag_iff.mp hj') htag)
        rw [(hnone j hj).1] at hin
        cases hin
      have hclosed := h.drop_through hl
        (fun j hj hin => not_pillar_of_not_wall (hnone j hj).2
          (hin.mono (anchors_subset_pillars _)))
        (fun hin => ?_)
      · have heq : (d.noFrames.implyEndsExcept tag).popThroughTag tag =
            { d.noFrames with stack := l } :=
          popThroughTag_implyEnds_eq (d := d.noFrames) hl hx htagged (not_mem_impliedEnds_except tag)
        refine hopen ?_ ?_
        · exact heq ▸ hclosed.trans hclosed.sound.noFrames
        · exact heq ▸ rfl
      · have hmem := (isIn_iff_of_name? hn).mp hin
        rcases List.mem_cons.mp hmem with rfl | hmem
        · exact hitem _ htag (by decide)
        · exact hitem tag htag (anchors_subset_pillars _ tag hmem)
    · exact hopen h.noFrames rfl
  · exact hopen h.noFrames rfl

/-- The form that controls belong to from now on is open. -/
theorem Sound.openForm (ht : t.name = "form") : Leads d (d.openForm t) := by
  rw [Draft.openForm]
  split
  · exact .refl h
  · have hclosed := h.closeParagraphInScope hflows
    have hopened := hclosed.sound.openTag (t := t) (ht ▸ by decide)
    dsimp only
    split
    · exact hclosed.trans hopened
    · refine hclosed.trans (hopened.trans (hopened.sound.retune rfl rfl rfl (fun k hk => .inr ?_)
        (fun _ hy => .inl hy) hopened.sound.mode hopened.sound.templates))
      rw [current?, hclosed.sound.stack_openTag] at hk
      obtain rfl := Option.some.inj hk
      refine ⟨.of_name? (hclosed.sound.name?_openTag t) (List.mem_singleton.mpr ht), .inl ?_⟩
      rw [hclosed.sound.stack_openTag]
      exact .head _

end

end PluginRelease.Html.Draft
