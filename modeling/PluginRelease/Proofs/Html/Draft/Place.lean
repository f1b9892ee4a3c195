import PluginRelease.Proofs.Html.Draft.Leads

/-!
Where new content goes. Whether it is put into the current element or before a table, it stands in
the nearest form that is open, and in no form that is closed.
-/
namespace PluginRelease.Html.Draft
variable {d : Draft} {i j k p r : Nat} {l : List Nat} {tag : String} {tags : List String}

/-- A node that content is put into while some elements are open. -/
structure Site (d : Draft) (l : List Nat) (p : Nat) : Prop where
  holds : ∃ c, d.content? p = some c ∧ ∀ s, c ≠ .text s
  outside : ∀ k, d.content? k ≠ some .root → (∀ s ∈ l, ¬ Under d k s) → ¬ Under d k p
  inside : ∀ k, Nearest d k l → Under d (d.ground k) p

/-- Where content goes while some elements are open. -/
def placeBy (d : Draft) : List Nat → Place
  | [] => .last pageRoot
  | i :: l =>
    if d.fostering && d.is (·.isOneOf ElementName.tableParts) i then d.fosterPlace (i :: l)
    else if d.isTag "template" i then .last ((d.inside? i).getD i)
    else .last i

theorem place_eq (h : d.stack ≠ []) : d.place = d.placeBy d.stack := by
  obtain ⟨i, l, hstack⟩ := List.exists_cons_of_ne_nil h
  rw [place, current?, placeIn, hstack]
  rfl

/-- An element is there, and is no text. -/
theorem exists_holder (h : (d.name? i).isSome) : ∃ c, d.content? i = some c ∧ ∀ s, c ≠ .text s := by
  obtain ⟨n, attributes, hc⟩ := exists_content h
  exact ⟨_, hc, by simp⟩

/-- A site among fewer open elements. -/
theorem Site.cons (h : Site d l p) (hi : ¬ d.IsSolid i) : Site d (i :: l) p where
  holds := h.holds
  outside k hk hl := h.outside k hk fun s hs => hl s (.tail _ hs)
  inside k hk := h.inside k (hk.tail hi)

theorem site_current (h : Stacked d (i :: l)) (hi : ¬ d.IsIn ["template"] i) :
    Site d (i :: l) i where
  holds := exists_holder h.head.element
  outside k _ hl := hl i (.head _)
  inside k hk := by
    cases hk with
    | here hk =>
      rw [ground_of_form ((isSolid_iff.mp hk).resolve_right hi)]
      exact .refl
    | there _ hk => exact h.head.within hi k hk

section
variable (hg : Grounded d)
include hg

/-- What a template holds stands in no form. -/
theorem site_template (h : Stacked d (i :: l)) (hi : d.IsIn ["template"] i) :
    Site d (i :: l) ((d.inside? i).getD i) := by
  have hinside (k : Nat) (hk : Nearest d k (i :: l)) : Under d (d.ground k) ((d.inside? i).getD i) := by
    cases hk with
    | here _ =>
      rw [ground, if_pos (isTag_iff_isIn.mpr hi)]
      exact .refl
    | there hsolid _ => exact absurd (isSolid_iff.mpr (.inr hi)) hsolid
  cases hr : d.inside? i with
  | none =>
    rw [hr] at hinside
    exact ⟨exists_holder h.head.element, fun k _ hl => hl i (.head _), hinside⟩
  | some r =>
    rw [hr] at hinside
    have hroot := hg.inside i r hr
    refine ⟨⟨_, hroot, by simp⟩, fun k hk _ hkr => ?_, hinside⟩
    rw [Option.getD_some, under_of_free (hg.rooted.free r hroot)] at hkr
    exact hk (hkr ▸ hroot)

/-- The ground of a form or a template is no other element. -/
theorem ground_ne (hk : d.IsSolid k) (hi : (d.name? i).isSome) (hsolid : ¬ d.IsSolid i) :
    d.ground k ≠ i := by
  rintro rfl
  rw [ground] at hi hsolid
  split at hi
  · cases hr : d.inside? k with
    | none => simp_all
    | some r =>
      have hroot := hg.inside k r hr
      rw [hr, Option.getD_some, name?, hroot] at hi
      cases hi
  · next ht => exact hsolid (by rwa [if_neg ht])

theorem tail_ne_nil (hb : (i :: l).getLast? = some 1) (hi : ¬ d.IsIn ["html"] i) : l ≠ [] := by
  rintro rfl
  rw [List.getLast?_singleton] at hb
  exact hi ((hg.html_iff i).mpr (Option.some.inj hb))

theorem site_table (h : Stacked d (i :: l)) (hb : (i :: l).getLast? = some 1)
    (hi : d.IsIn ["table"] i) : Site d (i :: l) (d.fosterPlace (i :: l)).parent := by
  have hsolid : ¬ d.IsSolid i := hi.not_of_disjoint (by decide)
  have htemplate : ¬ d.IsIn ["template"] i := hi.not_of_disjoint (by decide)
  obtain ⟨j, l, rfl⟩ := List.exists_cons_of_ne_nil
    (tail_ne_nil hg hb (hi.not_of_disjoint (by decide)))
  rw [fosterPlace, if_neg (fun ht => htemplate (isTag_iff_isIn.mp ht)),
    if_pos (isTag_iff_isIn.mpr hi)]
  have hwithin (k : Nat) (hk : Nearest d k (i :: j :: l)) :
      i ≠ d.ground k ∧ Under d (d.ground k) i :=
    ⟨(ground_ne hg hk.isSolid hi.isSome hsolid).symm,
      h.head.within htemplate k (hk.tail hsolid)⟩
  cases hp : d.parent? i with
  | none =>
    refine ⟨exists_holder h.tail.head.element, fun k _ hl => hl j (.tail _ (.head _)), fun k hk => ?_⟩
    obtain ⟨hne, hki⟩ := hwithin k hk
    exact absurd ((under_of_free hp).mp hki) hne
  | some p =>
    have hlt := hg.rooted.linked.lt_parent hp
    refine ⟨?_, fun k _ hl hkp => hl i (.head _) (.step hp hkp), fun k hk => ?_⟩
    · cases hc : d.content? p with
      | none => exact absurd hlt (Nat.not_lt.mpr (content?_eq_none_iff.mp hc))
      | some c => exact ⟨c, hc, fun s hs => hg.rooted.linked.holds i p s hp (hs ▸ hc)⟩
    · obtain ⟨hne, hki⟩ := hwithin k hk
      exact ((under_step hp).mp hki).resolve_left hne

omit hg in
theorem fosterPlace_cons (hl : l ≠ []) (htemplate : ¬ d.IsIn ["template"] i)
    (htable : ¬ d.IsIn ["table"] i) : d.fosterPlace (i :: l) = d.fosterPlace l := by
  obtain ⟨j, l, rfl⟩ := List.exists_cons_of_ne_nil hl
  rw [fosterPlace, if_neg (by rwa [isTag_iff_isIn]), if_neg (by rwa [isTag_iff_isIn])]

/-- The holder of a section or of a row knows where content goes that is fostered. -/
theorem site_holder (h : Stacked d (i :: l)) (hb : (i :: l).getLast? = some 1)
    (hi : d.IsIn sectionHolders i) : Site d (i :: l) (d.fosterPlace (i :: l)).parent := by
  by_cases htable : d.IsIn ["table"] i
  · exact site_table hg h hb htable
  · by_cases htemplate : d.IsIn ["template"] i
    · obtain ⟨j, l, rfl⟩ := List.exists_cons_of_ne_nil
        (tail_ne_nil hg hb (htemplate.not_of_disjoint (by decide)))
      rw [fosterPlace, if_pos (isTag_iff_isIn.mpr htemplate)]
      exact site_template hg h htemplate
    · have hhtml : d.IsIn ["html"] i := by
        rw [sectionHolders, isIn_cons_cons, isIn_cons_cons] at hi
        exact (hi.resolve_left htable).resolve_left htemplate
      obtain rfl := (hg.html_iff i).mp hhtml
      obtain rfl := eq_nil_of_bottom h.nodup hb
      exact site_current h htemplate

theorem site_section (h : Stacked d (i :: l)) (hb : (i :: l).getLast? = some 1)
    (hi : d.IsIn ElementName.sections i) : Site d (i :: l) (d.fosterPlace (i :: l)).parent := by
  obtain ⟨j, l, rfl⟩ := List.exists_cons_of_ne_nil
    (tail_ne_nil hg hb (hi.not_of_disjoint (by decide)))
  rw [fosterPlace_cons (by simp) (hi.not_of_disjoint (by decide)) (hi.not_of_disjoint (by decide))]
  rw [List.getLast?_cons_cons] at hb
  exact (site_holder hg h.tail hb (h.head.tableSection hi j rfl)).cons
    (hi.not_of_disjoint (by decide))

theorem site_row (h : Stacked d (i :: l)) (hb : (i :: l).getLast? = some 1)
    (hi : d.IsIn ["tr"] i) : Site d (i :: l) (d.fosterPlace (i :: l)).parent := by
  obtain ⟨j, l, rfl⟩ := List.exists_cons_of_ne_nil
    (tail_ne_nil hg hb (hi.not_of_disjoint (by decide)))
  rw [fosterPlace_cons (by simp) (hi.not_of_disjoint (by decide)) (hi.not_of_disjoint (by decide))]
  rw [List.getLast?_cons_cons] at hb
  have hj := h.head.row hi j rfl
  refine Site.cons ?_ (hi.not_of_disjoint (by decide))
  by_cases hsection : d.IsIn ElementName.sections j
  · exact site_section hg h.tail hb hsection
  · rw [rowHolders, isIn_append] at hj
    exact site_holder hg h.tail hb ((hj.resolve_left hsection).mono (by decide))

theorem site_placeBy (h : Stacked d l) (hb : l.getLast? = some 1) :
    Site d l (d.placeBy l).parent := by
  cases l with
  | nil => cases hb
  | cons i l =>
    rw [placeBy]
    split
    · next hfoster =>
      have hpart := is_isOneOf_iff.mp (Bool.and_eq_true_iff.mp hfoster).2
      by_cases htable : d.IsIn ["table"] i
      · exact site_table hg h hb htable
      · by_cases hrow : d.IsIn ["tr"] i
        · exact site_row hg h hb hrow
        · have hparts : d.IsIn (["table"] ++ ElementName.sections ++ ["tr"]) i :=
            hpart.mono (by decide)
          rw [isIn_append, isIn_append] at hparts
          exact site_section hg h hb ((hparts.resolve_right hrow).resolve_left htable)
    · split
      · next htemplate => exact site_template hg h (isTag_iff_isIn.mp htemplate)
      · next htemplate => exact site_current h fun hi => htemplate (isTag_iff_isIn.mpr hi)

end

theorem Sound.site (h : Sound d) : Site d d.stack d.place.parent := by
  rw [place_eq h.stack_ne_nil]
  exact site_placeBy h.grounded h.stacked h.bottom

end PluginRelease.Html.Draft
