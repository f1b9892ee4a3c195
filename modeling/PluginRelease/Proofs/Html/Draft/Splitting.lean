import PluginRelease.Proofs.Html.Draft.Formatting

/-!
The end tag of a formatting element, step by step. What is open between the element and a block in
it is closed or copied, the block climbs up the copies, and what it holds comes into one more copy.
-/
namespace PluginRelease.Html.Draft
variable {d e : Draft} {i j k p x b last : Nat} {a l mid below rest copies : List Nat} {t : Tag}
  {f : Format} {tag : String} {name : ElementName} {place : Place}

theorem not_mem_of_nodup_middle (h : (a ++ i :: l).Nodup) : i ∉ a ∧ i ∉ l := by
  have hi := (List.nodup_cons.mp (List.nodup_middle.mp h)).1
  rwa [List.mem_append, not_or] at hi

theorem filter_ne_append_cons (h : (a ++ i :: l).Nodup) :
    (a ++ i :: l).filter (· ≠ i) = a ++ l := by
  obtain ⟨ha, hl⟩ := not_mem_of_nodup_middle h
  have hkept {m : List Nat} (hm : i ∉ m) : m.filter (· ≠ i) = m :=
    List.filter_eq_self.mpr fun b hb => by simpa using fun heq : b = i => hm (heq ▸ hb)
  rw [List.filter_append, List.filter_cons_of_neg (by simp), hkept ha, hkept hl]

theorem map_replace_append_cons (h : (a ++ i :: l).Nodup) (j : Nat) :
    (a ++ i :: l).map (fun y => if y = i then j else y) = a ++ j :: l := by
  obtain ⟨ha, hl⟩ := not_mem_of_nodup_middle h
  have hkept {m : List Nat} (hm : i ∉ m) : m.map (fun y => if y = i then j else y) = m :=
    (List.map_congr_left fun b hb => if_neg fun heq : b = i => hm (heq ▸ hb)).trans (List.map_id' m)
  rw [List.map_append, List.map_cons, if_pos rfl, hkept ha, hkept hl]

/-- Part of a split: some of what is open between the element and the block has been copied. -/
structure Copied (d e : Draft) (a : List Nat) (x : Nat) (copies rest : List Nat) : Prop where
  keeps : Keeps d e
  linked : Linked e
  stack : e.stack = a ++ x :: (copies ++ rest)
  nodup : e.stack.Nodup
  lt : ∀ b ∈ e.stack, b < e.entries.size
  parent : ∀ b < d.entries.size, b ≠ x → e.parent? b = d.parent? b
  fresh : ∀ b ∈ copies, d.entries.size ≤ b
  new : ∀ b c, d.entries.size ≤ b → e.content? b = some c → e.IsIn formatTags b
  inside : ∀ b, d.entries.size ≤ b → e.inside? b = none
  formats : Formatted e
  form : e.form = d.form
  mode : e.mode = d.mode
  templateModes : e.templateModes = d.templateModes
  fostering : e.fostering = d.fostering

namespace Copied

theorem start (h : Sound d) (hstack : d.stack = a ++ x :: rest) : Copied d d a x [] rest where
  keeps := .refl d
  linked := h.linked
  stack := hstack
  nodup := h.stacked.nodup
  lt _ hb := h.lt_of_mem hb
  parent _ _ _ := rfl
  fresh := by simp
  new b c hb hc := absurd (lt_of_content? hc) (Nat.not_lt.mpr hb)
  inside b hb := by
    cases hr : d.inside? b with
    | none => rfl
    | some r => exact absurd (lt_of_inside? hr) (Nat.not_lt.mpr hb)
  formats := h.formats
  form := rfl
  mode := rfl
  templateModes := rfl
  fostering := rfl

section
variable (h : Copied d e a x copies (i :: rest))
include h

theorem stack_append : e.stack = (a ++ x :: copies) ++ i :: rest := by
  rw [h.stack, List.append_assoc, List.cons_append]

theorem nodup_append : ((a ++ x :: copies) ++ i :: rest).Nodup := h.stack_append ▸ h.nodup

theorem stack_replaced (j : Nat) :
    (e.stack.map fun y => if y = i then j else y) = (a ++ x :: copies) ++ j :: rest := by
  rw [h.stack_append, map_replace_append_cons h.nodup_append]

/-- An element in between is closed. -/
theorem close {formatting : List (Option Format)} (hsub : ∀ y ∈ formatting, y ∈ e.formatting) :
    Copied d (({ e with formatting } : Draft).close i) a x copies rest where
  keeps := h.keeps.congr rfl rfl
  linked := Linked.congr (d := e) rfl h.linked
  stack := by
    rw [Draft.close]
    dsimp only
    rw [h.stack_append, filter_ne_append_cons h.nodup_append, List.append_assoc, List.cons_append]
  nodup := h.nodup.filter _
  lt b hb := h.lt b (List.mem_of_mem_filter hb)
  parent := h.parent
  fresh := h.fresh
  new := h.new
  inside := h.inside
  formats := h.formats.congr (fun _ _ => rfl) fun y hy => .inl (hsub y hy)
  form := h.form
  mode := h.mode
  templateModes := h.templateModes
  fostering := h.fostering

/-- An element in between is replaced by a copy, which is not yet put anywhere. -/
theorem copy (ht : t.name ∈ formatTags) {m : Draft}
    (hm : m = ((e.add (.element (.html t.name) t.attributes)).1.replaceOpen i
      e.entries.size).replaceFormat i (e.entries.size, t)) :
    Copied d m a x (copies ++ [e.entries.size]) rest where
  keeps := by
    have hmade := Made.add h.linked (.element (.html t.name) t.attributes)
    exact (h.keeps.trans hmade.keeps).congr (hm ▸ rfl) (hm ▸ rfl)
  linked := by
    subst hm
    exact Linked.congr (d := (e.add _).1) rfl (h.linked.add _)
  stack := by
    have hstack : m.stack = (a ++ x :: copies) ++ e.entries.size :: rest :=
      hm ▸ h.stack_replaced e.entries.size
    rw [hstack]
    simp
  nodup := by
    have hstack : m.stack = (a ++ x :: copies) ++ e.entries.size :: rest :=
      hm ▸ h.stack_replaced e.entries.size
    rw [hstack, List.nodup_middle, List.nodup_cons]
    refine ⟨fun hmem => Nat.lt_irrefl e.entries.size (h.lt _ ?_),
      (List.nodup_cons.mp (List.nodup_middle.mp h.nodup_append)).2⟩
    rw [h.stack_append]
    exact (List.Sublist.append_left (List.sublist_cons_self i rest) _).subset hmem
  lt b hb := by
    subst hm
    have hsize := size_add e (.element (.html t.name) t.attributes)
    obtain ⟨y, hy, rfl⟩ := List.mem_map.mp hb
    change _ < (e.add _).1.entries.size
    rw [hsize]
    split
    · exact Nat.lt_succ_self _
    · exact Nat.lt_succ_of_lt (h.lt y hy)
  parent b hb hbx := by
    subst hm
    exact (parent?_add e _ b).trans (h.parent b hb hbx)
  fresh b hb := by
    rcases List.mem_append.mp hb with hb | hb
    · exact h.fresh b hb
    · exact List.mem_singleton.mp hb ▸ h.keeps.size_le
  new b c hb hc := by
    subst hm
    change (e.add _).1.content? b = some c at hc
    change (e.add _).1.IsIn formatTags b
    rw [content?_add] at hc
    by_cases hbe : b = e.entries.size
    · refine .of_name? (name?_eq_some_iff.mpr ⟨t.attributes, ?_⟩) ht
      rw [content?_add, if_pos hbe]
    · rw [if_neg hbe] at hc
      exact ((Made.add h.linked _).keeps.isIn_iff (lt_of_content? hc)).mpr (h.new b c hb hc)
  inside b hb := by
    subst hm
    exact (inside?_add e _ b).trans (h.inside b hb)
  formats := by
    have hmade := Made.add h.linked (.element (.html t.name) t.attributes)
    subst hm
    refine h.formats.congr (fun b hb => hmade.keeps.name? hb) fun y hy => ?_
    refine (mem_of_mem_replaceFormat hy).imp_right fun heq => ⟨_, t, heq, ?_, ht⟩
    exact name?_eq_some_iff.mpr ⟨t.attributes, hmade.content⟩
  form := hm ▸ h.form
  mode := hm ▸ h.mode
  templateModes := hm ▸ h.templateModes
  fostering := hm ▸ h.fostering

end

theorem congr {e' : Draft} (h : Copied d e a x copies rest) (hrewired : Rewired e e')
    (hlinked : Linked e') (hsize : e'.entries.size = e.entries.size)
    (hcontent : ∀ b, e'.content? b = e.content? b) (hinside : ∀ b, e'.inside? b = e.inside? b)
    (hparent : ∀ b < d.entries.size, b ≠ x → e'.parent? b = d.parent? b) :
    Copied d e' a x copies rest := by
  obtain ⟨entries, rfl⟩ := hrewired
  have hkeeps : Keeps e { e with entries } :=
    ⟨Nat.le_of_eq hsize.symm, fun b _ => by rw [lasting?, hcontent, lasting?],
      fun b _ => hinside b, rfl⟩
  refine ⟨h.keeps.trans hkeeps, hlinked, h.stack, h.nodup, fun b hb => hsize ▸ h.lt b hb,
    hparent, h.fresh, fun b c hb hc => ?_, fun b hb => (hinside b).trans (h.inside b hb),
    h.formats.congr (fun b hb => hkeeps.name? hb) fun y hy => .inl hy, h.form, h.mode,
    h.templateModes, h.fostering⟩
  rw [hcontent] at hc
  exact (hkeeps.isIn_iff (lt_of_content? hc)).mpr (h.new b c hb hc)

section
variable (h : Copied d e a x copies rest)
include h

theorem mem_stack (hb : b ∈ x :: copies) : b ∈ e.stack := by
  rw [h.stack]
  refine List.mem_append_right _ ?_
  rcases List.mem_cons.mp hb with rfl | hb
  · exact .head _
  · exact .tail _ (List.mem_append_left _ hb)

theorem nodup_copies : (x :: copies).Nodup := by
  have hnodup := h.nodup
  rw [h.stack, ← List.cons_append] at hnodup
  exact (List.nodup_append.mp (List.nodup_append.mp hnodup).2.1).1

theorem parent?_move (hlast : last ∈ x :: copies) (place : Place) (b : Nat) :
    ((e.detach last).attach last place).parent? b =
      if b = last then some place.parent else e.parent? b := by
  rw [parent?_attach (by simpa using h.lt last (h.mem_stack hlast)), parent?_detach]
  split <;> rfl

/-- The block, or a copy, is put somewhere. -/
theorem move (hlast : last ∈ x :: copies) (hp : place.parent < e.entries.size)
    (hholds : ∀ s, e.content? place.parent ≠ some (.text s)) :
    Copied d ((e.detach last).attach last place) a x copies rest := by
  have hlt := h.lt last (h.mem_stack hlast)
  have hfree : (e.detach last).parent? last = none := by rw [parent?_detach, if_pos rfl]
  refine h.congr ((Rewired.detach e last).trans (.attach _ last place)) ?_ (by simp) (by simp)
    (by simp) fun b hb hbx => ?_
  · exact (h.linked.detach last).attach (by simpa using hlt) hfree (by simpa using hp)
      (by simpa using hholds)
  · rw [h.parent?_move hlast, if_neg, h.parent b hb hbx]
    rintro rfl
    rcases List.mem_cons.mp hlast with rfl | hlast
    · exact hbx rfl
    · exact Nat.not_lt.mpr (h.fresh b hlast) hb

/-- What has climbed up goes on climbing once the last of it finds its place. -/
theorem climbs_move {init : List Nat} (hinit : init ++ [last] <+: x :: copies)
    (hclimbs : Climbs e last init) (place : Place) :
    Climbs ((e.detach last).attach last place) place.parent (init ++ [last]) := by
  have hlast : last ∈ x :: copies := hinit.subset (by simp)
  have hnodup : (init ++ [last]).Nodup := hinit.sublist.nodup h.nodup_copies
  refine Climbs.concat (hclimbs.congr fun b hb => ?_) ?_
  · rw [h.parent?_move hlast, if_neg]
    rintro rfl
    exact (List.nodup_append.mp hnodup).2.2 b hb b (by simp) rfl
  · rw [h.parent?_move hlast, if_pos rfl]

end

end Copied

/-! ## Climbing up the copies -/

/-- Part of a split: the block has climbed up the copies made so far; the last of these, or else the
block itself, is yet to find its place. -/
structure Climbing (d : Draft) (s : Split) (a : List Nat) (x : Nat) (copies rest : List Nat) :
    Prop where
  copied : Copied d s.draft a x copies rest
  climbs : ∃ init, x :: copies = init ++ [s.last] ∧ Climbs s.draft s.last init

namespace Climbing
variable {s : Split}

theorem step (h : Climbing d s a x copies (i :: rest)) (block count : Nat) :
    ∃ copies', Climbing d (splitStep block s (count, i)) a x copies' rest := by
  obtain ⟨init, hinit, hclimbs⟩ := h.climbs
  rw [splitStep]
  dsimp only
  split
  · have hclosed : Copied d (s.draft.close i) a x copies rest := h.copied.close fun _ hy => hy
    exact ⟨copies, hclosed, init, hinit, hclimbs.congr fun _ _ => rfl⟩
  · next f t hfind =>
    have hmem : some (f, t) ∈ s.draft.formatting := by
      obtain ⟨y, hy, heq⟩ := List.mem_filterMap.mp (List.mem_of_find?_eq_some hfind)
      obtain rfl : y = some (f, t) := heq
      exact hy
    have ht := (h.copied.formats f t hmem).2
    split
    · exact ⟨copies, h.copied.close fun _ hy => mem_of_mem_removeFormat hy, init, hinit,
        hclimbs.congr fun _ _ => rfl⟩
    · have hname : ElementName.html t.name ≠ .html "template" :=
        html_ne_of_not_mem (formatTags_not_pillar _ ht) _ (by decide)
      rw [create_eq, if_neg hname, add_snd]
      generalize hm : ((s.draft.add (.element (.html t.name) t.attributes)).1.replaceOpen i
        s.draft.entries.size).replaceFormat i (s.draft.entries.size, t) = m
      have hcopied := h.copied.copy ht hm.symm
      have hnew : m.content? s.draft.entries.size =
          some (.element (.html t.name) t.attributes) := by
        subst hm
        exact (content?_add _ _ _).trans (if_pos rfl)
      have hstart : init ++ [s.last] <+: x :: (copies ++ [s.draft.entries.size]) :=
        ⟨[s.draft.entries.size], by rw [← hinit]; rfl⟩
      have hmoved : Copied d ((m.detach s.last).attach s.last (.last s.draft.entries.size)) a x
          (copies ++ [s.draft.entries.size]) rest := by
        refine hcopied.move (hstart.subset (by simp)) (lt_of_content? hnew) fun text htext => ?_
        rw [Place.parent, hnew] at htext
        cases htext
      refine ⟨copies ++ [s.draft.entries.size], hmoved, init ++ [s.last], by rw [← hinit]; rfl,
        hcopied.climbs_move hstart (hclimbs.congr fun b _ => ?_) (.last s.draft.entries.size)⟩
      subst hm
      exact parent?_add _ _ b

theorem fold (h : Climbing d s a x copies (mid ++ rest)) (block n : Nat) :
    ∃ copies', Climbing d ((mid.zipIdx n).foldl (fun s y => splitStep block s (y.2, y.1)) s)
      a x copies' rest := by
  induction mid generalizing s copies n with
  | nil => exact ⟨copies, h⟩
  | cons i mid ih =>
    obtain ⟨copies', hstep⟩ := h.step block n
    rw [List.zipIdx_cons, List.foldl_cons]
    exact ih hstep (n + 1)

end Climbing

/-! ## One more copy for what the block holds -/

/-- What a node holds comes into a new node, which is all that it then holds. -/
def wrap (d : Draft) (i : Nat) (c : Content) : Draft :=
  ((d.add c).1.moveChildren i d.entries.size).attach d.entries.size (.last i)

theorem Rewired.wrap (d : Draft) (i : Nat) (c : Content) : Rewired d (d.wrap i c) :=
  (Rewired.add d c).trans ((Rewired.moveChildren _ i _).trans (.attach _ _ _))

section
variable (d) (i : Nat) (c : Content)

theorem size_wrap : (d.wrap i c).entries.size = d.entries.size + 1 := by
  rw [wrap, size_attach, moveChildren_eq, moveAll_fixed (·.entries.size) (by simp), size_add]

theorem content?_wrap (b : Nat) :
    (d.wrap i c).content? b = if b = d.entries.size then some c else d.content? b := by
  rw [wrap, content?_attach, moveChildren_eq, moveAll_fixed (·.content? b) (by simp), content?_add]

theorem inside?_wrap (b : Nat) : (d.wrap i c).inside? b = d.inside? b := by
  rw [wrap, inside?_attach, moveChildren_eq, moveAll_fixed (·.inside? b) (by simp), inside?_add]

end

section
variable {c : Content} (h : Linked d)
include h

theorem lt_of_mem_children_add : ∀ b ∈ ((d.add c).1.children i).toList,
    b < (d.add c).1.entries.size :=
  fun b hb => lt_of_parent? (((h.add c).mem_children_iff i b).mp hb)

theorem parent?_wrap (b : Nat) : (d.wrap i c).parent? b =
    if b = d.entries.size then some i
    else if d.parent? b = some i then some d.entries.size else d.parent? b := by
  have hsize : d.entries.size < ((d.add c).1.moveChildren i d.entries.size).entries.size := by
    rw [moveChildren_eq, moveAll_fixed (·.entries.size) (by simp), size_add]
    exact Nat.lt_succ_self _
  rw [wrap, parent?_attach hsize, moveChildren_eq, parent?_moveAll (lt_of_mem_children_add h)]
  simp only [(h.add c).mem_children_iff, parent?_add, Place.parent]

theorem Linked.wrap (hi : i < d.entries.size) (htext : ∀ s, d.content? i ≠ some (.text s))
    (hc : ∀ s, c ≠ .text s) : Linked (d.wrap i c) := by
  have hnew : (d.add c).1.content? d.entries.size = some c := by rw [content?_add, if_pos rfl]
  have hmoved : Linked ((d.add c).1.moveChildren i d.entries.size) := by
    rw [moveChildren_eq]
    refine (h.add c).moveAll (lt_of_mem_children_add h) (by simp) fun s hs => ?_
    exact hc s (Option.some.inj (hnew.symm.trans hs))
  refine hmoved.attach ?_ ?_ ?_ fun s hs => ?_
  · rw [moveChildren_eq, moveAll_fixed (·.entries.size) (by simp), size_add]
    exact Nat.lt_succ_self _
  · rw [moveChildren_eq, parent?_moveAll (lt_of_mem_children_add h)]
    simp only [(h.add c).mem_children_iff, parent?_add, parent?_of_le (Nat.le_refl d.entries.size)]
    rfl
  · rw [moveChildren_eq, moveAll_fixed (·.entries.size) (by simp), size_add]
    exact Nat.lt_succ_of_lt hi
  · rw [moveChildren_eq, moveAll_fixed (·.content? _) (by simp), Place.parent, content?_add,
      if_neg (Nat.ne_of_lt hi)] at hs
    exact htext s hs

end

/-! ## The split as a whole -/

theorem formatTags_not_fence : ∀ tag ∈ formatTags, tag ∉ ["template", "table"] := by decide

theorem fosterPlace_append (ha : ∀ i ∈ a, ¬ d.IsIn ["template", "table"] i) (hl : l ≠ []) :
    d.fosterPlace (a ++ l) = d.fosterPlace l := by
  induction a with
  | nil => rfl
  | cons i a ih =>
    have hi := ha i (.head _)
    rw [List.cons_append, fosterPlace_cons (by simp [hl]) (fun ht => hi (ht.mono (by simp)))
      (fun ht => hi (ht.mono (by simp))), ih fun j hj => ha j (.tail _ hj)]

/-- The place in an open element is the one that content had while it was the current one. -/
theorem placeIn_headD (hstack : d.stack = a ++ l)
    (ha : ∀ i ∈ a, ¬ d.IsIn ["template", "table"] i) (hl : l ≠ []) :
    d.placeIn (l.headD pageRoot) = d.placeBy l := by
  rw [placeIn, hstack, fosterPlace_append ha hl]
  cases l with
  | nil => exact absurd rfl hl
  | cons i l => rfl

theorem Keeps.wrap {c : Content} : Keeps d (d.wrap i c) := by
  refine ⟨?_, fun b hb => ?_, fun b _ => inside?_wrap d i c b, (Rewired.wrap d i c).head⟩
  · rw [size_wrap]
    exact Nat.le_succ _
  · rw [lasting?, content?_wrap, if_neg (Nat.ne_of_lt hb), lasting?]

/-- The new place of a block is not the block. -/
theorem Site.ne_block (hsite : Site d below p) (h : Stacked d (a ++ x :: (mid ++ below))) :
    p ≠ x := by
  have hstands := h.stands
  rintro rfl
  refine hsite.outside p (not_root_of_isSome hstands.element) (fun s hs => ?_) .refl
  exact (hstands.order s (by simp [hs])).1

section
variable (h : Sound d) (hstack : d.stack = a ++ x :: (mid ++ i :: below))
  (hfences : ∀ b ∈ a ++ x :: mid, ¬ d.IsIn fences b)
  (hplain : ∀ b ∈ mid, ¬ d.IsIn pillars b) (hi : d.IsIn formatTags i)
include h hstack hfences hplain hi

theorem Copied.splits {e' : Draft} (hcopied : Copied d e a x copies (i :: below))
    (hclimbs : Climbs e p (x :: copies)) (hsite : Site d below p) (ht : t.name ∈ formatTags)
    (hentries : e'.entries = (e.wrap x (.element (.html t.name) t.attributes)).entries)
    (hhead : e'.head = e.head) (hstack' : e'.stack = a ++ e.entries.size :: x :: (copies ++ below)) :
    Splits d e' a (mid ++ [i]) below x e.entries.size p copies := by
  have hkeeps : Keeps e e' := Keeps.wrap.congr hentries (hhead.trans Keeps.wrap.head.symm)
  have hlt {b : Nat} (hb : b < d.entries.size) : b < e.entries.size :=
    Nat.lt_of_lt_of_le hb hcopied.keeps.size_le
  have hx : x < d.entries.size := h.lt_of_mem (hstack ▸ by simp)
  have hstacked : Stacked d (a ++ x :: ((mid ++ [i]) ++ below)) := by
    simpa [hstack] using h.stacked
  have hparent (b : Nat) : e'.parent? b = if b = e.entries.size then some x
      else if e.parent? b = some x then some e.entries.size else e.parent? b := by
    rw [parent?_congr hentries, parent?_wrap hcopied.linked]
  have hsame (b : Nat) (hb : b < d.entries.size) (hbx : b ≠ x) : e'.parent? b =
      if d.parent? b = some x then some e.entries.size else d.parent? b := by
    rw [hparent, if_neg (Nat.ne_of_lt (hlt hb)), hcopied.parent b hb hbx]
  have hcontent (b : Nat) : e'.content? b = if b = e.entries.size then
      some (.element (.html t.name) t.attributes) else e.content? b := by
    rw [content?_congr hentries, content?_wrap]
  exact {
    before := h
    keeps := hcopied.keeps.trans hkeeps
    linked := by
      refine Linked.congr hentries (hcopied.linked.wrap (hlt hx) (fun s hs => ?_) (by simp))
      obtain ⟨s', hs'⟩ := (hcopied.keeps.text_iff hx).mp ⟨s, hs⟩
      have helement := (hstack ▸ h.stacked : Stacked d _).stands.element
      simp [name?, hs'] at helement
    stack_before := by simpa using hstack
    stack_after := hstack'
    mid_format := ⟨i, by simp, hi⟩
    below_ne_nil := by
      have hne := h.ne_nil_of_stack (a := a ++ x :: mid) (x := i) (l := below) (by simpa using hstack)
      exact hne (hi.not_of_disjoint (by decide))
    above_plain := fun b hb ht => hfences b (by simp [hb]) (ht.mono (by decide))
    mid_plain := by
      intro b hb
      rcases List.mem_append.mp hb with hb | hb
      · exact hplain b hb
      · exact List.mem_singleton.mp hb ▸ hi.not_of_disjoint formatTags_not_pillar
    block := hfences x (by simp)
    site := hsite
    parent := fun b hb hbx hp => (hsame b hb hbx).trans (if_neg hp)
    moved := fun b hb hbx hp => (hsame b hb hbx).trans (if_pos hp)
    copy_parent := (hparent _).trans (if_pos rfl)
    climbs := by
      refine hclimbs.congr fun b hb => ?_
      have hbx : e.parent? b ≠ some x := fun hp =>
        (hclimbs.parent_mem hb hp).elim (List.nodup_cons.mp hcopied.nodup_copies).1
          (hsite.ne_block hstacked).symm
      rw [hparent, if_neg (Nat.ne_of_lt (hcopied.lt b (hcopied.mem_stack hb))), if_neg hbx]
    fresh := by
      intro b hb
      rcases List.mem_cons.mp hb with rfl | hb
      · exact hcopied.keeps.size_le
      · exact hcopied.fresh b hb
    nodup := by
      refine List.nodup_cons.mpr ⟨fun hmem => ?_, (List.nodup_cons.mp hcopied.nodup_copies).2⟩
      exact Nat.lt_irrefl _ (hcopied.lt _ (hcopied.mem_stack (.tail _ hmem)))
    new := by
      intro b c hb hc
      rw [hcontent] at hc
      split at hc
      · next hbe =>
        refine .of_name? (name?_eq_some_iff.mpr ⟨t.attributes, ?_⟩) ht
        rw [hcontent, if_pos hbe]
      · exact (hkeeps.isIn_iff (lt_of_content? hc)).mpr (hcopied.new b c hb hc)
    inside := by
      intro b hb
      rw [inside?_congr hentries, inside?_wrap]
      exact hcopied.inside b hb }

omit hplain in
/-- The place that the block, or the last copy, gets. -/
theorem Copied.place_eq (hcopied : Copied d e a x copies (i :: below)) (hlast : last ∈ x :: copies) :
    (e.detach last).placeIn (below.headD pageRoot) = d.placeBy below := by
  have hbelow : below ≠ [] := by
    have hne := h.ne_nil_of_stack (a := a ++ x :: mid) (x := i) (l := below) (by simpa using hstack)
    exact hne (hi.not_of_disjoint (by decide))
  have hrewired := Rewired.detach e last
  have hkeeps : Keeps d (e.detach last) := by
    refine hcopied.keeps.trans ⟨by simp, fun b _ => ?_, fun b _ => by simp, hrewired.head⟩
    rw [lasting?, content?_detach, lasting?]
  have hstack' : (e.detach last).stack = (a ++ x :: (copies ++ [i])) ++ below := by
    rw [hrewired.stack]
    simpa using hcopied.stack
  have hfostering := hrewired.fostering.trans hcopied.fostering
  have hmem {b : Nat} (hb : b ∈ below) : b ∈ d.stack := hstack ▸ by simp [hb]
  rw [placeIn_headD hstack' (fun b hb => ?_) hbelow]
  · refine placeBy_congr hfostering fun b hb => ?_
    have hlt := h.lt_of_mem (hmem hb)
    have hbx : b ≠ x := by
      rintro rfl
      exact ((hstack ▸ h.stacked : Stacked d _).stands.order b (by simp [hb])).1 .refl
    refine ⟨hkeeps.name? hlt, ?_, hkeeps.inside b hlt⟩
    rw [parent?_detach, if_neg, hcopied.parent b hlt hbx]
    rintro rfl
    rcases List.mem_cons.mp hlast with rfl | hcopy
    · exact hbx rfl
    · exact Nat.not_lt.mpr (hcopied.fresh b hcopy) hlt
  · -- What is open above the formatting element is a copy, or no fence.
    intro hin
    rcases Nat.lt_or_ge b d.entries.size with hlt | hge
    · rw [hkeeps.isIn_iff hlt] at hin
      have hb : b ∈ a ++ x :: mid ∨ b = i ∨ b ∈ copies := by
        simp only [List.mem_append, List.mem_cons, List.not_mem_nil, or_false] at hb ⊢
        tauto
      rcases hb with hb | rfl | hb
      · exact hfences b hb (hin.mono (by decide))
      · exact hi.not_of_disjoint (by decide) hin
      · exact Nat.not_lt.mpr (hcopied.fresh b hb) hlt
    · obtain ⟨tag, htag, hn⟩ := hin
      rw [name?, content?_detach, ← name?] at hn
      obtain ⟨attributes, hc⟩ := name?_eq_some_iff.mp hn
      have hformat := (isIn_iff_of_name? hn).mp (hcopied.new b _ hge hc)
      exact absurd htag (formatTags_not_fence tag hformat)

theorem Copied.leads {w : Draft} (hcopied : Copied d e a x copies (i :: below))
    (hclimbs : Climbs e p (x :: copies)) (hsite : Site d below p) (ht : t.name ∈ formatTags)
    (hw : w = e.wrap x (.element (.html t.name) t.attributes)) {formatting : List (Option Format)}
    (hformatting : ∀ y ∈ formatting, y ∈ e.formatting ∨ y = some (e.entries.size, t)) :
    Leads d { w with formatting, stack := a ++ e.entries.size :: x :: (copies ++ below) } := by
  have hrewired : Rewired e w := hw ▸ .wrap e x _
  have hformatted : Formatted { w with formatting, stack :=
      a ++ e.entries.size :: x :: (copies ++ below) } := by
    refine hcopied.formats.congr (fun b hb => ?_) fun y hy => ?_
    · exact (hw ▸ Keeps.wrap : Keeps e w).name? hb
    · refine (hformatting y hy).imp_right fun heq => ⟨_, t, heq, ?_, ht⟩
      refine name?_eq_some_iff.mpr ⟨t.attributes, ?_⟩
      have hcontent := content?_wrap e x (.element (.html t.name) t.attributes) e.entries.size
      rw [← hw, if_pos rfl] at hcontent
      exact hcontent
  have hsplits : Splits d { w with formatting, stack := a ++ e.entries.size :: x :: (copies ++ below) }
      a (mid ++ [i]) below x e.entries.size p copies :=
    Copied.splits h hstack hfences hplain hi hcopied hclimbs hsite ht (hw ▸ rfl) hrewired.head rfl
  exact hsplits.leads (hrewired.form.trans hcopied.form) (hrewired.mode.trans hcopied.mode)
    (hrewired.templateModes.trans hcopied.templateModes) hformatted

end

theorem takeWhile_ne_append_cons (h : (a ++ i :: l).Nodup) :
    (a ++ i :: l).takeWhile (· ≠ i) = a := by
  have ha := (not_mem_of_nodup_middle h).1
  rw [List.takeWhile_append_of_pos, List.takeWhile_cons_of_neg (by simp), List.append_nil]
  simpa using fun b hb => (fun heq : b = i => ha (heq ▸ hb))

theorem dropWhile_ne_append_cons (h : (a ++ i :: l).Nodup) :
    (a ++ i :: l).dropWhile (· ≠ i) = i :: l := by
  have ha := (not_mem_of_nodup_middle h).1
  refine dropWhile_append_cons (fun b hb => ?_) (by simp)
  simpa using fun heq : b = i => ha (heq ▸ hb)

/-- The formatting element is closed, and one more copy is open in the block. -/
theorem Copied.stack_closed (h : Copied d e a x copies (i :: below)) (j : Nat) :
    insertBefore (e.stack.filter (· ≠ i)) x j = a ++ j :: x :: (copies ++ below) := by
  have hnodup := h.nodup_append
  rw [h.stack_append, filter_ne_append_cons hnodup, List.append_assoc, List.cons_append]
  have hkept : (a ++ x :: (copies ++ below)).Nodup := by
    have hsub := (List.nodup_middle.mp hnodup).of_cons
    simpa using hsub
  rw [insertBefore, takeWhile_ne_append_cons hkept, dropWhile_ne_append_cons hkept]

theorem Sound.splitAround (h : Sound d) (hf : some f ∈ d.formatting)
    (hstack : d.stack = a ++ x :: (mid ++ f.1 :: below))
    (hfences : ∀ b ∈ a ++ x :: mid, ¬ d.IsIn fences b)
    (hplain : ∀ b ∈ mid, ¬ d.IsIn pillars b) : Leads d (d.splitAround f x) := by
  obtain ⟨hn, ht⟩ := h.formats f.1 f.2 hf
  have hi : d.IsIn formatTags f.1 := .of_name? hn ht
  have hstack' : d.stack = (a ++ x :: mid) ++ f.1 :: below := by simpa using hstack
  have hnodup : ((a ++ x :: mid) ++ f.1 :: below).Nodup := hstack' ▸ h.stacked.nodup
  have hsite : Site d below (d.placeBy below).parent := by
    have hstacked : Stacked d ((a ++ x :: mid) ++ f.1 :: below) := hstack' ▸ h.stacked
    have hne := h.ne_nil_of_stack hstack' (hi.not_of_disjoint (by decide))
    have hbottom := h.bottom_of_append (a := a ++ x :: (mid ++ [f.1])) (by simp [hstack]) hne
    exact site_placeBy h.grounded hstacked.drop.tail hbottom
  have hstart : Climbing d ⟨d, x, none⟩ a x [] (mid ++ f.1 :: below) :=
    ⟨.start h hstack, [], rfl, .nil⟩
  obtain ⟨copies, hcopied, init, hinit, hclimbs⟩ := hstart.fold x 0
  have hmid : (d.stack.takeWhile (· ≠ f.1)).dropWhile (· ≠ x) = x :: mid := by
    rw [hstack', takeWhile_ne_append_cons hnodup]
    exact dropWhile_ne_append_cons (List.nodup_append.mp hnodup).1
  have hbelow : d.stack.dropWhile (· ≠ f.1) = f.1 :: below := by
    rw [hstack', dropWhile_ne_append_cons hnodup]
  rw [Draft.splitAround]
  simp only [hmid, hbelow, List.tail_cons]
  generalize (mid.zipIdx 0).foldl (fun s y => splitStep x s (y.2, y.1)) ⟨d, x, none⟩ = s at *
  have hlast : s.last ∈ x :: copies := hinit ▸ by simp
  have hplace := hcopied.place_eq h hstack hfences hi hlast
  rw [hplace]
  have hp : (d.placeBy below).parent < s.draft.entries.size :=
    Nat.lt_of_lt_of_le hsite.lt_size hcopied.keeps.size_le
  have hmoved := hcopied.move hlast hp fun text htext => ?_
  · have hclimbed := hcopied.climbs_move (hinit ▸ List.prefix_refl _) hclimbs (d.placeBy below)
    rw [← hinit] at hclimbed
    generalize (s.draft.detach s.last).attach s.last (d.placeBy below) = e at *
    have hname : ElementName.html f.2.name ≠ .html "template" :=
      html_ne_of_not_mem (formatTags_not_pillar _ ht) _ (by decide)
    rw [create_eq, if_neg hname, add_snd]
    rw [← wrap]
    generalize hw : e.wrap x (.element (.html f.2.name) f.2.attributes) = w
    have hrewired : Rewired e w := hw ▸ .wrap e x _
    have hend {formatting : List (Option Format)}
        (hformatting : ∀ y ∈ formatting, y ∈ w.formatting ∨ y = some (e.entries.size, f.2)) :
        Leads d { w with formatting,
                         stack := insertBefore (w.stack.filter (· ≠ f.1)) x e.entries.size } := by
      rw [hrewired.stack, hmoved.stack_closed]
      rw [hrewired.formatting] at hformatting
      exact Copied.leads h hstack hfences hplain hi hmoved hclimbed hsite ht hw.symm hformatting
    split
    · exact hend fun y hy => mem_of_mem_replaceFormat hy
    · exact hend fun y hy => mem_of_mem_insertBeforeEntry (mem_of_mem_removeFormat hy)
  · obtain ⟨text', htext'⟩ := (hcopied.keeps.text_iff hsite.lt_size).mp ⟨text, htext⟩
    exact hsite.not_text text' htext'

end PluginRelease.Html.Draft
