import PluginRelease.Proofs.Html.Draft.Split

/-!
How formatting elements are remembered, and opened again where text goes on.
-/
namespace PluginRelease.Html.Draft
variable {d e : Draft} {i j k b : Nat} {t : Tag} {f : Format}

/-! ## What is remembered -/

theorem Formatted.congr (h : Formatted d) (hname : ∀ i < d.entries.size, e.name? i = d.name? i)
    (hformats : ∀ x ∈ e.formatting, x ∈ d.formatting ∨ ∃ i t, x = some (i, t) ∧
      e.name? i = some (.html t.name) ∧ t.name ∈ formatTags) : Formatted e := by
  intro i t hit
  rcases hformats _ hit with hold | ⟨i', t', heq, hn⟩
  · obtain ⟨hn, htag⟩ := h i t hold
    exact ⟨(hname i (lt_of_name? hn)).trans hn, htag⟩
  · obtain ⟨rfl, rfl⟩ := Prod.mk.inj (Option.some.inj heq)
    exact hn

theorem mem_of_mem_removeFormat {y : Option Format} (h : y ∈ (d.removeFormat i).formatting) :
    y ∈ d.formatting :=
  List.mem_of_mem_filter h

theorem mem_of_mem_replaceFormat {y : Option Format}
    (h : y ∈ (d.replaceFormat i f).formatting) : y ∈ d.formatting ∨ y = some f := by
  obtain ⟨z, hz, rfl⟩ := List.mem_map.mp h
  split
  · exact .inr rfl
  · exact .inl hz

theorem mem_of_mem_insertBeforeEntry {l : List (Option Format)} {y : Option Format}
    (h : y ∈ insertBeforeEntry l b f) : y ∈ l ∨ y = some f := by
  rw [insertBeforeEntry, List.mem_append, List.mem_cons] at h
  rcases h with h | h | h
  · exact .inl ((List.takeWhile_sublist _).subset h)
  · exact .inr h
  · exact .inl ((List.dropWhile_sublist _).subset h)

/-- Other formatting elements are remembered. -/
theorem Sound.remember (h : Sound d) {formatting : List (Option Format)}
    (hformats : Formatted { d with formatting }) : Leads d { d with formatting } := by
  have he : Alike d { d with formatting } := .of_entries h.linked rfl rfl
  exact h.restack he h.stacked h.bottom (.refl _) (fun _ _ hk => .inl hk)
    (fun _ hk => .inl hk) hformats (h.mode.of_alike he fun _ hi _ => hi) h.templates

theorem Sound.forget (h : Sound d) {formatting : List (Option Format)}
    (hsub : ∀ y ∈ formatting, y ∈ d.formatting) : Leads d { d with formatting } :=
  h.remember fun i t hit => h.formats i t (hsub _ hit)

theorem Sound.removeFormat (h : Sound d) (i : Nat) : Leads d (d.removeFormat i) :=
  h.forget fun _ => mem_of_mem_removeFormat

theorem Sound.mark (h : Sound d) : Leads d d.mark :=
  h.remember fun i t hit => h.formats i t ((List.mem_cons.mp hit).resolve_left (by simp))

theorem mem_of_mem_recentFormats (h : f ∈ d.recentFormats) : some f ∈ d.formatting := by
  obtain ⟨y, hy, heq⟩ := List.mem_filterMap.mp h
  obtain rfl : y = some f := heq
  exact (List.takeWhile_sublist _).subset hy

/-! ## Opening -/

theorem Sound.stack_openTag (h : Sound d) (t : Tag) :
    (d.openTag t).stack = d.entries.size :: d.stack := by
  have hstack := (Rewired.insertElement d (.html t.name) t.attributes).stack
  rw [h.insertElement_eq] at hstack
  rw [Draft.openTag, Draft.openElement, h.insertElement_eq]
  exact congrArg _ hstack

theorem Sound.name?_openTag (h : Sound d) (t : Tag) :
    (d.openTag t).name? d.entries.size = some (.html t.name) := by
  have hn := h.name?_insertElement (.html t.name) t.attributes
  rw [Draft.openTag, Draft.openElement, h.insertElement_eq]
  rwa [h.insertElement_eq] at hn

theorem formatTags_not_part : ∀ tag ∈ formatTags, tag ∉ partTags := by decide

theorem formatTags_not_pillar : ∀ tag ∈ formatTags, tag ∉ pillars := by decide

theorem Sound.openFormat (h : Sound d) (ht : t.name ∈ formatTags) : Leads d (d.openFormat t) := by
  have hroom : Leads d (d.makeRoom t) := by
    unfold makeRoom
    dsimp only
    split
    · split
      · exact h.removeFormat _
      · exact .refl h
    · exact .refl h
  have h' := hroom.sound
  have hopened := h'.openTag (t := t) (formatTags_not_part _ ht)
  refine (hroom.trans hopened).trans (hopened.sound.remember ?_)
  refine hopened.sound.formats.congr (fun _ _ => rfl) fun y hy => ?_
  rcases List.mem_cons.mp hy with rfl | hy
  · refine .inr ⟨_, t, ?_, h'.name?_openTag t, ht⟩
    rw [current?, h'.stack_openTag]
    rfl
  · exact .inl hy

/-- Part of opening elements again. -/
structure Reopened (d : Draft) (s : Draft × List (Option Format)) : Prop where
  leads : Leads d s.1
  formats : ∀ i t, some (i, t) ∈ s.2 → s.1.name? i = some (.html t.name) ∧ t.name ∈ formatTags

theorem Reopened.foldl {op : Draft × List (Option Format) → Option Format →
      Draft × List (Option Format)} (hnone : ∀ s, op s none = s)
    (hsome : ∀ s i t, op s (some (i, t)) =
      (s.1.openTag t, (s.1.openTag t).current?.map (·, t) :: s.2))
    {l : List (Option Format)} (hl : ∀ y ∈ l, y ∈ d.formatting)
    {s : Draft × List (Option Format)} (hs : Reopened d s) : Reopened d (l.foldl op s) := by
  refine List.foldlRecOn l op hs fun s hs y hy => ?_
  rcases y with _ | ⟨i, t⟩
  · rwa [hnone]
  · rw [hsome]
    have hsound := hs.leads.sound
    have ht := (hs.leads.before.formats i t (hl _ hy)).2
    have hopened := hsound.openTag (t := t) (formatTags_not_part _ ht)
    refine ⟨hs.leads.trans hopened, fun k u hku => ?_⟩
    rcases List.mem_cons.mp hku with heq | hku
    · rw [current?, hsound.stack_openTag] at heq
      obtain ⟨rfl, rfl⟩ := Prod.mk.inj (Option.some.inj heq)
      exact ⟨hsound.name?_openTag u, ht⟩
    · obtain ⟨hn, htag⟩ := hs.formats k u hku
      exact ⟨(hopened.keeps.name? (lt_of_name? hn)).trans hn, htag⟩

theorem Reopened.remember {s : Draft × List (Option Format)} (h : Reopened d s)
    {kept : List (Option Format)} (hkept : ∀ y ∈ kept, y ∈ d.formatting) :
    Leads d { s.1 with formatting := s.2 ++ kept } := by
  refine h.leads.trans (h.leads.sound.remember fun i t hit => ?_)
  rcases List.mem_append.mp hit with hit | hit
  · exact h.formats i t hit
  · obtain ⟨hn, htag⟩ := h.leads.before.formats i t (hkept _ hit)
    exact ⟨(h.leads.keeps.name? (lt_of_name? hn)).trans hn, htag⟩

theorem Sound.reconstruct (h : Sound d) : Leads d d.reconstruct := by
  have hstart : Reopened d (d, []) := ⟨.refl h, by simp⟩
  unfold Draft.reconstruct
  refine (Reopened.foldl (fun _ => rfl) (fun _ _ _ => rfl) (fun y hy => ?_) hstart).remember
    fun y hy => List.mem_of_mem_drop hy
  exact (List.takeWhile_sublist _).subset (List.mem_reverse.mp hy)

end PluginRelease.Html.Draft
