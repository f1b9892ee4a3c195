import PluginRelease.Html.Draft.Select
import PluginRelease.Proofs.Html.Draft.Misnested

/-!
Changes of mode. A mode that is entered because of what is open finds open what it takes for
granted.
-/
namespace PluginRelease.Html.Draft
variable {d e : Draft} {i j k x : Nat} {a l : List Nat} {t : Tag} {m : Mode} {tag : String}
  {tags : List String} {r : ElementName → Bool} {s : ElementName.Scope}

/-- Modes that take nothing for granted. -/
def freeModes : List Mode :=
  [.afterHead, .body, .table, .caption, .columns, .row, .select, .afterBody, .frameset,
    .afterFrameset, .afterAfterBody, .afterAfterFrameset]

theorem Fits.of_free (hm : m ∈ freeModes) : Fits d m where
  lasting := (by decide : ∀ m ∈ freeModes, m ∉ passingModes) m hm
  anchored ha := absurd ((by decide : ∀ m ∈ freeModes, anchors m = []) m hm) ha

theorem Fits.of_mem (hm : m ∉ passingModes) (hi : i ∈ d.stack) (hin : d.IsIn (anchors m) i) :
    Fits d m :=
  ⟨hm, fun _ => ⟨i, hi, hin⟩⟩

/-- The content of a template is read while that is open. -/
theorem Fits.of_content (hm : m ∈ contentModes) (hi : i ∈ d.stack)
    (htemplate : d.IsIn ["template"] i) : Fits d m where
  lasting := (by decide : ∀ m ∈ contentModes, m ∉ passingModes) m hm
  anchored ha := by
    have hanchor : ∀ m ∈ contentModes, anchors m ≠ [] → "template" ∈ anchors m := by decide
    exact ⟨i, hi, htemplate.mono fun tag htag => List.mem_singleton.mp htag ▸ hanchor m hm ha⟩

/-- Nothing but what is remembered changes. -/
theorem Sound.retune (h : Sound d) (hentries : e.entries = d.entries) (hstack : e.stack = d.stack)
    (hhead : e.head = d.head)
    (hform : ∀ k, e.form = some k → d.form = some k ∨
      d.IsIn ["form"] k ∧ (k ∈ e.stack ∨ Shut e k))
    (hformats : ∀ y ∈ e.formatting, y ∈ d.formatting ∨ y = none) (hmode : Fits d e.mode)
    (htemplates : ∀ m ∈ e.templateModes, m ∈ contentModes) : Leads d e := by
  have he := Alike.of_entries h.linked hentries hhead
  refine h.restack he (hstack ▸ h.stacked) (hstack ▸ h.bottom) (hstack ▸ .refl _)
    (fun _ _ hk => .inl (hstack ▸ hk)) hform (fun i t hit => ?_)
    (hmode.of_alike he fun _ hi _ => hstack ▸ hi) htemplates
  exact h.formats i t ((hformats _ hit).resolve_right (by simp))

theorem Sound.enter (h : Sound d) (hm : Fits d m) : Leads d (d.enter m) :=
  h.retune rfl rfl rfl (fun _ hk => .inl hk) (fun _ hy => .inl hy) hm h.templates

theorem Sound.noFrames (h : Sound d) : Leads d d.noFrames := h.flags rfl rfl rfl rfl rfl rfl rfl

/-! ## The mode that the open elements call for -/

theorem fits_modeOf (htemplates : ∀ m ∈ d.templateModes, m ∈ contentModes)
    (hhead : d.head ≠ none) (hl : ∀ i ∈ l, i ∈ d.stack) : Fits d (d.modeOf l) := by
  have hfree {m : Mode} (hm : m ∈ freeModes) : Fits d m := .of_free hm
  induction l with
  | nil => exact hfree (m := .body) (by decide)
  | cons i l ih =>
    have hi := hl i (.head _)
    have hrest := ih fun j hj => hl j (.tail _ hj)
    have hnamed {tag : String} {m : Mode} (hn : d.name? i = some (.html tag))
        (hm : m ∉ passingModes) (htag : tag ∈ anchors m) : Fits d m :=
      .of_mem hm hi (.of_name? hn htag)
    have hcell {tag : String} (hn : d.name? i = some (.html tag)) (htag : tag ∈ ElementName.cells) :
        Fits d (if l.isEmpty then .body else .cell) := by
      split
      · exact hfree (by decide)
      · exact hnamed hn (by decide) htag
    rw [modeOf]
    split
    · next tag hn =>
      split
      · split
        · split
          · exact hnamed hn (by decide) (by decide)
          · exact hfree (by decide)
        · exact hfree (by decide)
      · exact hcell hn (by decide)
      · exact hcell hn (by decide)
      · exact hfree (by decide)
      · exact hnamed hn (by decide) (by decide)
      · exact hnamed hn (by decide) (by decide)
      · exact hnamed hn (by decide) (by decide)
      · exact hfree (by decide)
      · exact hfree (by decide)
      · exact hfree (by decide)
      · refine .of_content ?_ hi (.of_name? hn (by decide))
        cases hmodes : d.templateModes with
        | nil => decide
        | cons m _ => exact htemplates m (hmodes ▸ .head _)
      · split
        · exact hfree (by decide)
        · exact hnamed hn (by decide) (by decide)
      · exact hfree (by decide)
      · exact hfree (by decide)
      · rw [if_neg (by simpa using hhead)]
        exact hfree (by decide)
      · exact hrest
    · exact hrest

/-- Elements are closed, and a mode is entered that takes nothing for granted. -/
theorem Sound.leave (h : Sound d) (hl : d.stack = a ++ l) (hne : l ≠ [])
    {formatting : List (Option Format)} (hformats : ∀ y ∈ formatting, y ∈ d.formatting)
    (hm : Fits { d with stack := l } m) : Leads d { d with stack := l, formatting, mode := m } := by
  have hlinked : Linked { d with stack := l } := Linked.congr (d := d) rfl h.linked
  exact h.closes (.of_entries h.linked rfl rfl) hl hne rfl hformats
    (hm.of_alike (.of_entries hlinked rfl rfl) fun _ hi _ => hi) fun _ hm => hm

theorem Sound.head_ne_none (h : Sound d) : d.head ≠ none := by
  obtain ⟨i, hi, -⟩ := h.grounded.head
  rw [hi]
  exact Option.some_ne_none i

/-- Elements are closed, and the mode is the one that the others call for. -/
theorem Sound.reset (h : Sound d) (hl : d.stack = a ++ l) (hne : l ≠ [])
    {formatting : List (Option Format)} (hformats : ∀ y ∈ formatting, y ∈ d.formatting)
    {templateModes : List Mode} (htemplates : ∀ m ∈ templateModes, m ∈ d.templateModes) :
    Leads d (resetMode { d with stack := l, formatting, templateModes }) := by
  have hfits : Fits { d with stack := l, formatting, templateModes }
      (modeOf { d with stack := l, formatting, templateModes } l) :=
    fits_modeOf (fun m hm => h.templates m (htemplates m hm)) h.head_ne_none fun _ hi => hi
  have hlinked : Linked { d with stack := l, formatting, templateModes } :=
    Linked.congr (d := d) rfl h.linked
  exact h.closes (.of_entries h.linked rfl rfl) hl hne rfl hformats
    (hfits.of_alike (.of_entries hlinked rfl rfl) fun _ hi _ => hi) htemplates

/-- The first of the open elements that is looked for. -/
theorem exists_first (hx : ∃ x ∈ d.stack, d.is r x = true) :
    ∃ a x l, d.stack = a ++ x :: l ∧ d.is r x = true ∧ ∀ i ∈ a, d.is r i = false := by
  obtain ⟨x, hx, hr⟩ := hx
  obtain ⟨y, hy⟩ := Option.isSome_iff_exists.mp (List.find?_isSome.mpr ⟨x, hx, hr⟩)
  obtain ⟨hry, a, l, hl, ha⟩ := List.find?_eq_some_iff_append.mp hy
  exact ⟨a, y, l, hl, hry, fun i hi => by simpa using ha i hi⟩

theorem exists_of_inScope (h : d.inScope s r = true) : ∃ x ∈ d.stack, d.is r x = true := by
  obtain ⟨a, x, l, hl, hx, -⟩ := scopeContains_iff.mp h
  exact ⟨x, hl ▸ by simp, hx⟩

theorem exists_of_isInTemplate (h : d.isInTemplate = true) :
    ∃ x ∈ d.stack, d.isTag "template" x = true :=
  List.any_eq_true.mp h

theorem mem_of_mem_clearToMark {y : Option Format} (hy : y ∈ d.clearToMark.formatting) :
    y ∈ d.formatting :=
  (List.dropWhile_sublist _).subset (List.mem_of_mem_tail hy)

theorem Sound.exists_template (h : Sound d) (hopen : d.isInTemplate = true) :
    ∃ a x l, d.stack = a ++ x :: l ∧ d.isTag "template" x = true ∧
      (∀ i ∈ a, d.isTag "template" i = false) ∧ l ≠ [] := by
  obtain ⟨a, x, l, hl, hx, ha⟩ := exists_first (exists_of_isInTemplate hopen)
  refine ⟨a, x, l, hl, hx, ha, h.ne_nil_of_stack hl ?_⟩
  exact (isTag_iff_isIn.mp hx).not_of_disjoint (by decide)

theorem templateModes_openTag (d : Draft) (t : Tag) : (d.openTag t).templateModes = d.templateModes :=
  (Rewired.insertElement d (.html t.name) t.attributes).templateModes

section
variable (h : Sound d)
include h

/-- An element is closed with all inside it, and the mode is the one that the others call for. -/
theorem Sound.reset_through (htag : tag ≠ "html") (hx : ∃ x ∈ d.stack, d.isTag tag x = true) :
    Leads d (d.popThroughTag tag).resetMode := by
  obtain ⟨a, x, l, hl, hx, ha⟩ := exists_first hx
  have hne := h.ne_nil_of_stack hl fun hin =>
    htag (List.mem_singleton.mp ((isIn_iff_of_name? (isTag_iff.mp hx)).mp hin))
  rw [popThroughTag, popThrough_eq hl hx ha]
  exact h.reset (a := a ++ [x]) (by simp [hl]) hne (fun _ hy => hy) fun _ hm => hm

theorem Sound.closeTable (hopen : d.hasTag .table "table" = true) : Leads d d.closeTable :=
  h.reset_through (by decide) (exists_of_inScope hopen)

theorem Sound.closeSelect (hopen : ∃ x ∈ d.stack, d.isTag "select" x = true) :
    Leads d d.closeSelect :=
  h.reset_through (by decide) hopen

/-- The end of a template takes back the mode that its content was read in. -/
theorem Sound.reset_template {x : Nat} (hl : d.stack = a ++ x :: l) (hne : l ≠ []) :
    Leads d (resetMode { ({ d with stack := l } : Draft).clearToMark with
      templateModes := d.templateModes.tail }) :=
  h.reset (a := a ++ [x]) (by simp [hl]) hne (fun _ hy => mem_of_mem_clearToMark hy)
    fun _ hm => List.mem_of_mem_tail hm

theorem Sound.closeTemplate : Leads d d.closeTemplate := by
  rw [Draft.closeTemplate]
  split
  · next hopen =>
    obtain ⟨a, x, l, hl, hx, ha, hne⟩ := h.exists_template hopen
    dsimp only
    rw [popThroughTag_implyEnds_eq hl hx ha (by decide)]
    exact h.reset_template hl hne
  · exact .refl h

theorem Sound.abandonTemplate {e : Draft} (he : d.abandonTemplate = .again e) : Leads d e := by
  rw [Draft.abandonTemplate] at he
  split at he
  · next hopen =>
    obtain ⟨a, x, l, hl, hx, ha, hne⟩ := h.exists_template hopen
    dsimp only at he
    rw [popThroughTag, popThrough_eq hl hx ha] at he
    obtain rfl := Outcome.again.inj he
    exact h.reset_template hl hne
  · cases he

/-- The content of a template that is open is read. -/
theorem Sound.enterTemplate {i : Nat} (hi : i ∈ d.stack) (hin : d.IsIn ["template"] i) :
    Leads d { d.mark.noFrames.enter .template with
      templateModes := .template :: d.templateModes } := by
  refine h.retune rfl rfl rfl (fun _ hk => .inl hk) (fun y hy => (List.mem_cons.mp hy).symm)
    (.of_content (m := .template) (by decide) hi hin) fun m hm => ?_
  rcases List.mem_cons.mp hm with rfl | hm
  · decide
  · exact h.templates m hm

theorem Sound.openTemplate (ht : t.name = "template") : Leads d (d.openTemplate t) := by
  have hopened := h.openTag (t := t) (ht ▸ by decide)
  have hentered := hopened.sound.enterTemplate (i := d.entries.size)
    (h.stack_openTag t ▸ .head _) (.of_name? (h.name?_openTag t) (List.mem_singleton.mpr ht))
  rw [templateModes_openTag] at hentered
  exact hopened.trans hentered

theorem Sound.mergeRoot : Leads d (d.mergeRoot t) := by
  rw [Draft.mergeRoot]
  split
  · exact .refl h
  · rw [h.bottom]
    exact h.addMissing (h.isIn_one.mono (by decide)) t.attributes

end

end PluginRelease.Html.Draft
