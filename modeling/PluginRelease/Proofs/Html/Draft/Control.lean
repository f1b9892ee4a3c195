import PluginRelease.Proofs.Html.Draft.Modes

/-!
New controls. A control is put into the nearest form that is open, unless a template is open, and
into no form that has been closed.
-/
namespace PluginRelease.Html.Draft
variable {d e f : Draft} {i j k p : Nat} {l : List Nat} {t : Tag} {u : Token} {tags : List String}

/-- A control that a start tag has made, and where it stands among the forms. -/
structure Planted (u : Token) (d : Draft) (i : Nat) : Prop where
  made : ∃ t : Tag, u = .startTag t ∧ d.content? i = some (.element (.html t.name) t.attributes)
  inside : ∀ k, d.IsIn ["form"] k → k ∈ d.stack → d.isInTemplate = false → Under d k i
  outside : ∀ k, d.IsIn ["form"] k → Shut d k → ¬ Under d k i

/-- What the rules do with a token in the end: all that they add of controls is planted. -/
structure Adds (u : Token) (d e : Draft) : Prop extends Passes d e where
  planted : ∀ i, d.entries.size ≤ i → e.IsIn controlTags i → Planted u e i
  /-- Only its end tag closes a form and leaves open what is open inside it. -/
  closes : ∀ k, d.IsIn ["form"] k → k ∈ d.stack →
    k ∈ e.stack ∨ Shut e k ∨ ∃ t : Tag, u = .endTag t ∧ t.name = "form"

theorem Leads.adds (h : Leads d e) : Adds u d e where
  toPasses := h.toPasses
  planted i hi hcontrol := absurd hcontrol (h.new i hi)
  closes k hk hopen := (h.form_open k hk hopen).imp_right .inl

theorem Leads.trans_adds (h : Leads d e) (h' : Adds u e f) : Adds u d f where
  toPasses := h.passes h'.toPasses
  planted i hi hcontrol := by
    rcases Nat.lt_or_ge i e.entries.size with hlt | hge
    · exact absurd ((h'.keeps.isIn_iff hlt).mp hcontrol) (h.new i hi)
    · exact h'.planted i hge hcontrol
  closes k hk hopen := by
    have hk' := (h.keeps.isIn_iff hk.lt_size).mpr hk
    rcases h.form_open k hk hopen with hopen' | hshut
    · exact h'.closes k hk' hopen'
    · exact .inr (.inl (h'.shut k hk' hshut).1)

theorem isInTemplate_eq_false_iff :
    d.isInTemplate = false ↔ ∀ i ∈ d.stack, ¬ d.IsIn ["template"] i := by
  rw [isInTemplate, isOpenTag, List.any_eq_false]
  simp only [isTag_iff_isIn]

/-- All forms are older than the control. -/
theorem Grown.lt_of_form (hg : Grown d e i p)
    (hcontent : e.content? i = some (.element (.html t.name) t.attributes))
    (ht : t.name ∈ controlTags) (hk : e.IsIn ["form"] k) : k < d.entries.size := by
  rcases Nat.lt_or_ge k d.entries.size with hlt | hge
  · exact hlt
  · obtain rfl := hg.eq_of_isIn hge hk
    have hform := (isIn_iff_of_name? (name?_eq_some_iff.mpr ⟨_, hcontent⟩)).mp hk
    exact absurd ht ((by decide : ∀ tag ∈ ["form"], tag ∉ controlTags) _ hform)

section
variable (h : Sound d) (hg : Grown d e i p) (hsite : Site d d.stack p) (ho : Opened d e i p)
  (hcontent : e.content? i = some (.element (.html t.name) t.attributes))
  (ht : t.name ∈ controlTags)
include h hg hsite ho hcontent ht

theorem planted_of_grown : Planted (.startTag t) e i where
  made := ⟨t, rfl, hcontent⟩
  inside k hk hopen htemplate := by
    have hlt := hg.lt_of_form hcontent ht hk
    have hk' := (hg.keeps.isIn_iff hlt).mp hk
    have hopen' : k ∈ d.stack := (ho.of_mem k hopen).resolve_right fun hki =>
      hg.not_lt_old (hki.1 ▸ hlt)
    obtain ⟨a, b, hab⟩ := List.append_of_mem hopen'
    obtain ⟨s, hs, hnearest, hks⟩ := (hab ▸ h.stacked).exists_nearest hk' fun j hj hin => by
      have hj' : j ∈ d.stack := hab ▸ List.mem_append_left _ hj
      refine isInTemplate_eq_false_iff.mp htemplate j (ho.mem j hj') ?_
      exact (hg.keeps.isIn_iff (h.lt_of_mem hj')).mpr hin
    have hsp := hsite.inside s (hab ▸ hnearest)
    rw [ground_of_form hs] at hsp
    exact (hg.under_new_iff h.linked hsite.lt_size).mpr (.inr (hsp.trans hks))
  outside k hk hshut hki := by
    have hlt := hg.lt_of_form hcontent ht hk
    have hk' := (hg.keeps.isIn_iff hlt).mp hk
    rcases (hg.under_new_iff h.linked hsite.lt_size).mp hki with rfl | hkp
    · exact hg.not_lt_old hlt
    · refine hsite.outside k hk'.not_root (fun s hs hks => hshut s (ho.mem s hs) ?_) hkp
      exact (hg.under_old_iff h.linked (h.lt_of_mem hs)).mpr hks

theorem adds_of_grown (hform : e.form = d.form) (hformats : e.formatting = d.formatting)
    (hmode : Fits e e.mode) (htemplates : e.templateModes = d.templateModes) :
    Adds (.startTag t) d e where
  toPasses := by
    refine h.grow hg hsite.lt_size ho (fun hhtml => ?_) hform hformats hmode htemplates
    have htag := (isIn_iff_of_name? (name?_eq_some_iff.mpr ⟨_, hcontent⟩)).mp hhtml
    exact (by decide : ∀ tag ∈ ["html"], tag ∉ controlTags) _ htag ht
  planted j hj hcontrol := by
    obtain rfl := hg.eq_of_isIn hj hcontrol
    exact planted_of_grown h hg hsite ho hcontent ht
  closes k _ hopen := .inl (ho.mem k hopen)

end

/-! ## Controls that stay empty, and those that are opened -/

section
variable (h : Sound d) (ht : t.name ∈ controlTags)
include h

theorem Sound.content?_insertEmpty : (d.insertEmpty t).content? d.entries.size =
    some (.element (.html t.name) t.attributes) := by
  rw [Draft.insertEmpty, h.insertElement_eq, content?_attach]
  exact (Made.create h.linked _ _).content

theorem Sound.entries_openTag : (d.openTag t).entries = (d.insertEmpty t).entries := by
  rw [Draft.openTag, Draft.openElement, Draft.insertEmpty, h.insertElement_eq]
  rfl

include ht

/-- A control is added, and what is open stays. -/
theorem Sound.plant (hentries : e.entries = (d.insertEmpty t).entries) (hstack : e.stack = d.stack)
    (hhead : e.head = d.head) (hform : e.form = d.form) (hformats : e.formatting = d.formatting)
    (hmode : e.mode = d.mode) (htemplates : e.templateModes = d.templateModes) :
    Adds (.startTag t) d e := by
  have hgrown := h.grown_insertElement (.html t.name) t.attributes
  have hg : Grown d e d.entries.size d.place.parent :=
    hgrown.congr hentries (hhead.trans hgrown.keeps.head.symm)
  have ho := Opened.of_leaf h hg hstack
  refine adds_of_grown h hg h.site ho ?_ ht hform hformats ?_ htemplates
  · rw [content?_congr hentries]
    exact h.content?_insertEmpty
  · rw [hmode]
    exact hg.fits h.mode ho.mem

/-- A control is added and opened. -/
theorem Sound.plant_open (hentries : e.entries = (d.insertEmpty t).entries)
    (hstack : e.stack = d.entries.size :: d.stack) (hhead : e.head = d.head)
    (hform : e.form = d.form) (hformats : e.formatting = d.formatting) (hmode : Fits e e.mode)
    (htemplates : e.templateModes = d.templateModes) : Adds (.startTag t) d e := by
  have hgrown := h.grown_insertElement (.html t.name) t.attributes
  have hg : Grown d e d.entries.size d.place.parent :=
    hgrown.congr hentries (hhead.trans hgrown.keeps.head.symm)
  have hcontent : e.content? d.entries.size = some (.element (.html t.name) t.attributes) := by
    rw [content?_congr hentries]
    exact h.content?_insertEmpty
  have hname := name?_eq_some_iff.mpr ⟨_, hcontent⟩
  have hother {tag : String} (htag : tag ∉ controlTags) : ElementName.html t.name ≠ .html tag :=
    fun heq => htag (html_inj.mp heq ▸ ht)
  have hstands : Stands e d.entries.size d.stack := by
    refine h.stands_new hg h.site hname (hother (by decide)) (fun htr => ?_) ?_
    · exact absurd htr (hother (by decide))
    · rintro ⟨tag, htag, heq⟩
      exact absurd heq (hother ((by decide : ∀ tag ∈ ElementName.sections, tag ∉ controlTags) tag
        htag))
  exact adds_of_grown h hg h.site (.of_open h hg hstack hstands fun k hk hshut =>
    h.site.outside k hk.not_root hshut) hcontent ht hform hformats hmode htemplates

theorem Sound.insertControl : Adds (.startTag t) d (d.insertEmpty t) := by
  have he := Rewired.insertEmpty d t
  exact h.plant ht rfl he.stack he.head he.form he.formatting he.mode he.templateModes

theorem Sound.openControl : Adds (.startTag t) d (d.openTag t) := by
  have he := Rewired.insertElement d (.html t.name) t.attributes
  have hgrown := h.grown_insertElement (.html t.name) t.attributes
  refine h.plant_open ht h.entries_openTag (h.stack_openTag t) he.head he.form he.formatting ?_
    he.templateModes
  have hfits : Fits (d.openTag t) d.mode := by
    refine (hgrown.congr h.entries_openTag rfl).fits h.mode fun j hj => ?_
    rw [h.stack_openTag]
    exact .tail _ hj
  exact he.mode.symm ▸ hfits

end

end PluginRelease.Html.Draft
