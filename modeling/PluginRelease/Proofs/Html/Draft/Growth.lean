import PluginRelease.Proofs.Html.Draft.Place

/-!
New nodes. A node that is added stands below nothing but its parent and what that stands below, so
it comes into an open form exactly if its parent is there.
-/
namespace PluginRelease.Html.Draft
variable {d e : Draft} {i j k p r : Nat} {l : List Nat} {tag : String} {tags : List String}
  {place : Place} {c : Content} {name : ElementName} {attributes : List Attribute}

/-- One draft is another with one more node, below a node it had. -/
structure Grown (d e : Draft) (i p : Nat) : Prop where
  new : i = d.entries.size
  keeps : Keeps d e
  linked : Linked e
  parent : ∀ a, a ≠ i → e.parent? a = d.parent? a
  parent_new : e.parent? i = some p
  not_root : e.content? i ≠ some .root
  inside_new : ∀ a r, d.entries.size ≤ a → e.inside? a = some r →
    d.entries.size ≤ r ∧ e.content? r = some .root
  only : ∀ a c, d.entries.size ≤ a → a ≠ i → e.content? a = some c → c = .root

theorem Grown.congr {f : Draft} (h : Grown d e i p) (he : f.entries = e.entries)
    (hhead : f.head = e.head) : Grown d f i p where
  new := h.new
  keeps := h.keeps.congr he hhead
  linked := h.linked.congr he
  parent := by
    rw [parent?_congr he]
    exact h.parent
  parent_new := by
    rw [parent?_congr he]
    exact h.parent_new
  not_root := by
    rw [content?_congr he]
    exact h.not_root
  inside_new := by
    rw [inside?_congr he, content?_congr he]
    exact h.inside_new
  only := by
    rw [content?_congr he]
    exact h.only

/-! ## Effects of a new node -/

/-- What an old node stands below is old. -/
theorem lt_of_under_old (hd : Linked d) (hj : j < d.entries.size) (h : Under d k j) :
    k < d.entries.size := by
  induction h with
  | refl => exact hj
  | step hp _ ih => exact ih (hd.lt_parent hp)

theorem not_under_old (hd : Linked d) (hj : j < d.entries.size) (hk : d.entries.size ≤ k) :
    ¬ Under d k j := fun hkj => Nat.not_lt.mpr hk (lt_of_under_old hd hj hkj)

namespace Grown
variable (h : Grown d e i p)
include h

theorem not_lt_old : ¬ i < d.entries.size := by
  rw [h.new]
  exact Nat.lt_irrefl _

theorem ne_of_lt (hj : j < d.entries.size) : j ≠ i := fun hji => h.not_lt_old (hji ▸ hj)

/-- Below what an old node stands has not changed. -/
theorem under_old_iff (hd : Linked d) (hj : j < d.entries.size) : Under e k j ↔ Under d k j := by
  constructor
  · intro hkj
    induction hkj with
    | refl => exact .refl
    | step hp _ ih =>
      rw [h.parent _ (h.ne_of_lt hj)] at hp
      exact .step hp (ih (hd.lt_parent hp))
  · intro hkj
    induction hkj with
    | refl => exact .refl
    | step hp _ ih =>
      exact .step ((h.parent _ (h.ne_of_lt hj)).trans hp) (ih (hd.lt_parent hp))

/-- Nothing old stands below what is new. -/
theorem not_under_of_new (hd : Linked d) (hj : j < d.entries.size) (hk : d.entries.size ≤ k) :
    ¬ Under e k j := by
  rw [h.under_old_iff hd hj]
  exact not_under_old hd hj hk

theorem under_new_iff (hd : Linked d) (hp : p < d.entries.size) :
    Under e k i ↔ i = k ∨ Under d k p := by
  rw [under_step h.parent_new, h.under_old_iff hd hp]

theorem le_ground : d.entries.size ≤ e.ground i := by
  have hge := Nat.le_of_eq h.new.symm
  rw [ground]
  split
  · cases hr : e.inside? i with
    | none => exact hge
    | some r => exact (h.inside_new i r hge hr).1
  · exact hge

theorem stacked (hd : Linked d) (hl : Stacked d l) : Stacked e l :=
  h.keeps.stacked hl fun _ hj _ => h.under_old_iff hd (hl.lt_of_mem hj)

theorem grounded (hd : Grounded d) (hname : ¬ e.IsIn ["html"] i) : Grounded e := by
  have hroot : e.content? pageRoot = some .root :=
    (h.keeps.root_iff (lt_of_content? hd.rooted.content)).mpr hd.rooted.content
  have hlt_of_parent {a b : Nat} (hp : d.parent? a = some b) : a ≠ i :=
    h.ne_of_lt (lt_of_parent? hp)
  refine ⟨⟨h.linked, hroot, fun a ha => ?_⟩, fun a r hr => ?_, ?_, fun a => ?_, ?_⟩
  · by_cases hai : a = i
    · exact absurd (hai ▸ ha) h.not_root
    · rw [h.parent a hai]
      rcases Nat.lt_or_ge a d.entries.size with hlt | hge
      · exact hd.rooted.free a ((h.keeps.root_iff hlt).mp ha)
      · exact parent?_of_le hge
  · rcases Nat.lt_or_ge a d.entries.size with hlt | hge
    · rw [h.keeps.inside a hlt] at hr
      have hr' := hd.inside a r hr
      exact (h.keeps.root_iff (lt_of_content? hr')).mpr hr'
    · exact (h.inside_new a r hge hr).2
  · rw [h.parent 1 (hlt_of_parent hd.page), hd.page]
  · rcases Nat.lt_or_ge a d.entries.size with hlt | hge
    · rw [h.keeps.isIn_iff hlt, hd.html_iff]
    · have hpage := lt_of_parent? hd.page
      have hne : a ≠ 1 := by omega
      simp only [hne, iff_false]
      by_cases hai : a = i
      · exact hai ▸ hname
      · intro hin
        obtain ⟨n, attributes, hc⟩ := exists_content hin.isSome
        cases h.only a _ hge hai hc
  · obtain ⟨a, ha, hin, hp⟩ := hd.head
    refine ⟨a, by rw [h.keeps.head, ha], (h.keeps.isIn_iff hin.lt_size).mpr hin, ?_⟩
    rw [h.parent a (hlt_of_parent hp), hp]

/-- Only the new node has a name of its own. -/
theorem eq_of_isIn (hge : d.entries.size ≤ j) (hj : e.IsIn tags j) : j = i := by
  obtain ⟨n, attributes, hc⟩ := exists_content hj.isSome
  cases Nat.decEq j i with
  | isTrue hji => exact hji
  | isFalse hji => cases h.only j _ hge hji hc

theorem fits {m : Mode} (hm : Fits d m) (hstack : ∀ j ∈ d.stack, j ∈ e.stack) : Fits e m where
  lasting := hm.lasting
  anchored ha := by
    obtain ⟨j, hj, hin⟩ := hm.anchored ha
    exact ⟨j, hstack j hj, (h.keeps.isIn_iff hin.lt_size).mpr hin⟩

end Grown

/-- Tags that no rule gives a new element by itself: that of the root element, and those of
controls. -/
def reservedTags : List String := "html" :: controlTags

/-- Besides the new node, if that was opened at all, the same elements are open. -/
structure Opened (d e : Draft) (i p : Nat) : Prop where
  stack : e.stack = d.stack ∨ e.stack = i :: d.stack
  stacked : Stacked e e.stack
  bottom : e.stack.getLast? = some 1
  of_mem : ∀ j ∈ e.stack, j ∈ d.stack ∨
    j = i ∧ ∀ k, d.IsIn ["form"] k → Shut d k → ¬ Under d k p
  mem : ∀ j ∈ d.stack, j ∈ e.stack

section
variable (h : Sound d) (hg : Grown d e i p)
include h hg

theorem Opened.of_leaf (hstack : e.stack = d.stack) : Opened d e i p where
  stack := .inl hstack
  stacked := hstack ▸ hg.stacked h.linked h.stacked
  bottom := hstack ▸ h.bottom
  of_mem _ hj := .inl (hstack ▸ hj)
  mem _ hj := hstack ▸ hj

theorem Opened.of_open (hstack : e.stack = i :: d.stack) (hstands : Stands e i d.stack)
    (hout : ∀ k, d.IsIn ["form"] k → Shut d k → ¬ Under d k p) : Opened d e i p where
  stack := .inr hstack
  stacked := by
    rw [hstack]
    exact .cons hstands (hg.stacked h.linked h.stacked)
  bottom := by rw [hstack, List.getLast?_cons_of_ne_nil h.stack_ne_nil, h.bottom]
  of_mem j hj := by
    rw [hstack] at hj
    rcases List.mem_cons.mp hj with rfl | hj
    · exact .inr ⟨rfl, hout⟩
    · exact .inl hj
  mem j hj := by
    rw [hstack]
    exact .tail _ hj

/-- A new element is around nothing old, and others may be moved as before. -/
theorem Opened.moored (ho : Opened d e i p) (hk : k < d.entries.size) (hj : Moored d k j) :
    Moored e k j := by
  have hlinked := h.linked
  have hlt := hj.under.lt_size hk
  refine ⟨(hg.under_old_iff hlinked hlt).mpr hj.under, fun s ⟨l, hl, hmoves⟩ hks hsj => ?_⟩
  have hsj := (hg.under_old_iff hlinked hlt).mp hsj
  have hs := lt_of_under_old hlinked hlt hsj
  have hl : s :: l <:+ d.stack := by
    rcases ho.stack with hstack | hstack
    · exact hstack ▸ hl
    · rw [hstack] at hl
      refine (List.suffix_cons_iff.mp hl).resolve_left fun heq => ?_
      exact hg.not_lt_old ((List.cons.inj heq).1 ▸ hs)
  have hopen {b : Nat} (hb : b ∈ s :: l) : b < d.entries.size := h.lt_of_mem (hl.subset hb)
  refine hj.fixed s ⟨l, hl, hmoves.imp (hg.keeps.isIn_iff hs).mp ?_⟩
    ((hg.under_old_iff hlinked hs).mp hks) hsj
  rintro ⟨x, hx, hin⟩
  exact ⟨x, hx, (hg.keeps.isIn_iff (hopen (.tail _ hx))).mp hin⟩

variable (hp : p < d.entries.size)
include hp

theorem Opened.shut (ho : Opened d e i p) (hk : d.IsIn ["form"] k) (hshut : Shut d k) :
    Shut e k := by
  intro s hs hks
  have hlinked := h.linked
  rcases ho.of_mem s hs with hold | ⟨rfl, hout⟩
  · exact hshut s hold ((hg.under_old_iff hlinked (h.lt_of_mem hold)).mp hks)
  · rcases (hg.under_new_iff hlinked hp).mp hks with rfl | hkp
    · exact hg.not_lt_old hk.lt_size
    · exact hout k hk hshut hkp

/-- A node is added, and nothing but the node is opened. -/
theorem Sound.grow (ho : Opened d e i p) (hhtml : ¬ e.IsIn ["html"] i) (hform : e.form = d.form)
    (hformats : e.formatting = d.formatting) (hmode : Fits e e.mode)
    (htemplates : e.templateModes = d.templateModes) : Passes d e where
  before := h
  sound := by
    refine ⟨hg.grounded h.grounded hhtml, ho.stacked, ho.bottom, fun a t ha => ?_, fun k hk => ?_,
      hmode, fun m hm => h.templates m (htemplates ▸ hm)⟩
    · obtain ⟨hn, htag⟩ := h.formats a t (hformats ▸ ha)
      exact ⟨(hg.keeps.name? (lt_of_name? hn)).trans hn, htag⟩
    · obtain ⟨hin, hk⟩ := h.form k (hform ▸ hk)
      exact ⟨(hg.keeps.isIn_iff hin.lt_size).mpr hin,
        hk.imp (ho.mem k) (ho.shut h hg hp hin)⟩
  keeps := hg.keeps
  stays_closed j hj hclosed hopen := by
    rcases ho.of_mem j hopen with hold | ⟨rfl, -⟩
    · exact hclosed hold
    · exact hg.not_lt_old hj
  stays j hj _ _ := hg.parent j (hg.ne_of_lt hj)
  shut k hk hshut :=
    ⟨ho.shut h hg hp hk hshut, fun j hj => (hg.under_old_iff h.linked hj).mp⟩
  under k hk _ j hj :=
    (hg.under_old_iff h.linked (hj.lt_size hk.lt_size)).mpr hj
  moored k hk _ j hj := ho.moored h hg hk.lt_size hj

/-- What is added is no control. -/
theorem Sound.grow_other (ho : Opened d e i p) (hname : ¬ e.IsIn reservedTags i)
    (hform : e.form = d.form) (hformats : e.formatting = d.formatting) (hmode : e.mode = d.mode)
    (htemplates : e.templateModes = d.templateModes) : Leads d e where
  toPasses := h.grow hg hp ho (fun hhtml => hname (hhtml.mono (by decide))) hform hformats
    (hmode ▸ hg.fits h.mode ho.mem) htemplates
  form_open k _ hk := .inl (ho.mem k hk)
  new j hj hcontrol := by
    obtain rfl := hg.eq_of_isIn hj hcontrol
    exact hname (hcontrol.mono (by decide))

end

end PluginRelease.Html.Draft
