import PluginRelease.Proofs.Form.Fields

/-!
Reading a field back. Setting a name looks for a field of it, reading a name takes whatever control
bears it first, so what was set is read back if and only if that control is a field.
-/
namespace PluginRelease.Form
open Html
variable {f g found : Form} {field value text name : String} {page : Url} {method : Option String}
  {before after : List Control} {c : Control} {n : Node}

/-! ## File inputs -/

theorem Control.value_of_ofInput? (h : Control.ofInput? n = some c) (hc : c.kind = .file) :
    c.value = "" := by
  unfold ofInput? at h
  dsimp only at h
  split at h
  · obtain rfl := Option.some.inj h
    cases hc
  · obtain rfl := Option.some.inj h
    cases hc
  · cases h
  · cases h
  · split at h
    · cases h
    · split at h
      · obtain rfl := Option.some.inj h
        rfl
      · split at h
        · split at h
          · obtain rfl := Option.some.inj h
            cases hc
          · cases h
        · obtain rfl := Option.some.inj h
          cases hc

/-- A file input never has the value of its element. -/
theorem Control.value_of_file (h : Control.ofNode? n = some c) (hc : c.kind = .file) :
    c.value = "" := by
  have hsuits : Control.Suits n c.kind := (Control.isOf_of_ofNode? h).suits
  rw [hc] at hsuits
  rw [Control.ofNode?, hsuits.1] at h
  exact Control.value_of_ofInput? h hc

def FilesEmpty (f : Form) : Prop := ∀ c ∈ f.controls, c.kind = .file → c.value = ""

theorem filesEmpty_of_find (h : find text page name method = .ok f) : f.FilesEmpty := by
  obtain ⟨n, -, -, hcontrols⟩ := exists_of_find h
  intro c hc hkind
  rw [hcontrols] at hc
  obtain ⟨m, -, hm⟩ := List.mem_filterMap.mp hc
  exact Control.value_of_file hm hkind

/-- Setting a field changes no file input. -/
theorem FilesEmpty.fillFirst {cs : List Control} (hcs : ∀ c ∈ cs, c.kind = .file → c.value = "") :
    ∀ c ∈ Form.fillFirst field value cs, c.kind = .file → c.value = "" := by
  induction cs with
  | nil => exact hcs
  | cons b bs ih =>
    obtain ⟨hb, hbs⟩ := List.forall_mem_cons.mp hcs
    rw [Form.fillFirst]
    split
    · next hfield =>
      have hkind : b.kind = .value := (isField_iff.mp hfield).1
      exact List.forall_mem_cons.mpr ⟨fun hfile => absurd (hkind.symm.trans hfile) (by decide), hbs⟩
    · exact List.forall_mem_cons.mpr ⟨hb, ih hbs⟩

theorem FilesEmpty.fillAll (hf : f.FilesEmpty) (entries : List (String × String)) :
    (f.fillAll entries).FilesEmpty := by
  induction entries generalizing f with
  | nil => exact hf
  | cons e es ih =>
    apply ih
    rw [fill_eq]
    exact FilesEmpty.fillFirst hf

/-! ## Reading -/

theorem value?_append (hbefore : ∀ b ∈ before, b.name ≠ field) (hc : c.name = field)
    (hcs : f.controls = before ++ c :: after) : f.value? field = some c.value := by
  have hnone : before.find? (·.name = field) = none := by simpa using hbefore
  rw [value?, hcs, List.find?_append, hnone, List.find?_cons_of_pos (by simpa using hc)]
  rfl

/-- A list holds a control of a name behind controls of other names, or nowhere. -/
theorem exists_first_named {cs : List Control} (h : ∃ c ∈ cs, c.name = field) :
    ∃ before c after, cs = before ++ c :: after ∧ (∀ b ∈ before, b.name ≠ field) ∧
      c.name = field := by
  have hfound : (cs.find? (·.name = field)).isSome := by simpa using h
  obtain ⟨c, hc⟩ := Option.isSome_iff_exists.mp hfound
  obtain ⟨hname, before, after, hcs, hbefore⟩ := List.find?_eq_some_iff_append.mp hc
  exact ⟨before, c, after, hcs, fun b hb => by simpa using hbefore b hb, by simpa using hname⟩

/-- Writing to a field of a name leaves the first control of the name alone, unless it is that
field. -/
theorem value?_of_writes (h : Writes field value f g)
    (hcs : f.controls = before ++ c :: after) (hbefore : ∀ b ∈ before, b.name ≠ field)
    (hc : c.name = field) :
    g.value? field = some (if c.kind = .value then value else c.value) := by
  have hset : f.fill (field, value) = g := fill_of_set (set_of_writes h)
  rw [fill_eq, hcs] at hset
  have hskip (cs : List Control) :
      fillFirst field value (before ++ cs) = before ++ fillFirst field value cs := by
    clear hcs hset
    induction before with
    | nil => rfl
    | cons b bs ih =>
      have hb : ¬ b.isField field = true := fun hb => hbefore b (.head _) (isField_iff.mp hb).2
      rw [List.cons_append, fillFirst, if_neg hb, ih fun b hb => hbefore b (.tail _ hb)]
      rfl
  subst hset
  by_cases hkind : c.kind = .value
  · have hwritten : fillFirst field value (before ++ c :: after) =
        before ++ { c with value } :: after := by
      rw [hskip, fillFirst, if_pos (isField_iff.mpr ⟨hkind, hc⟩)]
    rw [if_pos hkind]
    exact value?_append (c := { c with value }) hbefore hc hwritten
  · have hkept : fillFirst field value (before ++ c :: after) =
        before ++ c :: fillFirst field value after := by
      rw [hskip, fillFirst, if_neg fun h => hkind (isField_iff.mp h).1]
    rw [if_neg hkind]
    exact value?_append hbefore hc hkept

/-- What is set is what is sent for the first field of its name. What is read of the name
afterwards is the value that was set if the first control of the name is a field, and otherwise what
was read before: nothing of a file input, and the label of a submit button. -/
theorem value?_of_set (hfind : find text page name method = .ok found)
    (entries : List (String × String)) (hset : (found.fillAll entries).set field value = .ok g) :
    let f := found.fillAll entries
    (g.controls.find? (·.isField field)).map (·.value) = some value ∧ (field, value) ∈ g.pairs ∧
    ∃ before c after, f.controls = before ++ c :: after ∧ (∀ b ∈ before, b.name ≠ field) ∧
      c.name = field ∧ f.value? field = some c.value ∧
      (c.kind = .value → g.value? field = some value) ∧
      (c.kind ≠ .value → g.value? field = some c.value) ∧
      (c.kind = .file → g.value? field = some "") := by
  intro f
  have hnamed : f.WellNamed := (wellNamed_of_find hfind).fillAll entries
  have hfiles : f.FilesEmpty := (filesEmpty_of_find hfind).fillAll entries
  have hwrites : Writes field value f g := set_eq_ok_iff.mp hset
  refine ⟨?_, ?_, ?_⟩
  · obtain ⟨before, c, after, -, hbefore, hc, rfl⟩ := hwrites
    have hnone : before.find? (·.isField field) = none := by
      simpa [isField_iff] using fun b hb => not_and.mp (hbefore b hb)
    have hwritten : Control.isField field { c with value } = true := isField_iff.mpr hc
    rw [List.find?_append, hnone, List.find?_cons_of_pos hwritten]
    rfl
  · obtain ⟨before, c, after, later, -, -, -, -, -, hpairs⟩ := pairs_of_writes hnamed hwrites
    simp [hpairs]
  · obtain ⟨b, hb, -, hname⟩ := exists_set_iff.mp ⟨g, hset⟩
    obtain ⟨before, c, after, hcs, hbefore, hc⟩ := exists_first_named ⟨b, hb, hname⟩
    have hread := value?_of_writes hwrites hcs hbefore hc
    refine ⟨before, c, after, hcs, hbefore, hc, value?_append hbefore hc hcs, fun hkind => ?_,
      fun hkind => ?_, fun hkind => ?_⟩
    · rw [hread, if_pos hkind]
    · rw [hread, if_neg hkind]
    · have hmem : c ∈ f.controls := hcs ▸ List.mem_append_right before (.head after)
      have hempty : c.value = "" := hfiles c hmem hkind
      have hother : c.kind ≠ .value := by simp [hkind]
      rw [hread, if_neg hother, hempty]

/-- A field in front of a file input of its name. -/
theorem value?_of_set_of_field_first :
    let page : Url := ⟨"http".toList, [], [], some (.domain "x".toList), none, .names [[]], none,
      none⟩
    let text := "<form name=f><input name=a><input type=file name=a></form>"
    ∃ f g, find text page "f" none = .ok f ∧ (f.fillAll [("a", "1")]).set "a" "2" = .ok g ∧
      g.value? "a" = some "2" := by
  intro page text
  have hfind : find text page "f" none = .ok ⟨"f", "GET", page,
      [⟨"a", "", .value⟩, ⟨"a", "", .file⟩]⟩ := eq_ok_of_toOption (by decide +kernel +revert)
  obtain ⟨g, hg⟩ : ∃ g, (fillAll ⟨"f", "GET", page, [⟨"a", "", .value⟩, ⟨"a", "", .file⟩]⟩
      [("a", "1")]).set "a" "2" = .ok g := ⟨_, rfl⟩
  obtain ⟨-, -, before, c, after, hcs, hbefore, -, -, hread, -⟩ := value?_of_set hfind _ hg
  refine ⟨_, g, hfind, hg, hread ?_⟩
  rcases before with _ | ⟨b, before⟩
  · obtain ⟨rfl, -⟩ := List.cons.inj hcs
    rfl
  · obtain ⟨rfl, -⟩ := List.cons.inj hcs
    exact absurd rfl (hbefore _ (.head _))

/-- A file input in front of a field of its name, where what was set is not read back. -/
theorem value?_of_set_behind_file :
    let page : Url := ⟨"http".toList, [], [], some (.domain "x".toList), none, .names [[]], none,
      none⟩
    let text := "<form name=f><input type=file name=a><input name=a></form>"
    ∃ f g, find text page "f" none = .ok f ∧ f.set "a" "v" = .ok g ∧ g.value? "a" = some "" := by
  intro page text
  have hfind : find text page "f" none = .ok ⟨"f", "GET", page,
      [⟨"a", "", .file⟩, ⟨"a", "", .value⟩]⟩ := eq_ok_of_toOption (by decide +kernel +revert)
  exact ⟨_, _, hfind, rfl, rfl⟩

end PluginRelease.Form
