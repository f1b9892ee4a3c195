import PluginRelease.Proofs.Failure
import PluginRelease.Proofs.Form.Sending

/-!
Filling in a form. A field that is set is the first of its name, and nothing but its value changes,
in the form as well as in what is sent of it.
-/
namespace PluginRelease.Form
open Html
variable {f g : Form} {name value : String} {cs ds before after : List Control} {c : Control}

/-! ## One field -/

theorem isField_iff : c.isField name = true ↔ c.kind = .value ∧ c.name = name := by
  simp [Control.isField, and_comm]

@[simp] theorem isField_withValue (c : Control) (name value : String) :
    Control.isField name { c with value } = c.isField name := rfl

def HasField (f : Form) (name : String) : Prop := ∃ c ∈ f.controls, c.kind = .value ∧ c.name = name

/-- The first field of a name has another value, and all else is as before. -/
def Writes (name value : String) (f g : Form) : Prop :=
  ∃ before c after, f.controls = before ++ c :: after ∧
    (∀ b ∈ before, ¬ (b.kind = .value ∧ b.name = name)) ∧ (c.kind = .value ∧ c.name = name) ∧
    g = { f with controls := before ++ { c with value } :: after }

theorem setFirst_append (hbefore : ∀ b ∈ before, b.isField name = false)
    (hc : c.isField name = true) (value : String) (after : List Control) :
    setFirst name value (before ++ c :: after) = some (before ++ { c with value } :: after) := by
  induction before with
  | nil => rw [List.nil_append, setFirst, if_pos hc, List.nil_append]
  | cons b bs ih =>
    have hb : ¬ b.isField name = true := by simp [hbefore b]
    rw [List.cons_append, setFirst, if_neg hb, ih fun b hb => hbefore b (.tail _ hb)]
    rfl

theorem setFirst_eq_none_iff :
    setFirst name value cs = none ↔ ∀ c ∈ cs, c.isField name = false := by
  induction cs with
  | nil => simp [setFirst]
  | cons c cs ih =>
    rw [setFirst]
    split
    · next hc => simp [hc]
    · next hc => simp [hc, ih]

/-- A list holds a field of a name behind controls that are none, or nowhere. -/
theorem exists_first_field (h : ∃ c ∈ cs, c.isField name = true) :
    ∃ before c after, cs = before ++ c :: after ∧ (∀ b ∈ before, b.isField name = false) ∧
      c.isField name = true := by
  have hfound : (cs.find? (·.isField name)).isSome := by simpa using h
  obtain ⟨c, hc⟩ := Option.isSome_iff_exists.mp hfound
  obtain ⟨hfield, before, after, hcs, hbefore⟩ := List.find?_eq_some_iff_append.mp hc
  exact ⟨before, c, after, hcs, fun b hb => by simpa using hbefore b hb, hfield⟩

theorem hasField_iff : f.HasField name ↔ ∃ c ∈ f.controls, c.isField name = true := by
  simp [HasField, isField_iff]

theorem set_of_writes (h : Writes name value f g) : f.set name value = .ok g := by
  obtain ⟨before, c, after, hcs, hbefore, hc, rfl⟩ := h
  have hnone : ∀ b ∈ before, b.isField name = false := by simpa [← isField_iff] using hbefore
  rw [set, hcs, setFirst_append hnone (isField_iff.mpr hc)]

theorem exists_writes (h : f.HasField name) (value : String) : ∃ g, Writes name value f g := by
  obtain ⟨before, c, after, hcs, hbefore, hc⟩ := exists_first_field (hasField_iff.mp h)
  refine ⟨_, before, c, after, hcs, fun b hb => ?_, isField_iff.mp hc, rfl⟩
  simp [← isField_iff, hbefore b hb]

theorem set_of_not_hasField (h : ¬ f.HasField name) (value : String) :
    f.set name value = .error (.fieldNotFound f.name name) := by
  have hnone : setFirst name value f.controls = none := by
    simpa [setFirst_eq_none_iff, hasField_iff] using h
  rw [set, hnone]

theorem set_eq_ok_iff : f.set name value = .ok g ↔ Writes name value f g := by
  refine ⟨fun h => ?_, set_of_writes⟩
  by_cases hfield : f.HasField name
  · obtain ⟨written, hwritten⟩ := exists_writes hfield value
    rw [set_of_writes hwritten] at h
    exact Except.ok.inj h ▸ hwritten
  · rw [set_of_not_hasField hfield] at h
    cases h

theorem exists_set_iff : (∃ g, f.set name value = .ok g) ↔ f.HasField name := by
  constructor
  · rintro ⟨g, hg⟩
    obtain ⟨before, c, after, hcs, -, hc, -⟩ := set_eq_ok_iff.mp hg
    exact ⟨c, by simp [hcs], hc⟩
  · intro hfield
    obtain ⟨g, hg⟩ := exists_writes hfield value
    exact ⟨g, set_of_writes hg⟩

theorem set_eq_error_iff {e : FormFailure} :
    f.set name value = .error e ↔ ¬ f.HasField name ∧ e = .fieldNotFound f.name name := by
  constructor
  · intro h
    have hfield : ¬ f.HasField name := by
      intro hfield
      obtain ⟨g, hg⟩ := exists_writes hfield value
      rw [set_of_writes hg] at h
      cases h
    rw [set_of_not_hasField hfield] at h
    exact ⟨hfield, (Except.error.inj h).symm⟩
  · rintro ⟨hfield, rfl⟩
    exact set_of_not_hasField hfield value

/-! ## Many fields -/

/-- A form after an attempt to set a field. -/
def fill (f : Form) (entry : String × String) : Form :=
  match f.set entry.1 entry.2 with
  | .ok g => g
  | .error _ => f

def fillAll (f : Form) (entries : List (String × String)) : Form := entries.foldl fill f

def fillFirst (name value : String) : List Control → List Control
  | [] => []
  | c :: cs => if c.isField name then { c with value } :: cs else c :: fillFirst name value cs

theorem fillFirst_eq (name value : String) (cs : List Control) :
    fillFirst name value cs = (setFirst name value cs).getD cs := by
  induction cs with
  | nil => rfl
  | cons c cs ih =>
    rw [fillFirst, setFirst]
    split
    · rfl
    · rw [ih]
      cases setFirst name value cs <;> rfl

theorem fill_eq (f : Form) (name value : String) :
    f.fill (name, value) = { f with controls := fillFirst name value f.controls } := by
  rw [fill, set, fillFirst_eq]
  cases setFirst name value f.controls <;> rfl

theorem fillFirst_again (name value other : String) (cs : List Control) :
    fillFirst name value (fillFirst name other cs) = fillFirst name value cs := by
  induction cs with
  | nil => rfl
  | cons c cs ih =>
    by_cases hc : c.isField name
    · simp [fillFirst, hc]
    · simp [fillFirst, hc, ih]

theorem isField_ne {other : String} (hc : c.isField name = true) (hne : other ≠ name) :
    c.isField other = false := by
  rw [Bool.eq_false_iff, ne_eq, isField_iff]
  rintro ⟨-, rfl⟩
  exact hne (isField_iff.mp hc).2

theorem fillFirst_comm {other : String} (hne : other ≠ name) (value entry : String)
    (cs : List Control) : fillFirst other entry (fillFirst name value cs) =
      fillFirst name value (fillFirst other entry cs) := by
  induction cs with
  | nil => rfl
  | cons c cs ih =>
    by_cases hc : c.isField name
    · simp [fillFirst, hc, isField_ne hc hne]
    · by_cases hother : c.isField other
      · simp [fillFirst, hc, hother]
      · simp [fillFirst, hc, hother, ih]

theorem fill_of_set (h : f.set name value = .ok g) : f.fill (name, value) = g := by
  rw [fill, h]

theorem fill_of_not_hasField (h : ¬ f.HasField name) (value : String) :
    f.fill (name, value) = f := by
  rw [fill, set_of_not_hasField h]

/-- Filling in a form changes no name and no kind. -/
theorem map_fill (f : Form) (entry : String × String) :
    (f.fill entry).controls.map (fun c => (c.name, c.kind)) =
      f.controls.map fun c => (c.name, c.kind) := by
  obtain ⟨name, value⟩ := entry
  rw [fill_eq]
  dsimp only
  induction f.controls with
  | nil => rfl
  | cons c cs ih =>
    rw [fillFirst]
    split
    · rfl
    · simp [ih]

theorem map_fillAll (f : Form) (entries : List (String × String)) :
    (f.fillAll entries).controls.map (fun c => (c.name, c.kind)) =
      f.controls.map fun c => (c.name, c.kind) := by
  induction entries generalizing f with
  | nil => rfl
  | cons e es ih =>
    rw [fillAll, List.foldl_cons, ← map_fill f e]
    exact ih (f.fill e)

theorem wellNamed_iff : f.WellNamed ↔
    ∀ p ∈ f.controls.map fun c => (c.name, c.kind), p.2 ≠ .submit → p.1 ≠ "" := by
  simp [WellNamed]

theorem WellNamed.fillAll (hf : f.WellNamed) (entries : List (String × String)) :
    (f.fillAll entries).WellNamed := by
  rw [wellNamed_iff, map_fillAll]
  exact wellNamed_iff.mp hf

theorem hasField_iff_mem : f.HasField name ↔
    (name, .value) ∈ f.controls.map fun c => (c.name, c.kind) := by
  simp [HasField, and_comm]

theorem hasField_fill_iff {other : String} (entry : String × String) :
    (f.fill entry).HasField other ↔ f.HasField other := by
  rw [hasField_iff_mem, map_fill, ← hasField_iff_mem]

/-! ## Forms of a page -/

variable {n : Node} {text : String} {page : Url} {method : Option String}

theorem WellNamed.not_hasField_empty (hf : f.WellNamed) : ¬ f.HasField "" := by
  rintro ⟨c, hc, hkind, hname⟩
  exact hf c hc (by simp [hkind]) hname

/-- A name that only unchecked boxes, file inputs and submit buttons bear is that of no field. -/
theorem not_hasField_of_elements (hcontrols : f.controls = controlsOf n) (hf : f.WellNamed)
    (h : ∀ m ∈ n.descendants, m.attribute? "name" = some name → Control.IsUncheckedBox m ∨
      Control.IsFileInput m ∨ Control.IsSubmitButton m) : ¬ f.HasField name := by
  rintro ⟨c, hc, hkind, rfl⟩
  have hname : c.name ≠ "" := hf c hc (by simp [hkind])
  rw [hcontrols] at hc
  obtain ⟨m, hm, hof⟩ := exists_element hc
  obtain ⟨hbox, hfile, hsubmit⟩ : Control.Suits m .value := hkind ▸ hof.suits
  rcases h m hm ((Control.own_eq_iff hname "name").mp hof.name.symm) with h | h | h
  · exact hbox h
  · exact hfile h
  · exact hsubmit h

/-- Of what is sent, a field that is set changes its own entry only. -/
theorem pairs_of_writes (hf : f.WellNamed) (h : Writes name value f g) :
    ∃ before c after later, f.controls = before ++ c :: after ∧
      (∀ b ∈ before, ¬ (b.kind = .value ∧ b.name = name)) ∧ (c.kind = .value ∧ c.name = name) ∧
      g = { f with controls := before ++ { c with value } :: after } ∧
      f.pairs = pairs { f with controls := before } ++ (name, c.value) :: later ∧
      g.pairs = pairs { f with controls := before } ++ (name, value) :: later := by
  obtain ⟨before, c, after, hcs, hbefore, ⟨hkind, rfl⟩, rfl⟩ := h
  have hname : c.name ≠ "" := hf c (by simp [hcs]) (by simp [hkind])
  obtain ⟨later, hlater⟩ := exists_pairs_append f before after
  refine ⟨before, c, after, later, hcs, hbefore, ⟨hkind, rfl⟩, rfl, ?_, ?_⟩
  · rw [← hlater c hkind hname, ← hcs]
  · exact hlater { c with value } hkind hname

/-- A field can be set if and only if the form has one of its name, which is never the empty name
and never that of unchecked boxes, file inputs and submit buttons alone. A form without it stays as
it is; in a form with it only the value of the first of the name changes, and so it does in what is
sent. The last value stays, and two fields may be set in either order. -/
theorem set_writes_one_field (hfind : find text page name method = .ok f)
    (field value : String) :
    ((∃ g, f.set field value = .ok g) ↔ ∃ c ∈ f.controls, c.kind = .value ∧ c.name = field) ∧
    (∀ e, f.set field value = .error e →
      e = .fieldNotFound f.name field ∧ f.fill (field, value) = f) ∧
    (∀ g, f.set field value = .ok g → f.fill (field, value) = g ∧
      ∃ before c after later, f.controls = before ++ c :: after ∧
        (∀ b ∈ before, ¬ (b.kind = .value ∧ b.name = field)) ∧
        (c.kind = .value ∧ c.name = field) ∧
        g = { f with controls := before ++ { c with value } :: after } ∧
        f.pairs = pairs { f with controls := before } ++ (field, c.value) :: later ∧
        g.pairs = pairs { f with controls := before } ++ (field, value) :: later) ∧
    (∀ first, (f.fill (field, first)).fill (field, value) = f.fill (field, value)) ∧
    (∀ other entry, other ≠ field → (f.fill (field, value)).fill (other, entry) =
      (f.fill (other, entry)).fill (field, value) ∧
        ((∃ g, (f.fill (field, value)).set other entry = .ok g) ↔
          ∃ g, f.set other entry = .ok g)) ∧
    ∃ n ∈ Node.forest (Html.parse text), isCalled name method n ∧ f.controls = controlsOf n ∧
      ((field = "" ∨ ∀ m ∈ n.descendants, m.attribute? "name" = some field →
        Control.IsUncheckedBox m ∨ Control.IsFileInput m ∨ Control.IsSubmitButton m) →
          f.set field value = .error (.fieldNotFound f.name field)) := by
  have hf := wellNamed_of_find hfind
  obtain ⟨n, hn, hcalled, hcontrols⟩ := exists_of_find hfind
  refine ⟨exists_set_iff, ?_, ?_, ?_, ?_, n, hn, hcalled, hcontrols, ?_⟩
  · intro e he
    obtain ⟨hfield, rfl⟩ := set_eq_error_iff.mp he
    exact ⟨rfl, fill_of_not_hasField hfield value⟩
  · intro g hg
    exact ⟨fill_of_set hg, pairs_of_writes hf (set_eq_ok_iff.mp hg)⟩
  · intro first
    simp only [fill_eq, fillFirst_again]
  · intro other entry hne
    refine ⟨?_, ?_⟩
    · simp only [fill_eq, fillFirst_comm hne]
    · rw [exists_set_iff, exists_set_iff, hasField_fill_iff]
  · rintro (rfl | hother)
    · exact set_of_not_hasField hf.not_hasField_empty value
    · exact set_of_not_hasField (not_hasField_of_elements hcontrols hf hother) value

/-- A file input and two fields of one name. -/
theorem set_writes_one_field_of_repeated_name :
    let page : Url := ⟨"http".toList, [], [], some (.domain "x".toList), none, .names [[]], none,
      none⟩
    let text := "<form name=f><input type=file name=a><input name=a value=1><input name=a></form>"
    ∃ f g later, find text page "f" none = .ok f ∧ f.set "a" "v" = .ok g ∧
      f.pairs = ("a", "1") :: later ∧ g.pairs = ("a", "v") :: later ∧
      f.set "" "v" = .error (.fieldNotFound "f" "") := by
  intro page text
  have hfind : find text page "f" none = .ok ⟨"f", "GET", page,
      [⟨"a", "", .file⟩, ⟨"a", "1", .value⟩, ⟨"a", "", .value⟩]⟩ :=
    eq_ok_of_toOption (by decide +kernel +revert)
  obtain ⟨hiff, -, hset, -⟩ := set_writes_one_field hfind "a" "v"
  obtain ⟨-, -, -, -, -, n, -, -, -, hempty⟩ := set_writes_one_field hfind "" "v"
  obtain ⟨g, hg⟩ := hiff.mpr ⟨⟨"a", "1", .value⟩, by simp, rfl, rfl⟩
  obtain ⟨-, before, c, after, later, hcs, hbefore, hc, -, hpairs, hwritten⟩ := hset g hg
  refine ⟨_, g, later, hfind, hg, ?_⟩
  rcases before with _ | ⟨b, _ | ⟨b', before⟩⟩ <;>
    simp only [List.nil_append, List.cons_append, List.cons.injEq] at hcs
  · obtain ⟨rfl, -⟩ := hcs
    exact absurd hc.1 (by decide)
  · obtain ⟨rfl, rfl, -⟩ := hcs
    exact ⟨hpairs, hwritten, hempty (.inl rfl)⟩
  · obtain ⟨-, rfl, -⟩ := hcs
    exact absurd ⟨rfl, rfl⟩ (hbefore _ (.tail _ (.head _)))

end PluginRelease.Form
