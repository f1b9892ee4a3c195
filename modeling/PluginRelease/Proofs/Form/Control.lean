import PluginRelease.Form.Basic

/-!
Which elements give a control, and of what kind. Every control but a submit button has a name; a box
that is not checked, a file input and a submit button are no fields.
-/
namespace PluginRelease.Form
open Html

namespace Control
variable {n : Node} {c : Control} {name : String}

def inputType (n : Node) : String := lower ((n.attribute? "type").getD "text")

def buttonType (n : Node) : String := lower ((n.attribute? "type").getD "submit")

def IsUncheckedBox (n : Node) : Prop :=
  n.tag? = some "input" ∧ (inputType n = "checkbox" ∨ inputType n = "radio") ∧
    n.hasAttribute "checked" = false

def IsFileInput (n : Node) : Prop := n.tag? = some "input" ∧ inputType n = "file"

def IsSubmitButton (n : Node) : Prop :=
  n.tag? = some "input" ∧ (inputType n = "submit" ∨ inputType n = "image") ∨
    n.tag? = some "button" ∧ buttonType n = "submit"

/-- Which elements give a control of a kind. -/
def Suits (n : Node) : ControlKind → Prop
  | .submit => IsSubmitButton n
  | .file => IsFileInput n
  | .value => ¬ IsUncheckedBox n ∧ ¬ IsFileInput n ∧ ¬ IsSubmitButton n

/-- What a control has from its element. -/
structure IsOf (c : Control) (n : Node) : Prop where
  name : c.name = own n "name"
  named : c.kind ≠ .submit → c.name ≠ ""
  suits : Suits n c.kind

theorem own_eq_iff (h : name ≠ "") (key : String) :
    own n key = name ↔ n.attribute? key = some name := by
  unfold own
  cases n.attribute? key with
  | none => simpa using h.symm
  | some v => simp

/-- An element that is neither an input nor a button gives a field, or nothing. -/
theorem suits_value_of_tag {tag : String} (htag : n.tag? = some tag) (hinput : tag ≠ "input")
    (hbutton : tag ≠ "button") : Suits n .value := by
  simp [Suits, IsUncheckedBox, IsFileInput, IsSubmitButton, htag, hinput, hbutton]

theorem isOf_input (htag : n.tag? = some "input") (h : ofInput? n = some c) : c.IsOf n := by
  unfold ofInput? at h
  split at h
  · next htype =>
    obtain rfl := Option.some.inj h
    exact ⟨rfl, fun hk => absurd rfl hk, .inl ⟨htag, .inl htype⟩⟩
  · next htype =>
    obtain rfl := Option.some.inj h
    exact ⟨rfl, fun hk => absurd rfl hk, .inl ⟨htag, .inr htype⟩⟩
  · cases h
  · cases h
  · next hsubmit himage _ _ =>
    dsimp only at h
    have hbutton : ¬ IsSubmitButton n := by
      rintro (⟨-, htype | htype⟩ | ⟨hother, -⟩)
      · exact hsubmit htype
      · exact himage htype
      · rw [htag] at hother
        exact absurd (Option.some.inj hother) (by decide)
    split at h
    · cases h
    · next hname =>
      split at h
      · next hfile =>
        obtain rfl := Option.some.inj h
        exact ⟨rfl, fun _ => hname, ⟨htag, hfile⟩⟩
      · next hfile =>
        have hvalue : ∀ hbox : ¬ IsUncheckedBox n, Suits n .value := fun hbox =>
          ⟨hbox, fun hf => hfile hf.2, hbutton⟩
        split at h
        · split at h
          · next hchecked =>
            obtain rfl := Option.some.inj h
            exact ⟨rfl, fun _ => hname, hvalue fun hbox => by simp [hbox.2.2] at hchecked⟩
          · cases h
        · next hbox =>
          obtain rfl := Option.some.inj h
          exact ⟨rfl, fun _ => hname, hvalue fun hunchecked => hbox hunchecked.2.1⟩

theorem isOf_button (htag : n.tag? = some "button") (h : ofButton? n = some c) : c.IsOf n := by
  unfold ofButton? at h
  split at h
  · next htype =>
    obtain rfl := Option.some.inj h
    exact ⟨rfl, fun hk => absurd rfl hk, .inr ⟨htag, htype⟩⟩
  · cases h

theorem isOf_textarea (htag : n.tag? = some "textarea") (h : ofTextarea? n = some c) :
    c.IsOf n := by
  unfold ofTextarea? at h
  split at h
  · cases h
  · next hname =>
    obtain rfl := Option.some.inj h
    exact ⟨rfl, fun _ => hname, suits_value_of_tag htag (by decide) (by decide)⟩

theorem isOf_select (htag : n.tag? = some "select") (h : ofSelect? n = some c) : c.IsOf n := by
  unfold ofSelect? at h
  split at h
  · cases h
  · next hname =>
    obtain ⟨o, -, rfl⟩ := Option.map_eq_some_iff.mp h
    exact ⟨rfl, fun _ => hname, suits_value_of_tag htag (by decide) (by decide)⟩

theorem isOf_of_ofNode? (h : ofNode? n = some c) : c.IsOf n := by
  unfold ofNode? at h
  split at h
  · next htag => exact isOf_input htag h
  · next htag => exact isOf_button htag h
  · next htag => exact isOf_textarea htag h
  · next htag => exact isOf_select htag h
  · cases h

end Control

variable {f : Form} {n : Node} {c : Control} {text name : String} {page : Url}
  {method : Option String}

theorem exists_element (h : c ∈ controlsOf n) : ∃ m ∈ n.descendants, c.IsOf m := by
  obtain ⟨m, hm, hc⟩ := List.mem_filterMap.mp h
  exact ⟨m, hm, Control.isOf_of_ofNode? hc⟩

/-- A form that is found is an element of the page, with the controls below it. -/
theorem exists_of_find (h : find text page name method = .ok f) :
    ∃ n ∈ Node.forest (Html.parse text), isCalled name method n ∧ f.controls = controlsOf n := by
  unfold find findIn at h
  split at h
  · next n hn =>
    unfold ofNode at h
    cases haction : actionOf page n with
    | error e =>
      rw [haction] at h
      cases h
    | ok u =>
      rw [haction] at h
      obtain rfl := Except.ok.inj h
      exact ⟨n, List.mem_of_find?_eq_some hn, List.find?_some hn, rfl⟩
  · cases h

/-- Every control that is no submit button has a name. -/
def WellNamed (f : Form) : Prop := ∀ c ∈ f.controls, c.kind ≠ .submit → c.name ≠ ""

theorem wellNamed_of_find (h : find text page name method = .ok f) : f.WellNamed := by
  obtain ⟨n, -, -, hcontrols⟩ := exists_of_find h
  intro c hc
  rw [hcontrols] at hc
  obtain ⟨m, -, hm⟩ := exists_element hc
  exact hm.named

end PluginRelease.Form
