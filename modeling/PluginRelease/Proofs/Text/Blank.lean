import PluginRelease.Text.Blank
import PluginRelease.Text.Digit

/-!
Runs of characters and blanks at the ends of a text. A run goes on up to a character of another
kind; what is cut off the ends is blank, so what shows stays, and digits do.
-/
namespace PluginRelease.Text

section Run
variable {p : Char → Bool} {a b : List Char} (ha : ∀ c ∈ a, p c = true)
  (hb : ∀ c ∈ b.head?, p c = false)
include ha hb

theorem takeWhile_run : (a ++ b).takeWhile p = a := by
  rw [List.takeWhile_append_of_pos ha]
  cases b with
  | nil => simp
  | cons c b => simp [hb c rfl]

theorem dropWhile_run : (a ++ b).dropWhile p = b := by
  rw [List.dropWhile_append_of_pos ha]
  cases b with
  | nil => rfl
  | cons c b => simp [hb c rfl]

end Run

theorem isBlankText_of_mem {s : List Char} {c : Char} (hc : c ∈ s) (hshown : isBlank c = false) :
    isBlankText s = false := by
  rw [isBlankText, List.all_eq_false]
  exact ⟨c, hc, by simp [hshown]⟩

theorem isBlank_of_isDecimalDigit {c : Char} (h : isDecimalDigit c = true) :
    isBlank c = false := by
  have hapart : ∀ z ∈ digitZeros, ∀ r ∈ blankRanges, r.2 < z ∨ z + 10 ≤ r.1 := by decide
  obtain ⟨z, hz, hc⟩ := List.any_eq_true.mp h
  rw [Bool.and_eq_true, decide_eq_true_eq, decide_eq_true_eq] at hc
  unfold isBlank
  rw [List.any_eq_false]
  intro r hr hblank
  rw [Bool.and_eq_true, decide_eq_true_eq, decide_eq_true_eq] at hblank
  have hzr := hapart z hz r hr
  omega

theorem trimEnd_eq_self {s : List Char} (h : ∀ c ∈ s.getLast?, isBlank c = false) :
    trimEnd s = s := by
  rcases List.eq_nil_or_concat s with rfl | ⟨r, c, rfl⟩
  · rfl
  · simp [trimEnd, h c (by simp)]

theorem mem_dropWhile_of_shown {s : List Char} {c : Char} (hc : c ∈ s)
    (hshown : isBlank c = false) : c ∈ s.dropWhile isBlank := by
  rw [← List.takeWhile_append_dropWhile (p := isBlank) (l := s)] at hc
  rcases List.mem_append.mp hc with hc | hc
  · have hblank := List.all_eq_true.mp List.all_takeWhile c hc
    rw [hshown] at hblank
    cases hblank
  · exact hc

theorem mem_trim {s : List Char} {c : Char} (hc : c ∈ s) (hshown : isBlank c = false) :
    c ∈ trim s := by
  have hstart : c ∈ (trimStart s).reverse := by
    rw [List.mem_reverse]
    exact mem_dropWhile_of_shown hc hshown
  rw [trim, trimEnd, List.mem_reverse]
  exact mem_dropWhile_of_shown hstart hshown

theorem trim_ne_nil_iff {s : List Char} : trim s ≠ [] ↔ isBlankText s = false := by
  constructor
  · intro h
    cases hblank : isBlankText s with
    | false => rfl
    | true => exact absurd (trim_eq_nil_of_isBlankText hblank) h
  · intro h
    obtain ⟨c, hc, hshown⟩ := List.all_eq_false.mp h
    exact List.ne_nil_of_mem (mem_trim hc (by simpa using hshown))

theorem trim_eq_self {s : List Char} (h : ∀ c ∈ s, isBlank c = false) : trim s = s := by
  have hstart : trimStart s = s := by
    unfold trimStart
    cases s with
    | nil => rfl
    | cons c cs => rw [List.dropWhile_cons_of_neg (by simp [h c])]
  rw [trim, hstart]
  apply trimEnd_eq_self
  intro c hc
  exact h c (List.mem_of_getLast? hc)

end PluginRelease.Text
