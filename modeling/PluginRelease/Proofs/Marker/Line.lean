import PluginRelease.Marker
import PluginRelease.Proofs.Text.Lines

/-!
The steps that a marker line is read in. Each accepts one shape of text and says where it ends,
so the shape and what follows it determine each other.
-/
namespace PluginRelease.Marker
open Text

theorem dropStart?_eq_some_iff {start s r : List Char} :
    dropStart? start s = some r ↔ s = start ++ r := by
  refine ⟨eq_append_of_dropStart?, ?_⟩
  rintro rfl
  have hstart : start.isPrefixOf (start ++ r) = true :=
    List.isPrefixOf_iff_prefix.mpr (List.prefix_append start r)
  rw [dropStart?, if_pos hstart, List.drop_left]

theorem dropEnd?_eq_some_iff {tail s r : List Char} :
    dropEnd? tail s = some r ↔ s = r ++ tail := by
  rw [dropEnd?, Option.map_eq_some_iff]
  constructor
  · rintro ⟨t, ht, rfl⟩
    rw [dropStart?_eq_some_iff] at ht
    rw [← List.reverse_reverse s, ht, List.reverse_append, List.reverse_reverse]
  · rintro rfl
    exact ⟨r.reverse, dropStart?_eq_some_iff.mpr (List.reverse_append ..), List.reverse_reverse r⟩

/-- A run is as long as its characters go on. -/
theorem takeRun?_eq_some_iff {p : Char → Bool} {s a b : List Char} :
    takeRun? p s = some (a, b) ↔
      s = a ++ b ∧ a ≠ [] ∧ (∀ c ∈ a, p c = true) ∧ ∀ c ∈ b.head?, p c = false := by
  rw [takeRun?]
  constructor
  · intro h
    obtain ⟨hne, hpair⟩ := Option.ite_none_left_eq_some.mp h
    obtain ⟨rfl, rfl⟩ := Prod.mk.inj (Option.some.inj hpair)
    refine ⟨List.takeWhile_append_dropWhile.symm, ?_, List.all_eq_true.mp List.all_takeWhile, ?_⟩
    · rwa [List.isEmpty_iff] at hne
    · intro c hc
      have hstop := List.head?_dropWhile_not p s
      rw [Option.mem_def.mp hc] at hstop
      exact hstop
  · rintro ⟨rfl, hne, ha, hb⟩
    rw [takeWhile_run ha hb, dropWhile_run ha hb, if_neg (by simpa using hne)]

/-- One space or more. -/
structure IsSpaceRun (s : List Char) : Prop where
  ne_nil : s ≠ []
  spaces : ∀ c ∈ s, c = ' '

/-- One decimal digit or more, of any script. -/
structure IsDigitRun (s : List Char) : Prop where
  ne_nil : s ≠ []
  digits : ∀ c ∈ s, isDecimalDigit c = true

theorem isSpaces_iff {s : List Char} : isSpaces s = true ↔ IsSpaceRun s := by
  simp only [isSpaces, isSpace, Bool.and_eq_true, Bool.not_eq_true', List.isEmpty_eq_false_iff,
    List.all_eq_true, beq_iff_eq]
  exact ⟨fun h => ⟨h.1, h.2⟩, fun h => ⟨h.1, h.2⟩⟩

theorem IsSpaceRun.head?_append {s : List Char} (h : IsSpaceRun s) (t : List Char) :
    (s ++ t).head? = some ' ' := by
  obtain ⟨c, r, rfl⟩ := List.exists_cons_of_ne_nil h.ne_nil
  rw [h.spaces c List.mem_cons_self]
  rfl

theorem IsSpaceRun.isSpace {s : List Char} (h : IsSpaceRun s) : ∀ c ∈ s, isSpace c = true :=
  fun c hc => beq_iff_eq.mpr (h.spaces c hc)

theorem IsDigitRun.head?_append_ne {s : List Char} (h : IsDigitRun s) (t : List Char) :
    (s ++ t).head? ≠ some ' ' := by
  obtain ⟨c, r, rfl⟩ := List.exists_cons_of_ne_nil h.ne_nil
  have hc := h.digits c List.mem_cons_self
  rintro heq
  obtain rfl : c = ' ' := Option.some.inj heq
  exact absurd hc (by decide)

theorem isSpace_of_head? {t : List Char} (ht : t.head? ≠ some ' ') :
    ∀ c ∈ t.head?, isSpace c = false := by
  intro c hc
  refine beq_eq_false_iff_ne.mpr ?_
  rintro rfl
  exact ht hc

theorem takeRun?_spaces_iff {s a b : List Char} :
    takeRun? isSpace s = some (a, b) ↔ s = a ++ b ∧ IsSpaceRun a ∧ b.head? ≠ some ' ' := by
  rw [takeRun?_eq_some_iff]
  constructor
  · rintro ⟨hs, hne, ha, hb⟩
    refine ⟨hs, ⟨hne, fun c hc => beq_iff_eq.mp (ha c hc)⟩, fun hhead => ?_⟩
    exact absurd (hb ' ' hhead) (by decide)
  · rintro ⟨hs, ha, hb⟩
    exact ⟨hs, ha.ne_nil, ha.isSpace, isSpace_of_head? hb⟩

theorem takeRun?_digits_iff {s a b : List Char} :
    takeRun? isDecimalDigit s = some (a, b) ↔
      s = a ++ b ∧ IsDigitRun a ∧ ∀ c ∈ b.head?, isDecimalDigit c = false := by
  rw [takeRun?_eq_some_iff]
  exact ⟨fun ⟨hs, hne, ha, hb⟩ => ⟨hs, ⟨hne, ha⟩, hb⟩,
    fun ⟨hs, ha, hb⟩ => ⟨hs, ha.ne_nil, ha.digits, hb⟩⟩

theorem isDecimalDigit_of_head?_space {t : List Char} (ht : t.head? = some ' ') :
    ∀ c ∈ t.head?, isDecimalDigit c = false := by
  intro c hc
  rw [ht] at hc
  obtain rfl := Option.some.inj hc
  decide

/-- A run of digits and the text behind it, if that starts with a space, are told apart. -/
theorem digits_eq_of_append {a b s t : List Char} (ha : IsDigitRun a) (hb : IsDigitRun b)
    (hs : s.head? = some ' ') (ht : t.head? = some ' ') (h : a ++ s = b ++ t) : a = b := by
  rw [← takeWhile_run ha.digits (isDecimalDigit_of_head?_space hs), h,
    takeWhile_run hb.digits (isDecimalDigit_of_head?_space ht)]

theorem IsDigitRun.reverse {s : List Char} (h : IsDigitRun s) : IsDigitRun s.reverse :=
  ⟨by simpa using h.ne_nil, fun c hc => h.digits c (List.mem_reverse.mp hc)⟩

/-- A run of digits and the text before it, if that ends with a space, are told apart. -/
theorem digits_eq_of_append_digits {a b s t : List Char} (ha : IsDigitRun a) (hb : IsDigitRun b)
    (hs : s.getLast? = some ' ') (ht : t.getLast? = some ' ') (h : s ++ a = t ++ b) : a = b := by
  have hback : a.reverse ++ s.reverse = b.reverse ++ t.reverse := by
    rw [← List.reverse_append, ← List.reverse_append, h]
  refine List.reverse_inj.mp (digits_eq_of_append ha.reverse hb.reverse ?_ ?_ hback)
  · rwa [List.head?_reverse]
  · rwa [List.head?_reverse]

end PluginRelease.Marker
