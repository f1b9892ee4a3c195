import PluginRelease.Proofs.Text.Utf8
import PluginRelease.Workspace.Path

/-!
The bytes of a path: the pieces that slashes cut them into, and the text that they may be.
-/
namespace PluginRelease

namespace Text
variable {α : Type} [DecidableEq α] {sep c : α} {s p : List α} {ps : List (List α)}

theorem splitOn_append_sep (sep : α) (s t : List α) :
    splitOn sep (s ++ sep :: t) = splitOn sep s ++ splitOn sep t := by
  induction s with
  | nil => simp [splitOn]
  | cons c cs ih =>
    rw [List.cons_append, splitOn, splitOn]
    split
    · rw [ih, List.cons_append]
    · rw [ih]
      cases hp : splitOn sep cs with
      | nil => exact absurd hp (splitOn_ne_nil sep cs)
      | cons p ps => rfl

theorem splitOn_of_not_mem (h : sep ∉ s) : splitOn sep s = [s] := by
  induction s with
  | nil => rfl
  | cons c cs ih =>
    rw [List.mem_cons, not_or] at h
    rw [splitOn, if_neg (Ne.symm h.1), ih h.2]

theorem splitOn_joinWith (hne : ps ≠ []) (h : ∀ p ∈ ps, sep ∉ p) :
    splitOn sep (joinWith [sep] ps) = ps := by
  induction ps with
  | nil => exact absurd rfl hne
  | cons p ps ih =>
    have hp := splitOn_of_not_mem (h p (.head _))
    cases ps with
    | nil => exact hp
    | cons q qs =>
      have hrest := ih (by simp) fun r hr => h r (.tail _ hr)
      rw [joinWith, List.append_assoc, List.singleton_append, splitOn_append_sep, hp, hrest]
      · rfl
      · simp

theorem mem_of_mem_splitOn (hp : p ∈ splitOn sep s) (hc : c ∈ p) : c ∈ s ∧ c ≠ sep := by
  induction s generalizing p with
  | nil => simp_all [splitOn]
  | cons d ds ih =>
    rw [splitOn] at hp
    split at hp
    · rcases List.mem_cons.mp hp with rfl | hp
      · cases hc
      · exact ⟨.tail _ (ih hp hc).1, (ih hp hc).2⟩
    · next hd =>
      cases hds : splitOn sep ds with
      | nil => exact absurd hds (splitOn_ne_nil sep ds)
      | cons q qs =>
        rw [hds] at hp ih
        rcases List.mem_cons.mp hp with rfl | hp
        · rcases List.mem_cons.mp hc with rfl | hc
          · exact ⟨.head _, hd⟩
          · exact ⟨.tail _ (ih (.head _) hc).1, (ih (.head _) hc).2⟩
        · exact ⟨.tail _ (ih (.tail _ hp) hc).1, (ih (.tail _ hp) hc).2⟩

theorem mem_joinWith {α : Type} {sep c : α} {ps : List (List α)} (h : c ∈ joinWith [sep] ps) :
    c = sep ∨ ∃ p ∈ ps, c ∈ p := by
  induction ps with
  | nil => cases h
  | cons p ps ih =>
    cases ps with
    | nil => exact .inr ⟨p, .head _, h⟩
    | cons q qs =>
      rw [joinWith, List.append_assoc, List.mem_append, List.singleton_append, List.mem_cons] at h
      · rcases h with h | rfl | h
        · exact .inr ⟨p, .head _, h⟩
        · exact .inl rfl
        · rcases ih h with hsep | ⟨r, hr, hc⟩
          · exact .inl hsep
          · exact .inr ⟨r, .tail _ hr, hc⟩
      · simp

/-- A list is what is left of it without a tail, and that tail. -/
theorem exists_dropEndWhile_append {α : Type} (p : α → Bool) (s : List α) :
    ∃ t, s = dropEndWhile p s ++ t ∧ ∀ a ∈ t, p a = true := by
  refine ⟨(s.reverse.takeWhile p).reverse, ?_, ?_⟩
  · rw [dropEndWhile, ← List.reverse_append, List.takeWhile_append_dropWhile, List.reverse_reverse]
  · intro a ha
    exact List.all_eq_true.mp List.all_takeWhile a (List.mem_reverse.mp ha)

theorem getLast?_dropEndWhile {α : Type} {p : α → Bool} {s : List α} {a : α}
    (h : (dropEndWhile p s).getLast? = some a) : p a = false := by
  rw [dropEndWhile, List.getLast?_reverse] at h
  have hhead := List.head?_dropWhile_not p s.reverse
  rw [h] at hhead
  exact hhead

end Text

namespace Path
variable {base p : Path}

/-! ## Texts -/

@[simp] theorem text_ofText (s : String) : (ofText s).text = s := Utf8.shown_ofText s

/-- The bytes of the path are those of a text. -/
def IsText (p : Path) : Prop := ∃ s, p = ofText s

/-- A path that is a text is named by the text that it is shown as, and no other path is. -/
theorem isText_iff : p.IsText ↔ ofText p.text = p := by
  constructor
  · rintro ⟨s, rfl⟩
    rw [text_ofText]
  · intro h
    exact ⟨p.text, h.symm⟩

/-- A path that is no text: its second byte stands for no character. -/
def broken : Path := ⟨[0x61, 0xFF, 0x2E, 0x76, 0x62, 0x61]⟩

theorem text_broken : broken.text = "a\ufffd.vba" := by
  simp only [broken, text, Utf8.shown, Utf8.decodeLossy, Utf8.pieces, Utf8.lead]
  decide

theorem bytes_ne_nil_of_text (h : p.text ≠ "") : p.bytes ≠ [] := by
  intro hempty
  rw [text, hempty, Utf8.shown, Utf8.decodeLossy_nil] at h
  exact h rfl

/-! ## Joins -/

/-- Both parts of a join keep their bytes, with one slash between them. -/
theorem exists_bytes_join (hbase : base.bytes ≠ []) (hp : p.isAbsolute = false) :
    ∃ s, (base.join p).bytes = s ++ slash :: p.bytes ∧
      (base.bytes = s ∨ base.bytes = s ++ [slash]) := by
  unfold join
  rw [hp, if_neg (by decide)]
  split
  · next h =>
    rw [List.getLast?_eq_none_iff] at h
    exact absurd h hbase
  · next b h =>
    obtain ⟨s, hs⟩ := List.getLast?_eq_some_iff.mp h
    split
    · next hb =>
      subst hb
      exact ⟨s, by simp [hs], .inr hs⟩
    · exact ⟨base.bytes, rfl, .inl rfl⟩

end Path
end PluginRelease
