import PluginRelease.Changelog
import PluginRelease.Proofs.Text.Lines
import Mathlib.Data.List.Forall2

/-!
The change log of a one-line log. It has the lines of the log that are not ignored, the oldest
first, with a dash for the hash that each starts with, so no hash has a part in it.
-/
namespace PluginRelease.Changelog
open Text

/-- What a line may start with: one character or more, none of them blank. -/
structure IsHash (s : List Char) : Prop where
  ne_nil : s ≠ []
  shown : ∀ c ∈ s, isBlank c = false

/-- The same line, but for its hash. -/
inductive SameButHash : List Char → List Char → Prop
  | same (line : List Char) : SameButHash line line
  | renamed {a b rest : List Char} (ha : IsHash a) (hb : IsHash b)
      (hrest : ∀ c ∈ rest.head?, isBlank c = true) : SameButHash (a ++ rest) (b ++ rest)

/-- The text of a change log, which is empty if there is none. -/
def body (ignore : List Char → Bool) (log : List (List Char)) : List Char :=
  (ofLog? ignore log).getD []

/-! ## One line -/

theorem dropWhile_append_blank {name rest : List Char} (hname : ∀ c ∈ name, isBlank c = false)
    (hrest : ∀ c ∈ rest.head?, isBlank c = true) :
    (name ++ rest).dropWhile (!isBlank ·) = rest := by
  apply dropWhile_run
  · intro c hc
    rw [hname c hc]
    rfl
  · intro c hc
    rw [hrest c hc]
    rfl

/-- The dash takes the place of the hash alone. -/
theorem dashed_append {hash rest : List Char} (hhash : IsHash hash)
    (hrest : ∀ c ∈ rest.head?, isBlank c = true) : dashed (hash ++ rest) = '-' :: rest := by
  obtain ⟨c, cs, rfl⟩ := List.exists_cons_of_ne_nil hhash.ne_nil
  have hc := hhash.shown c List.mem_cons_self
  have hcs := dropWhile_append_blank
    (fun d hd => hhash.shown d (List.mem_cons_of_mem c hd)) hrest
  rw [List.cons_append, dashed, hc, if_neg (by decide), hcs]

theorem dashed_of_head?_blank {line : List Char} (h : ∀ c ∈ line.head?, isBlank c = true) :
    dashed line = line := by
  cases line with
  | nil => rfl
  | cons c cs => rw [dashed, if_pos (h c rfl)]

theorem SameButHash.dashed_eq {line other : List Char} (h : SameButHash line other) :
    dashed other = dashed line := by
  cases h with
  | same => rfl
  | renamed ha hb hrest => rw [dashed_append ha hrest, dashed_append hb hrest]

/-! ## All lines -/

section Log
variable {ignore : List Char → Bool} {log other : List (List Char)}

theorem entries_eq (ignore : List Char → Bool) (log : List (List Char)) :
    entries ignore log = ((log.map dashed).filter (!ignore ·)).reverse := by
  rw [entries, List.map_reverse, List.filter_reverse]

theorem entries_append (ignore : List Char → Bool) (newer older : List (List Char)) :
    entries ignore (newer ++ older) = entries ignore older ++ entries ignore newer := by
  rw [entries_eq, entries_eq, entries_eq, List.map_append, List.filter_append,
    List.reverse_append]

theorem entries_eq_nil_iff : entries ignore log = [] ↔ ∀ line ∈ log, ignore (dashed line) = true := by
  rw [entries_eq, List.reverse_eq_nil_iff, List.filter_eq_nil_iff]
  simp

theorem entries_congr (h : List.Forall₂ SameButHash log other) :
    entries ignore other = entries ignore log := by
  have hdashed : other.map dashed = log.map dashed := by
    induction h with
    | nil => rfl
    | cons hline hrest ih => rw [List.map_cons, List.map_cons, hline.dashed_eq, ih]
  rw [entries_eq, entries_eq, hdashed]

theorem ofLog?_eq_none_iff : ofLog? ignore log = none ↔ entries ignore log = [] := by
  rw [ofLog?, ← List.isEmpty_iff]
  by_cases h : (entries ignore log).isEmpty = true
  · simp [h]
  · simp [h]

theorem ofLog?_of_ne_nil (h : entries ignore log ≠ []) :
    ofLog? ignore log = some (unlines (entries ignore log)) := by
  rw [ofLog?, if_neg (by simpa using h)]
  rfl

theorem body_eq (ignore : List Char → Bool) (log : List (List Char)) :
    body ignore log = unlines (entries ignore log) := by
  unfold body
  by_cases h : entries ignore log = []
  · rw [ofLog?_eq_none_iff.mpr h, h]
    rfl
  · rw [ofLog?_of_ne_nil h]
    rfl

theorem unlines_append (ls ms : List (List Char)) : unlines (ls ++ ms) = unlines ls ++ unlines ms :=
  List.flatMap_append

end Log

/-- The change log of a log, in closed form. A dash takes the place of what a line starts with,
and a line that starts with a blank or is empty stays as it is; the lines that are not ignored, in
this form, follow each other with the oldest first and one line end each, and there is no change
log where none is left. Other hashes make no difference, and the change log of older commits
stands before that of newer ones. -/
theorem ofLog?_lists_dashed_lines (ignore : List Char → Bool) :
    (∀ hash rest, IsHash hash → (∀ c ∈ rest.head?, isBlank c = true) →
      dashed (hash ++ rest) = '-' :: rest) ∧
    (∀ line, (∀ c ∈ line.head?, isBlank c = true) → dashed line = line) ∧
    (∀ log, ofLog? ignore log = none ↔ ∀ line ∈ log, ignore (dashed line) = true) ∧
    (∀ log, (∃ line ∈ log, ignore (dashed line) = false) →
      ofLog? ignore log = some (unlines ((log.map dashed).filter (!ignore ·)).reverse)) ∧
    (∀ log other, List.Forall₂ SameButHash log other →
      ofLog? ignore other = ofLog? ignore log) ∧
    ∀ newer older, body ignore (newer ++ older) = body ignore older ++ body ignore newer := by
  refine ⟨fun hash rest => dashed_append, fun line => dashed_of_head?_blank, ?_, ?_, ?_, ?_⟩
  · intro log
    rw [ofLog?_eq_none_iff, entries_eq_nil_iff]
  · rintro log ⟨line, hline, hkept⟩
    have hne : entries ignore log ≠ [] := by
      intro hnil
      rw [entries_eq_nil_iff.mp hnil line hline] at hkept
      cases hkept
    rw [ofLog?_of_ne_nil hne, entries_eq]
  · intro log other hsame
    rw [ofLog?, ofLog?, entries_congr hsame]
  · intro newer older
    rw [body_eq, body_eq, body_eq, entries_append, unlines_append]

/-- A hash with an ignored letter, beside a line that has the letter. -/
theorem ofLog?_lists_dashed_lines_of_renamed_commit :
    let ignore (line : List Char) : Bool := line.contains 'f'
    let log := ["f1 Add b".toList, "77 Undo fix".toList, "a0 Add a".toList]
    let other := ["c0 Add b".toList, "77 Undo fix".toList, "a0 Add a".toList]
    ofLog? ignore log = some "- Add a\n- Add b\n".toList ∧
      ofLog? ignore other = some "- Add a\n- Add b\n".toList := by
  intro ignore log other
  obtain ⟨-, -, -, hsome, hsame, -⟩ := ofLog?_lists_dashed_lines ignore
  have hkept : ∃ line ∈ log, ignore (dashed line) = false :=
    ⟨"a0 Add a".toList, by decide, by decide⟩
  have hash {s : List Char} (hne : s ≠ []) (hs : s.any isBlank = false) : IsHash s :=
    ⟨hne, by simpa using hs⟩
  have hold : IsHash "f1".toList := hash (by decide) (by decide)
  have hnew : IsHash "c0".toList := hash (by decide) (by decide)
  have hrest : ∀ c ∈ " Add b".toList.head?, isBlank c = true := by
    rw [show " Add b".toList.head? = some ' ' by decide]
    rintro c ⟨⟩
    decide
  have hrenamed : SameButHash "f1 Add b".toList "c0 Add b".toList := by
    have h := SameButHash.renamed hold hnew hrest
    rwa [← String.toList_append, ← String.toList_append] at h
  have hlog : ofLog? ignore log = some "- Add a\n- Add b\n".toList := by
    rw [hsome log hkept]
    decide
  have hother := hsame log other (.cons hrenamed (.cons (.same _) (.cons (.same _) .nil)))
  exact ⟨hlog, hother.trans hlog⟩

end PluginRelease.Changelog
