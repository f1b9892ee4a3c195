import PluginRelease.Yaml.Scalar.Block
import PluginRelease.Proofs.Yaml.Character

/-!
A literal block is read as its text. Reading takes the characters of the text one by one, and
what was read can be seen at any time; the header says what becomes of the breaks at the end.
-/
namespace PluginRelease.Yaml.Block
open Writer

namespace Lines

/-- The next character of a text whose margins are gone. -/
def feed (l : Lines) (c : Char) : Lines :=
  if isBreak c then
    if l.inLine then { l with ending := some c, inLine := false }
    else { l with blank := c :: l.blank }
  else if l.inLine then { l with done := c :: l.done }
  else l.startLine true c

/-- All of what was read, in reverse. -/
def seen (l : Lines) : List Char := l.blank ++ l.ended

/-- Inside a line there are no breaks that wait for the next one. -/
def Open (l : Lines) : Prop := l.inLine = true → l.ending = none ∧ l.blank = []

def start : Lines := ⟨[], none, [], false, false⟩

theorem open_start : start.Open := by simp [Open, start]

theorem Open.feed {l : Lines} (h : l.Open) (c : Char) : (l.feed c).Open := by
  intro hin
  unfold Lines.feed at hin ⊢
  split at hin
  · split at hin
    · simp at hin
    · next hl => simp [hl] at hin
  · next hc =>
    rw [if_neg hc]
    split
    · next hl => exact h hl
    · exact ⟨rfl, rfl⟩

theorem seen_feed {l : Lines} (h : l.Open) (c : Char) : (l.feed c).seen = c :: l.seen := by
  unfold Lines.feed
  split
  · split
    · next hl =>
      obtain ⟨he, hb⟩ := h hl
      simp [seen, ended, he, hb]
    · rfl
  · split
    · next hl =>
      obtain ⟨he, hb⟩ := h hl
      simp [seen, ended, he, hb]
    · rfl

theorem inLine_feed (l : Lines) (c : Char) : (l.feed c).inLine = !isBreak c := by
  unfold Lines.feed
  cases hc : isBreak c <;> cases hl : l.inLine <;> simp [startLine]

theorem inLine_foldl {s : List Char} (hs : s ≠ []) (l : Lines) :
    (s.foldl Lines.feed l).inLine = !s.getLast?.any isBreak := by
  obtain ⟨t, c, rfl⟩ : ∃ t c, s = t ++ [c] := ⟨_, _, (List.dropLast_concat_getLast hs).symm⟩
  simp [inLine_feed]

theorem open_foldl {l : Lines} (h : l.Open) (s : List Char) : (s.foldl Lines.feed l).Open := by
  induction s generalizing l with
  | nil => exact h
  | cons c cs ih => exact ih (h.feed c)

theorem seen_foldl {l : Lines} (h : l.Open) (s : List Char) :
    (s.foldl Lines.feed l).seen = s.reverse ++ l.seen := by
  induction s generalizing l with
  | nil => rfl
  | cons c cs ih =>
    rw [List.foldl_cons, ih (h.feed c), seen_feed h]
    simp

end Lines

variable {l : Lines} {p : Place} {indent : Nat}

/-! ## Lines -/

theorem readLines_break {c : Char} (hc : isPrintable c = true) (hb : isBreak c = true)
    (cs : List Char) :
    readLines true indent l (c :: cs) p = readLines true indent (l.feed c) cs (p.nextLine 1) := by
  have hr : c ≠ '\r' := ne_of_test hc (by decide)
  rw [readLines.eq_3 _ _ _ _ _ _ (fun _ h _ => hr h)]
  simp [Lines.feed, hb, keptBreak_eq_self hc hb]

theorem readLines_inLine {c : Char} (hc : isPrintable c = true) (hb : isBreak c = false)
    (hl : l.inLine = true) (cs : List Char) :
    readLines true indent l (c :: cs) p = readLines true indent (l.feed c) cs p.next := by
  have hr : c ≠ '\r' := ne_of_test hc (by decide)
  rw [readLines.eq_3 _ _ _ _ _ _ (fun _ h _ => hr h)]
  simp [Lines.feed, hb, hl]

theorem readLines_margin (hl : l.inLine = false) (hp : p.column < indent) (cs : List Char) :
    readLines true indent l (' ' :: cs) p = readLines true indent l cs p.next := by
  rw [readLines.eq_3 _ _ _ _ _ _ (fun _ h _ => absurd h (by decide))]
  simp [show isBreak ' ' = false by decide, hl, hp]

theorem readLines_skipMargin (hl : l.inLine = false) (hp : p.column = 0) (cs : List Char) :
    readLines true 2 l (margin ++ cs) p = readLines true 2 l cs p.next.next := by
  simp only [margin, List.cons_append, List.nil_append]
  rw [readLines_margin hl (by omega), readLines_margin hl (by simp [Place.next, hp])]

/-- The first character of a line, behind its margin. -/
theorem readLines_lineStart {c : Char} (hc : isPrintable c = true) (hb : isBreak c = false)
    (hl : l.inLine = false) (hp : p.column = 0) (cs : List Char) :
    readLines true 2 l (margin ++ c :: cs) p = readLines true 2 (l.feed c) cs p.next.next.next := by
  have hr : c ≠ '\r' := ne_of_test hc (by decide)
  rw [readLines_skipMargin hl hp, readLines.eq_3 _ _ _ _ _ _ (fun _ h _ => hr h)]
  simp [Lines.feed, hb, hl, hp, Place.next]

/-- The block ends before the next entry, or with the page. -/
theorem readLines_end (hl : l.inLine = false) (hp : p.column = 0) {rest : List Char}
    (hrest : StartsLine rest) :
    readLines true 2 l rest p = .ok (l, ⟨rest, p⟩) := by
  cases rest with
  | nil => rfl
  | cons c cs =>
    have hc := hrest.isAlpha
    have hr : c ≠ '\r' := ne_of_test hc (by decide)
    have hs : c ≠ ' ' := ne_of_test hc (by decide)
    have ht : c ≠ '\t' := ne_of_test hc (by decide)
    rw [readLines.eq_3 _ _ _ _ _ _ (fun _ h _ => hr h)]
    simp [isBreak_of_isAlpha hc, hl, hp, hs, ht]

/-- By induction on the text, whose next margin is due outside of a line. -/
theorem readLines_indented {s : List Char} (hs : ∀ c ∈ s, isPrintable c = true)
    (hp : l.inLine = false → p.column = 0) (rest : List Char) :
    ∃ q, readLines true 2 l (indented (!l.inLine) s ++ rest) p =
        readLines true 2 (s.foldl Lines.feed l) rest q ∧
      ((s.foldl Lines.feed l).inLine = false → q.column = 0) := by
  induction s generalizing l p with
  | nil => exact ⟨p, rfl, hp⟩
  | cons c cs ih =>
    have hc := hs c List.mem_cons_self
    have hs' : ∀ d ∈ cs, isPrintable d = true := fun d hd => hs d (List.mem_cons_of_mem c hd)
    have hin := l.inLine_feed c
    rw [indented, List.foldl_cons]
    cases hb : isBreak c with
    | true =>
      obtain ⟨q, hq, hcol⟩ := @ih (l.feed c) (p.nextLine 1) hs' (fun _ => rfl)
      rw [hin, hb] at hq
      exact ⟨q, by rw [if_pos rfl, List.cons_append, readLines_break hc hb]; exact hq, hcol⟩
    | false =>
      have hopen : (l.feed c).inLine = true := by rw [hin, hb]; rfl
      have hp' : ∀ q : Place, (l.feed c).inLine = false → q.column = 0 := by simp [hopen]
      rw [if_neg (by decide)]
      cases hl : l.inLine with
      | true =>
        obtain ⟨q, hq, hcol⟩ := @ih (l.feed c) p.next hs' (hp' _)
        rw [hopen] at hq
        refine ⟨q, ?_, hcol⟩
        rw [if_neg (by decide), List.cons_append, readLines_inLine hc hb hl]
        exact hq
      | false =>
        obtain ⟨q, hq, hcol⟩ := @ih (l.feed c) p.next.next.next hs' (hp' _)
        rw [hopen] at hq
        refine ⟨q, ?_, hcol⟩
        rw [if_pos (by decide), List.append_assoc, List.cons_append,
          readLines_lineStart hc hb hl (hp hl)]
        exact hq

/-! ## Breaks at the end -/

/-- What the header says about the end of a text. -/
def chompingOf (s : List Char) : Chomping :=
  match s.reverse with
  | [] => .strip
  | [c] => if isBreak c then .keep else .strip
  | c :: d :: _ => if !isBreak c then .strip else if isBreak d then .keep else .clip

/-- The line that lacks a break gets one. -/
def closing (s : List Char) : List Char := if s.getLast?.any isBreak then [] else ['\n']

/-- The state after a text that is given in reverse. -/
def after (r : List Char) : Lines := r.reverse.foldl Lines.feed .start

theorem open_after (r : List Char) : (after r).Open := Lines.open_foldl Lines.open_start _

theorem seen_after (r : List Char) : (after r).seen = r := by
  rw [after, Lines.seen_foldl Lines.open_start]
  simp [Lines.seen, Lines.ended, Lines.start]

theorem after_cons (c : Char) (r : List Char) : after (c :: r) = (after r).feed c := by
  simp [after]

theorem inLine_after {c : Char} (hb : isBreak c = false) (r : List Char) :
    (after (c :: r)).inLine = true := by
  rw [after, Lines.inLine_foldl (by simp)]
  simp [hb]

/-- A line that ends keeps what was read of it. -/
theorem after_break {c d : Char} (hc : isBreak c = true) (hd : isBreak d = false)
    (r : List Char) :
    (after (c :: d :: r)).done = d :: r ∧ (after (c :: d :: r)).ending = some c := by
  have hin := inLine_after hd r
  obtain ⟨he, hbl⟩ := open_after (d :: r) hin
  have hseen := seen_after (d :: r)
  simp only [Lines.seen, Lines.ended, he, hbl, List.nil_append] at hseen
  rw [after_cons c, Lines.feed, if_pos hc, if_pos hin]
  exact ⟨hseen, rfl⟩

theorem text_keep_after (r : List Char) : (after r).text .keep = r.reverse := by
  rw [Lines.text, ← Lines.seen, seen_after]

/-- The header tells the three ends of a text apart. -/
theorem text_closed (s : List Char) :
    ((s ++ closing s).foldl Lines.feed .start).text (chompingOf s) = s := by
  obtain ⟨r, rfl⟩ : ∃ r, s = List.reverse r := ⟨s.reverse, by simp⟩
  have hafter : (r.reverse ++ closing r.reverse).foldl Lines.feed .start =
      after (closing r.reverse ++ r) := by
    unfold closing
    split <;> simp [after]
  rw [hafter]
  cases r with
  | nil => rfl
  | cons c t =>
    cases hc : isBreak c with
    | false =>
      have hnl : isBreak '\n' = true := by decide
      have hch : chompingOf (c :: t).reverse = .strip := by
        cases t <;> simp [chompingOf, hc]
      rw [hch]
      simp [closing, hc, Lines.text, after_break hnl hc]
    | true =>
      have hcl : closing (c :: t).reverse = [] := by simp [closing, hc]
      rw [hcl, List.nil_append]
      cases t with
      | nil => simp [chompingOf, hc, text_keep_after]
      | cons d t =>
        cases hd : isBreak d with
        | true => simp [chompingOf, hc, hd, text_keep_after]
        | false => simp [chompingOf, hc, hd, Lines.text, Lines.ended, after_break hc hd]

/-! ## Header -/

theorem chompHint_cases (s : List Char) :
    (chompHint s = ['-'] ∧ chompingOf s = .strip) ∨ (chompHint s = ['+'] ∧ chompingOf s = .keep) ∨
      (chompHint s = [] ∧ chompingOf s = .clip) := by
  unfold chompHint chompingOf
  rcases s.reverse with _ | ⟨c, _ | ⟨d, t⟩⟩
  · simp
  · cases hc : isBreak c <;> simp [hc]
  · cases hc : isBreak c <;> cases hd : isBreak d <;> simp [hc, hd]

def depthOf (s : List Char) : Option Nat := if s.head?.any isSpaceOrBreak then some 2 else none

theorem readHeader_hints (s body : List Char) (p : Place) :
    ∃ q, readHeader (depthHint s ++ chompHint s ++ '\n' :: body) p =
      .ok (⟨chompingOf s, depthOf s⟩, ⟨'\n' :: body, q⟩) := by
  unfold depthHint depthOf
  split <;> rcases chompHint_cases s with h | h | h <;> rw [h.1, h.2] <;> exact ⟨_, rfl⟩

/-- The margin of a text that starts with a word shows in its first line. -/
theorem readMargin_word {c : Char} {cs : List Char} (hc : isPrintable c = true)
    (hsb : isSpaceOrBreak c = false) (hp : p.column = 0) :
    readMargin [] 0 (margin ++ c :: cs) p = .ok ⟨[], 2, ⟨c :: cs, p.next.next⟩⟩ := by
  have hr : c ≠ '\r' := ne_of_test hc (by decide)
  have ht : c ≠ '\t' := ne_of_test hc (by decide)
  rw [isSpaceOrBreak, Bool.or_eq_false_iff] at hsb
  have hs : c ≠ ' ' := by simpa [isSpace] using hsb.1
  simp only [margin, List.cons_append, List.nil_append]
  rw [readMargin.eq_3 _ _ _ _ _ (fun _ h _ => absurd h (by decide)), if_pos (by decide),
    readMargin.eq_3 _ _ _ _ _ (fun _ h _ => absurd h (by decide)), if_pos (by decide),
    readMargin.eq_3 _ _ _ _ _ (fun _ h _ => hr h)]
  simp [hs, ht, hsb.2, hp, Place.next]

/-- From the first line of a text on, the block is read up to the entry after it. -/
theorem readLines_text {s : List Char} (hne : s ≠ []) (hs : ∀ c ∈ s, isPrintable c = true)
    {rest : List Char} (hrest : StartsLine rest) (hp : p.column = 0) :
    ∃ q, q.column = 0 ∧ readLines true 2 .start (indented true s ++ (closing s ++ rest)) p =
      .ok ((s ++ closing s).foldl Lines.feed .start, ⟨rest, q⟩) := by
  have hin := Lines.inLine_foldl hne .start
  obtain ⟨q, hq, hcol⟩ := @readLines_indented .start p s hs (fun _ => hp) (closing s ++ rest)
  rw [show indented true s = indented (!Lines.start.inLine) s from rfl, hq]
  cases hb : s.getLast?.any isBreak with
  | true =>
    have hcl : closing s = [] := by simp [closing, hb]
    rw [hb] at hin
    rw [hcl, List.append_nil, List.nil_append]
    exact ⟨q, hcol hin, readLines_end hin (hcol hin) hrest⟩
  | false =>
    have hcl : closing s = ['\n'] := by simp [closing, hb]
    have hend := Lines.inLine_feed (s.foldl Lines.feed .start) '\n'
    rw [hcl, List.foldl_append, List.singleton_append,
      readLines_break (by decide) (by decide)]
    exact ⟨q.nextLine 1, rfl, readLines_end hend rfl hrest⟩

/-- A literal block below a key at the first column. -/
theorem read_literal {s : List Char} (hne : s ≠ []) (hs : ∀ c ∈ s, isPrintable c = true)
    {rest : List Char} (hrest : StartsLine rest) (p : Place) :
    ∃ q, q.column = 0 ∧ read true 0 (depthHint s ++ chompHint s ++ '\n' :: (indented true s ++
      (closing s ++ rest))) p = .ok (s, ⟨rest, q⟩) := by
  obtain ⟨m, hm⟩ := readHeader_hints s (indented true s ++ (closing s ++ rest)) p
  obtain ⟨q, hq, hlines⟩ := @readLines_text (m.nextLine 1) s hne hs rest hrest rfl
  have hfinish : finishLine ('\n' :: (indented true s ++ (closing s ++ rest))) m =
    .ok ⟨indented true s ++ (closing s ++ rest), m.nextLine 1⟩ := rfl
  refine ⟨q, hq, ?_⟩
  rw [read, hm]
  simp only [bind, Except.bind, hfinish]
  cases hd : s.head?.any isSpaceOrBreak with
  | true =>
    have hdepth : depthOf s = some 2 := by simp [depthOf, hd]
    rw [hdepth]
    change (readLines true 2 .start _ (m.nextLine 1)).bind _ = _
    rw [hlines]
    simp only [Except.bind, text_closed]
    rfl
  | false =>
    have hdepth : depthOf s = none := by simp [depthOf, hd]
    obtain ⟨c, cs, rfl⟩ := List.exists_cons_of_ne_nil hne
    have hc := hs c List.mem_cons_self
    have hsb : isSpaceOrBreak c = false := by simpa using hd
    have hind : indented true (c :: cs) = margin ++ c :: indented false cs := by
      rw [isSpaceOrBreak, Bool.or_eq_false_iff] at hsb
      simp [indented, hsb.2]
    rw [hdepth, hind, List.append_assoc, List.cons_append]
    rw [hind, List.append_assoc, List.cons_append, readLines_skipMargin rfl rfl] at hlines
    dsimp only
    rw [show (m.nextLine 1).column = 0 from rfl, readMargin_word hc hsb rfl]
    change (readLines true 2 .start _ (m.nextLine 1).next.next).bind _ = _
    rw [hlines]
    simp only [Except.bind, text_closed]
    rfl

end PluginRelease.Yaml.Block
