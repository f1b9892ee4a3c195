import PluginRelease.Yaml.Scalar.Plain
import PluginRelease.Proofs.Yaml.Character

/-!
A text that may stand plain is read as itself. Its gaps are single runs of spaces, so what
was read is always what the gap reads as on top of the words before it.
-/
namespace PluginRelease.Yaml.Plain
open Writer

/-- A gap within a line, after the character `a`. -/
def GapAfter (a : Char) : Gap → Prop
  | .none => isBlankOrBreak a = false
  | .blanks _ => isBlankOrBreak a = true
  | .breaks _ _ => False

theorem GapAfter.addBlank {a : Char} {gap : Gap} (h : GapAfter a gap) :
    GapAfter ' ' (gap.addBlank ' ') ∧ (gap.addBlank ' ').folded = ' ' :: gap.folded := by
  cases gap with
  | none => exact ⟨rfl, rfl⟩
  | blanks t => exact ⟨rfl, rfl⟩
  | breaks f m => exact h.elim

theorem GapAfter.isBlankOrBreak {a : Char} {gap : Gap} (h : GapAfter a gap)
    (hn : gap.isNone = false) : isBlankOrBreak a = true := by
  cases gap with
  | none => exact absurd hn (by decide)
  | blanks t => exact h
  | breaks f m => exact h.elim

/-- The characters of a plain text. -/
structure Shown (s : List Char) : Prop where
  printable : ∀ c ∈ s, isPrintable c = true
  unbroken : ∀ c ∈ s, isBreak c = false

theorem Shown.tail {c : Char} {s : List Char} (h : Shown (c :: s)) : Shown s :=
  ⟨fun d hd => h.printable d (List.mem_cons_of_mem c hd),
    fun d hd => h.unbroken d (List.mem_cons_of_mem c hd)⟩

variable {indent : Int} {done : List Char} {gap : Gap} {p : Place}

/-- A character of a word goes to what was read, after the gap before it. -/
theorem read_word {c : Char} {cs : List Char} (hb : isBlankOrBreak c = false)
    (hgap : gap.isNone = false → endsAfterGap false indent (c :: cs) p = false)
    (hc : (c == ':' && atGap cs) = false) :
    read false indent done gap (c :: cs) p =
      read false indent (c :: (gap.folded ++ done)) .none cs p.next := by
  rw [isBlankOrBreak, Bool.or_eq_false_iff] at hb
  have hr : c ≠ '\r' := by
    rintro rfl
    exact absurd hb.2 (by decide)
  have hg : (!gap.isNone && endsAfterGap false indent (c :: cs) p) = false := by
    cases hn : gap.isNone
    · simp [hgap hn]
    · rfl
  rw [read.eq_3 _ _ _ _ _ _ _ (fun _ h _ => hr h)]
  simp [hb.1, hb.2, hg, endsHere, hc]

theorem read_space {cs : List Char} (hg : gap.isBreaks = false) :
    read false indent done gap (' ' :: cs) p =
      read false indent done (gap.addBlank ' ') cs p.next := by
  rw [read.eq_3 _ _ _ _ _ _ _ (fun _ h _ => absurd h (by decide))]
  simp [show isBreak ' ' = false by decide, show isBlank ' ' = true by decide, hg]

theorem atGap_append_newline (s rest : List Char) : atGap (s ++ '\n' :: rest) = atGap s := by
  cases s <;> rfl

theorem getLast?_any_tail {q : Char → Bool} {c : Char} {cs : List Char}
    (h : (c :: cs).getLast?.any q = false) : cs.getLast?.any q = false := by
  cases cs with
  | nil => rfl
  | cons d ds => rwa [List.getLast?_cons_cons] at h

/-- A gap does not end the text before a character that starts no comment. -/
theorem not_endsAfterGap {a c : Char} (ha : GapAfter a gap) (hn : gap.isNone = false)
    (hc : (c == '#' && isBlankOrBreak a) = false) (hindent : indent ≤ p.column)
    (hcolumn : 0 < p.column) (cs : List Char) : endsAfterGap false indent (c :: cs) p = false := by
  have hab := ha.isBlankOrBreak hn
  have hc : c ≠ '#' := by
    rintro rfl
    simp [hab] at hc
  have h1 : ¬ (p.column : Int) < indent := by omega
  have h2 : p.column ≠ 0 := by omega
  simp [endsAfterGap, hc, h1, h2]

/-- Reading goes through the text up to the break behind it. By induction on the text, where
the character before it says which gap is open. -/
theorem read_text {s : List Char} {a : Char} (hs : Shown s)
    (hi : hasInnerIndicator (a :: s) = false) (ha : GapAfter a gap)
    (hlast : s.getLast?.any isSpace = false) (hend : s = [] → gap = .none)
    (hindent : indent ≤ p.column) (hcolumn : 0 < p.column) (rest : List Char) :
    read false indent done gap (s ++ '\n' :: rest) p =
      read false indent (s.reverse ++ (gap.folded ++ done)) .none ('\n' :: rest)
        (p.skip s.length) := by
  induction s generalizing a done gap p with
  | nil =>
    rw [hend rfl]
    rfl
  | cons c cs ih =>
    have hsh := hs.tail
    have hpr := hs.printable c List.mem_cons_self
    have hnb := hs.unbroken c List.mem_cons_self
    have hin : (c == ':' && atGap cs) = false ∧ (c == '#' && isBlankOrBreak a) = false ∧
        hasInnerIndicator (c :: cs) = false := by
      simpa [hasInnerIndicator, and_assoc] using hi
    have hskip : p.next.skip cs.length = p.skip (c :: cs).length := by
      simp [Place.next, Place.skip, Nat.add_comm, Nat.add_left_comm]
    have hnext : 0 < p.next.column ∧ indent ≤ p.next.column := by
      simp only [Place.next]
      omega
    rw [List.cons_append]
    cases hsp : isSpace c with
    | true =>
      obtain rfl : c = ' ' := by simpa [isSpace] using hsp
      have hcs : cs ≠ [] := by
        rintro rfl
        simp [isSpace] at hlast
      obtain ⟨hg, hf⟩ := ha.addBlank
      have hbr : gap.isBreaks = false := by
        cases gap with
        | breaks f m => exact ha.elim
        | _ => rfl
      rw [read_space hbr, ih hsh hin.2.2 hg (getLast?_any_tail hlast) (fun h => absurd h hcs)
        hnext.2 hnext.1, hf, hskip]
      simp
    | false =>
      have hbb : isBlankOrBreak c = false := by
        rw [isBlankOrBreak, isBlank_eq_isSpace hpr, hsp, hnb, Bool.or_self]
      have hafter : gap.isNone = false →
          endsAfterGap false indent (c :: (cs ++ '\n' :: rest)) p = false :=
        fun hn => not_endsAfterGap ha hn hin.2.1 hindent hcolumn _
      have hg : GapAfter c .none := hbb
      rw [read_word hbb hafter (by simpa [atGap_append_newline] using hin.1),
        ih hsh hin.2.2 hg (getLast?_any_tail hlast) (fun _ => rfl) hnext.2 hnext.1, hskip]
      simp [Gap.folded]

/-- The text ends at the break before a line that starts an entry. -/
theorem read_line_end {rest : List Char} (hrest : StartsLine rest) (hindent : 0 < indent) :
    read false indent done .none ('\n' :: rest) p =
      .ok ⟨done.reverse, true, ⟨rest, p.nextLine 1⟩⟩ := by
  rw [read.eq_3 _ _ _ _ _ _ _ (fun _ h _ => absurd h (by decide))]
  simp only [show isBreak '\n' = true by decide, if_true]
  cases rest with
  | nil => rfl
  | cons c cs =>
    have hc := hrest.isAlpha
    have hr : c ≠ '\r' := ne_of_test hc (by decide)
    rw [read.eq_3 _ _ _ _ _ _ _ (fun _ h _ => absurd h hr)]
    have hg : (Gap.none.addBreak (keptBreak '\n')).isNone = false := rfl
    simp [isBreak_of_isAlpha hc, isBlank_of_isAlpha hc, endsAfterGap, Place.nextLine, hindent, hg]
    rfl

/-- What allows a text to stand plain. -/
theorem of_allowsPlain {s : List Char} (h : (traits s).allowsPlain = true) :
    Shown s ∧ s.head?.any isSpaceOrBreak = false ∧ s.getLast?.any isSpaceOrBreak = false ∧
      startsWithIndicator s = false ∧ hasInnerIndicator s = false := by
  simp only [Traits.allowsPlain, traits, Bool.not_eq_true', Bool.or_eq_false_iff] at h
  obtain ⟨⟨⟨⟨⟨⟨hlead, htrail⟩, -⟩, -⟩, hbreak⟩, hprint⟩, hind⟩ := h
  refine ⟨⟨fun c hc => ?_, fun c hc => ?_⟩, hlead, htrail, hind⟩
  · simpa using List.any_eq_false.mp hprint c hc
  · simpa using List.any_eq_false.mp hbreak c hc

theorem isBlankOrBreak_of_printable {c : Char} (hc : isPrintable c = true)
    (h : isSpaceOrBreak c = false) : isBlankOrBreak c = false := by
  rwa [isBlankOrBreak, isBlank_eq_isSpace hc]

/-- A whole plain text behind its key. -/
theorem read_plain {c : Char} {cs : List Char} (h : (traits (c :: cs)).allowsPlain = true)
    {rest : List Char} (hrest : StartsLine rest) (hp : 0 < p.column) :
    ∃ q, q.column = 0 ∧ read false 1 [] .none (c :: cs ++ '\n' :: rest) p =
      .ok ⟨c :: cs, true, ⟨rest, q⟩⟩ := by
  obtain ⟨hs, hhead, hlast, hstart, hinner⟩ := of_allowsPlain h
  have hb : isBlankOrBreak c = false :=
    isBlankOrBreak_of_printable (hs.printable c List.mem_cons_self) (by simpa using hhead)
  have hcolon : (c == ':' && atGap (cs ++ '\n' :: rest)) = false := by
    rw [atGap_append_newline]
    by_cases hc : c = ':'
    · subst hc
      simp only [startsWithIndicator, Bool.or_eq_false_iff] at hstart
      simpa using hstart.1.1.2
    · simp [hc]
  have hlast' : cs.getLast?.any isSpace = false := by
    have htail := getLast?_any_tail hlast
    cases hl : cs.getLast? with
    | none => rfl
    | some e =>
      rw [hl] at htail
      exact (Bool.or_eq_false_iff.mp htail).1
  have hg : GapAfter c .none := hb
  refine ⟨(p.next.skip cs.length).nextLine 1, rfl, ?_⟩
  rw [List.cons_append, read_word hb (fun h => by cases h) hcolon,
    read_text hs.tail hinner hg hlast' (fun _ => rfl) (by simp only [Place.next]; omega)
      (by simp only [Place.next]; omega) rest, read_line_end hrest (by decide)]
  simp [Gap.folded]

/-- Within a word nothing can end the text but a colon. -/
theorem read_run {s : List Char} (hs : ∀ c ∈ s, isBlankOrBreak c = false ∧ c ≠ ':')
    (rest : List Char) :
    read false indent done .none (s ++ rest) p =
      read false indent (s.reverse ++ done) .none rest (p.skip s.length) := by
  induction s generalizing done p with
  | nil => rfl
  | cons c cs ih =>
    obtain ⟨⟨hb, hcolon⟩, hcs⟩ := List.forall_mem_cons.mp hs
    rw [List.cons_append, read_word hb (fun h => by cases h) (by simp [hcolon]), ih hcs]
    simp [Gap.folded, Place.next, Place.skip, Nat.add_comm, Nat.add_left_comm]

/-- A key ends at its colon. -/
theorem read_key {k : List Char} (hk : ∀ c ∈ k, c.isAlpha = true) (rest : List Char) :
    read false indent done .none (k ++ ':' :: ' ' :: rest) p =
      .ok ⟨(k.reverse ++ done).reverse, false, ⟨':' :: ' ' :: rest, p.skip k.length⟩⟩ := by
  have hword : ∀ c ∈ k, isBlankOrBreak c = false ∧ c ≠ ':' := by
    intro c hc
    have halpha := hk c hc
    refine ⟨?_, ne_of_test halpha (by decide)⟩
    rw [isBlankOrBreak, isBlank_of_isAlpha halpha, isBreak_of_isAlpha halpha, Bool.or_self]
  rw [read_run hword, read.eq_3 _ _ _ _ _ _ _ (fun _ h _ => absurd h (by decide))]
  rfl

end PluginRelease.Yaml.Plain
