import PluginRelease.Yaml.Scalar.Quoted
import PluginRelease.Proofs.Text.Digit
import PluginRelease.Proofs.Yaml.Character

/-!
A text in quotes is read as itself. In double quotes each character is read on its own, as it
stands or from its escape. In single quotes the separators are breaks with a margin after the
last of them, and the margin is no part of the gap.
-/
namespace PluginRelease.Yaml.Quoted
open Writer Text

variable {style : Style} {done : List Char} {gap : Gap} {p : Place}

/-! ## Single characters -/

/-- A step inside the text, away from the two-character break. -/
theorem read_text_eq {c : Char} (hr : c ≠ '\r') (cs : List Char) :
    read style .text done gap (c :: cs) p =
      if isBreak c then read style .text done (gap.addBreak (keptBreak c)) cs (p.nextLine 1)
      else if isBlank c then read style .text done (gap.addBlank c) cs p.next
      else if gap.isBreaks && p.column == 0 && atDocumentMark (c :: cs) then .error .quoteBroken
      else if c == style.mark then
        match style, cs with
        | .single, '\'' :: cs =>
          read style .text ('\'' :: (gap.folded ++ done)) .none cs (p.skip 2)
        | _, _ => .ok ((gap.folded ++ done).reverse, ⟨cs, p.next⟩)
      else if style == .double && c == '\\' then
        read style .escape (gap.folded ++ done) .none cs p.next
      else read style .text (c :: (gap.folded ++ done)) .none cs p.next := by
  rw [read.eq_def]
  split
  · rename_i h
    cases h
  · rename_i h
    cases h
    exact absurd rfl hr
  · rename_i h
    cases h
    rfl

theorem read_break {c : Char} (hc : isPrintable c = true) (hb : isBreak c = true)
    (cs : List Char) :
    read style .text done gap (c :: cs) p =
      read style .text done (gap.addBreak c) cs (p.nextLine 1) := by
  rw [read_text_eq (ne_of_test hc (by decide)), if_pos hb, keptBreak_eq_self hc hb]

theorem read_space (cs : List Char) :
    read style .text done gap (' ' :: cs) p =
      read style .text done (gap.addBlank ' ') cs p.next := by
  rw [read_text_eq (by decide), if_neg (by decide), if_pos (by decide)]

/-- A break leads to the first column, where a document mark would break the text. -/
def Safe (gap : Gap) (p : Place) : Prop := gap.isBreaks = true → p.column ≠ 0

theorem Safe.mark {gap : Gap} {p : Place} (h : Safe gap p) (s : List Char) :
    ¬ (gap.isBreaks && p.column == 0 && atDocumentMark s) = true := by
  cases hg : gap.isBreaks
  · simp
  · simp [h hg]

theorem read_shown {c : Char} (hc : isPrintable c = true) (hb : isBreak c = false)
    (hs : isSpace c = false) (hm : c ≠ style.mark) (he : style = .double → c ≠ '\\')
    (hp : Safe gap p) (cs : List Char) :
    read style .text done gap (c :: cs) p =
      read style .text (c :: (gap.folded ++ done)) .none cs p.next := by
  have hblank : isBlank c = false := by rw [isBlank_eq_isSpace hc, hs]
  have hesc : ¬ (style == .double && c == '\\') = true := by
    cases style with
    | single => simp
    | double => simpa using he rfl
  rw [read_text_eq (ne_of_test hc (by decide)), if_neg (by simp [hb]), if_neg (by simp [hblank]),
    if_neg (hp.mark _), if_neg (by simpa using hm), if_neg hesc]

theorem read_close (hp : Safe gap p) {rest : List Char} (hrest : rest.head? ≠ some '\'') :
    read style .text done gap (style.mark :: rest) p =
      .ok ((gap.folded ++ done).reverse, ⟨rest, p.next⟩) := by
  rw [read_text_eq (by cases style <;> decide), if_neg (by cases style <;> decide),
    if_neg (by cases style <;> decide), if_neg (hp.mark _), if_pos (by simp)]
  split
  · simp at hrest
  · rfl

/-- A quote written twice. -/
theorem read_quote (hp : Safe gap p) (cs : List Char) :
    read .single .text done gap ('\'' :: '\'' :: cs) p =
      read .single .text ('\'' :: (gap.folded ++ done)) .none cs (p.skip 2) := by
  rw [read_text_eq (by decide), if_neg (by decide), if_neg (by decide), if_neg (hp.mark _),
    if_pos (by decide)]
  rfl

/-! ## Single quotes -/

/-- The gap after the character `a`. -/
def GapAfter (a : Char) : Gap → Prop
  | .none => isSpace a = false ∧ isBreak a = false
  | .blanks _ => isSpace a = true
  | .breaks first _ => isBreak a = true ∧ ∃ b, first = some b ∧ b ≠ '\n'

theorem GapAfter.isBreaks {a : Char} (h : GapAfter a gap) : gap.isBreaks = isBreak a := by
  cases gap with
  | none => exact h.2.symm
  | blanks t =>
    obtain rfl : a = ' ' := by simpa [GapAfter, isSpace] using h
    rfl
  | breaks f m => exact h.1.symm

theorem folded_breaks {b : Char} (hb : b ≠ '\n') (more : List Char) :
    (Gap.breaks (some b) more).folded = more ++ [b] := by
  cases more <;> simp [Gap.folded, hb]

theorem GapAfter.addBreak {a c : Char} (h : GapAfter a gap) (ha : isSpace a = false)
    (hc : isBreak c = true) (hn : c ≠ '\n') :
    GapAfter c (gap.addBreak c) ∧ (gap.addBreak c).folded = c :: gap.folded := by
  cases gap with
  | none => exact ⟨⟨hc, c, rfl, hn⟩, folded_breaks hn []⟩
  | blanks t => simp [GapAfter, ha] at h
  | breaks f m =>
    obtain ⟨-, b, rfl, hb⟩ := h
    refine ⟨⟨hc, b, rfl, hb⟩, ?_⟩
    rw [folded_breaks hb]
    exact folded_breaks hb (c :: m)

theorem GapAfter.addBlank {a : Char} (h : GapAfter a gap) (ha : isBreak a = false) :
    GapAfter ' ' (gap.addBlank ' ') ∧ (gap.addBlank ' ').folded = ' ' :: gap.folded := by
  cases gap with
  | none => exact ⟨rfl, rfl⟩
  | blanks t => exact ⟨rfl, rfl⟩
  | breaks f m => simp [GapAfter, ha] at h

/-- The margin is skipped, and behind it the text is away from the first column. -/
theorem read_margin (style : Style) (done : List Char) (gap : Gap) (p : Place) :
    ∃ q, Safe gap q ∧ ∀ cs, read style .text done gap
      ((if gap.isBreaks then margin else []) ++ cs) p = read style .text done gap cs q := by
  cases hg : gap.isBreaks with
  | false => exact ⟨p, fun h => by simp [hg] at h, fun cs => rfl⟩
  | true =>
    have hb : gap.addBlank ' ' = gap := by
      cases gap <;> first | rfl | simp [Gap.isBreaks] at hg
    refine ⟨p.next.next, fun _ => by simp [Place.next], fun cs => ?_⟩
    simp only [if_true, margin, List.cons_append, List.nil_append]
    rw [read_space, hb, read_space, hb]

/-- A character that is neither blank nor break, as it stands in single quotes. -/
theorem read_singleCharacter {c : Char} (hc : isPrintable c = true) (hb : isBreak c = false)
    (hs : isSpace c = false) (hp : Safe gap p) (cs : List Char) :
    ∃ q, read .single .text done gap ((if c == '\'' then ['\'', '\''] else [c]) ++ cs) p =
      read .single .text (c :: (gap.folded ++ done)) .none cs q := by
  by_cases hquote : c = '\''
  · subst hquote
    exact ⟨p.skip 2, read_quote hp cs⟩
  · have hmark : c ≠ Style.mark .single := hquote
    refine ⟨p.next, ?_⟩
    rw [if_neg (by simpa using hquote), List.singleton_append,
      read_shown hc hb hs hmark (fun h => by cases h) hp]

/-- By induction on the text; the character before it says which gap is open, and so whether
a margin is due. -/
theorem read_singleBody {s : List Char} {a : Char} (hs : ∀ c ∈ s, isPrintable c = true)
    (hn : '\n' ∉ s) (hbs : hasPair isBreak isSpace (a :: s) = false)
    (hsb : hasPair isSpace isBreak (a :: s) = false) (ha : GapAfter a gap) {rest : List Char}
    (hrest : rest.head? ≠ some '\'') :
    ∃ q, read .single .text done gap (singleBody gap.isBreaks s ++ '\'' :: rest) p =
      .ok ((s.reverse ++ (gap.folded ++ done)).reverse, ⟨rest, q⟩) := by
  induction s generalizing a done gap p with
  | nil =>
    obtain ⟨q, hq, hread⟩ := read_margin .single done gap p
    exact ⟨q.next, by rw [singleBody, hread]; exact read_close hq hrest⟩
  | cons c cs ih =>
    have hc := hs c List.mem_cons_self
    have hs' : ∀ d ∈ cs, isPrintable d = true := fun d hd => hs d (List.mem_cons_of_mem c hd)
    obtain ⟨hnc, hn'⟩ := not_or.mp (mt List.mem_cons.mpr hn)
    have hbs' : (isBreak a && isSpace c) = false ∧ hasPair isBreak isSpace (c :: cs) = false := by
      simpa [hasPair] using hbs
    have hsb' : (isSpace a && isBreak c) = false ∧ hasPair isSpace isBreak (c :: cs) = false := by
      simpa [hasPair] using hsb
    rw [singleBody]
    cases hb : isBreak c with
    | true =>
      have hspace : isSpace a = false := by simpa [hb] using hsb'.1
      obtain ⟨hg, hf⟩ := ha.addBreak hspace hb (fun h => hnc h.symm)
      obtain ⟨q, hq⟩ := ih hs' hn' hbs'.2 hsb'.2 hg
      rw [hg.isBreaks, hb] at hq
      refine ⟨q, ?_⟩
      rw [if_pos rfl, List.cons_append, read_break hc hb, hq, hf]
      simp
    | false =>
      rw [if_neg (by decide)]
      cases hsp : isSpace c with
      | true =>
        obtain rfl : c = ' ' := by simpa [isSpace] using hsp
        have hbr : isBreak a = false := by simpa [hsp] using hbs'.1
        obtain ⟨hg, hf⟩ := ha.addBlank hbr
        obtain ⟨q, hq⟩ := ih hs' hn' hbs'.2 hsb'.2 hg
        rw [hg.isBreaks, hb] at hq
        refine ⟨q, ?_⟩
        rw [ha.isBreaks, hbr, if_neg (by decide), if_neg (by decide)]
        simp only [List.nil_append, List.cons_append]
        rw [read_space, hq, hf]
        simp
      | false =>
        obtain ⟨m, hm, hread⟩ := read_margin .single done gap p
        have hg : GapAfter c .none := ⟨hsp, hb⟩
        obtain ⟨n, hn⟩ := @read_singleCharacter done gap m c hc hb hsp hm
          (singleBody false cs ++ '\'' :: rest)
        obtain ⟨q, hq⟩ := @ih (c :: (gap.folded ++ done)) .none n c hs' hn' hbs'.2 hsb'.2 hg
        rw [hg.isBreaks, hb] at hq
        refine ⟨q, ?_⟩
        rw [List.append_assoc, List.append_assoc, hread, hn, hq]
        simp [Gap.folded]

/-- A word holds no quote and no gap. -/
theorem read_word {s : List Char} (hs : ∀ c ∈ s, isPrintable c = true ∧
      isBreak c = false ∧ isSpace c = false ∧ c ≠ '\'') (rest : List Char) :
    read .single .text done .none (s ++ rest) p =
      read .single .text (s.reverse ++ done) .none rest (p.skip s.length) := by
  induction s generalizing done p with
  | nil => rfl
  | cons c cs ih =>
    obtain ⟨⟨hc, hb, hsp, hquote⟩, hcs⟩ := List.forall_mem_cons.mp hs
    have hmark : c ≠ Style.mark .single := hquote
    have hsafe : Safe .none p := fun h => by cases h
    rw [List.cons_append, read_shown hc hb hsp hmark (fun h => by cases h) hsafe, ih hcs]
    simp [Gap.folded, Place.next, Place.skip, Nat.add_comm, Nat.add_left_comm]

/-- A whole text in single quotes. -/
theorem read_single {s : List Char} (hn : '\n' ∉ s) (h : (traits s).allowsSingle = true)
    {rest : List Char} (hrest : rest.head? ≠ some '\'') :
    ∃ q, read .single .text [] .none (singleBody false s ++ '\'' :: rest) p =
      .ok (s, ⟨rest, q⟩) := by
  have hs := printable_of_allowsSingle h
  simp only [Traits.allowsSingle, traits, Bool.not_eq_true', Bool.or_eq_false_iff] at h
  obtain ⟨⟨hbs, hsb⟩, -⟩ := h
  -- The text starts as if a letter stood before it.
  have hbs' : hasPair isBreak isSpace ('a' :: s) = false := by
    cases s with
    | nil => rfl
    | cons c cs => simpa [hasPair, show isBreak 'a' = false by decide] using hbs
  have hsb' : hasPair isSpace isBreak ('a' :: s) = false := by
    cases s with
    | nil => rfl
    | cons c cs => simpa [hasPair, show isSpace 'a' = false by decide] using hsb
  have ha : GapAfter 'a' .none := ⟨rfl, rfl⟩
  obtain ⟨q, hq⟩ := @read_singleBody [] .none p s 'a' hs hn hbs' hsb' ha rest hrest
  exact ⟨q, by simpa [Gap.folded, Gap.isBreaks] using hq⟩

/-! ## Double quotes -/

theorem read_backslash (hp : Safe gap p) (cs : List Char) :
    read .double .text done gap ('\\' :: cs) p =
      read .double .escape (gap.folded ++ done) .none cs p.next := by
  rw [read_text_eq (by decide), if_neg (by decide), if_neg (by decide), if_neg (hp.mark _),
    if_neg (by decide), if_pos (by decide)]

/-- No break stands behind a backslash. -/
theorem no_escape_of_isBreak {x : Char} (h : isBreak x = true) :
    escaped? x = none ∧ escapeWidth? x = none := by
  simp only [isBreak, Bool.or_eq_true, beq_iff_eq] at h
  rcases h with (((rfl | rfl) | rfl) | rfl) | rfl <;> decide

/-- An escape of one letter. -/
theorem read_letter {x e : Char} (hx : escaped? x = some e) (hp : Safe gap p) (cs : List Char) :
    read .double .text done gap ('\\' :: x :: cs) p =
      read .double .text (e :: (gap.folded ++ done)) .none cs p.next.next := by
  have hb : isBreak x = false := by
    rw [Bool.eq_false_iff]
    intro hb
    simp [no_escape_of_isBreak hb] at hx
  have hr : x ≠ '\r' := by
    rintro rfl
    exact absurd hb (by decide)
  rw [read_backslash hp, read.eq_5 _ _ _ _ _ _ (fun _ h _ => hr h), if_neg (by simp [hb]), hx]

theorem ofNumber?_toNat (c : Char) : ofNumber? c.toNat = some c := by
  have hv : c.toNat.isValidChar := c.valid
  simp [ofNumber?, hv]

/-- The digits of a numbered escape, with the number that stands before them. -/
theorem read_digits {ds : List Char} {left value : Nat} {c : Char}
    (hlength : ds.length = left + 1) (hvalue : ds.foldlM (digitStep 16) value = some c.toNat)
    (cs : List Char) :
    ∃ q, read style (.digits left value) done gap (ds ++ cs) p =
      read style .text (c :: done) .none cs q := by
  induction ds generalizing left value gap p with
  | nil => simp at hlength
  | cons d ds ih =>
    rw [List.foldlM_cons] at hvalue
    obtain ⟨v, hv, hrest⟩ := Option.bind_eq_some_iff.mp hvalue
    obtain ⟨x, hx, hxv⟩ := Option.bind_eq_some_iff.mp hv
    have hxv : 16 * value + x = v := by
      split at hxv
      · simpa using hxv
      · cases hxv
    have hr : d ≠ '\r' := by
      rintro rfl
      cases hx
    rw [List.cons_append, read.eq_6 _ _ _ _ _ _ _ _ (fun _ h _ => hr h), hx]
    simp only [hxv]
    by_cases hl : left = 0
    · obtain rfl : ds = [] := by simpa [hl] using hlength
      obtain rfl : v = c.toNat := by simpa using hrest
      exact ⟨p.next, by rw [if_pos hl, ofNumber?_toNat]; rfl⟩
    · have hlength' : ds.length = left - 1 + 1 := by
        rw [List.length_cons] at hlength
        omega
      obtain ⟨q, hq⟩ := ih hlength' hrest
      exact ⟨q, by rw [if_neg hl, hq]⟩

/-- The escapes of a character: a letter of its own, or one with its number behind it. -/
inductive EscapeOf (c : Char) : List Char → Prop
  | letter {x : Char} (hx : escaped? x = some c) : EscapeOf c ['\\', x]
  | number {x : Char} {w : Nat} (hx : escaped? x = none) (hw : escapeWidth? x = some w)
      (hpos : 0 < w) (hfits : c.toNat < Nat.pow 16 w) :
      EscapeOf c ('\\' :: x :: hexDigits true w c.toNat)

theorem EscapeOf.ite {c : Char} {P : Prop} [Decidable P] {e f : List Char}
    (he : P → EscapeOf c e) (hf : ¬ P → EscapeOf c f) : EscapeOf c (if P then e else f) := by
  by_cases h : P
  · rw [if_pos h]
    exact he h
  · rw [if_neg h]
    exact hf h

theorem escapeOf_escape (c : Char) : EscapeOf c (escape c) := by
  have hmax : c.toNat < 0x100000000 := by
    have hv : c.toNat < 0xD800 ∨ 0xDFFF < c.toNat ∧ c.toNat < 0x110000 := c.valid
    omega
  have letter {k : Nat} {x : Char} (hk : c.toNat = k) (hx : escaped? x = some (Char.ofNat k)) :
      EscapeOf c ['\\', x] := by
    rw [← hk, Char.ofNat_toNat] at hx
    exact .letter hx
  unfold escape
  iterate 15 refine .ite (fun h => letter h (by decide)) fun _ => ?_
  refine .ite (fun h => ?_) fun _ => .ite (fun h => ?_) fun _ => ?_
  · exact .number (x := 'x') (w := 2) rfl rfl (by decide) (Nat.lt_succ_of_le h)
  · exact .number (x := 'u') (w := 4) rfl rfl (by decide) (Nat.lt_succ_of_le h)
  · exact .number (x := 'U') (w := 8) rfl rfl (by decide) hmax

theorem EscapeOf.read {c : Char} {e : List Char} (h : EscapeOf c e) (hp : Safe gap p)
    (cs : List Char) :
    ∃ q, read .double .text done gap (e ++ cs) p =
      Quoted.read .double .text (c :: (gap.folded ++ done)) .none cs q := by
  cases h with
  | letter hx => exact ⟨p.next.next, read_letter hx hp cs⟩
  | @number x w hx hw hpos hfits =>
    have hb : isBreak x = false := by
      rw [Bool.eq_false_iff]
      intro hb
      simp [no_escape_of_isBreak hb] at hw
    have hr : x ≠ '\r' := by
      rintro rfl
      exact absurd hb (by decide)
    have hlength : (hexDigits true w c.toNat).length = w - 1 + 1 := by
      rw [length_hexDigits true hpos hfits]
      omega
    obtain ⟨q, hq⟩ := read_digits hlength (foldlM_hexDigits true w c.toNat) cs
    refine ⟨q, ?_⟩
    rw [List.cons_append, List.cons_append, read_backslash hp,
      read.eq_5 _ _ _ _ _ _ (fun _ h _ => hr h), if_neg (by simp [hb]), hx, hw]
    exact hq

theorem addBlank_of_unbroken (hg : gap.isBreaks = false) :
    (gap.addBlank ' ').isBreaks = false ∧ (gap.addBlank ' ').folded = ' ' :: gap.folded := by
  cases gap with
  | none => exact ⟨rfl, rfl⟩
  | blanks t => exact ⟨rfl, rfl⟩
  | breaks f m => cases hg

/-- Breaks have escapes, so no gap reaches over a line. -/
theorem read_doubleBody (s : List Char) (hg : gap.isBreaks = false) {rest : List Char}
    (hrest : rest.head? ≠ some '\'') :
    ∃ q, read .double .text done gap (doubleBody s ++ '"' :: rest) p =
      .ok ((s.reverse ++ (gap.folded ++ done)).reverse, ⟨rest, q⟩) := by
  induction s generalizing done gap p with
  | nil => exact ⟨p.next, read_close (fun h => by simp [hg] at h) hrest⟩
  | cons c cs ih =>
    have hp : Safe gap p := fun h => by simp [hg] at h
    rw [doubleBody, List.flatMap_cons, List.append_assoc]
    change ∃ q, read .double .text done gap (_ ++ (doubleBody cs ++ '"' :: rest)) p = _
    split
    · obtain ⟨m, hm⟩ := (escapeOf_escape c).read hp (doubleBody cs ++ '"' :: rest)
      obtain ⟨q, hq⟩ := @ih (c :: (gap.folded ++ done)) .none m rfl
      exact ⟨q, by rw [hm, hq]; simp [Gap.folded]⟩
    · next hshown =>
      simp only [Bool.or_eq_true, Bool.not_eq_true', beq_iff_eq, not_or, Bool.not_eq_false,
        Bool.not_eq_true] at hshown
      obtain ⟨⟨⟨hc, hb⟩, hquote⟩, hslash⟩ := hshown
      rw [List.singleton_append]
      cases hsp : isSpace c with
      | true =>
        obtain rfl : c = ' ' := by simpa [isSpace] using hsp
        obtain ⟨hg', hf⟩ := addBlank_of_unbroken hg
        obtain ⟨q, hq⟩ := @ih done (gap.addBlank ' ') p.next hg'
        exact ⟨q, by rw [read_space, hq, hf]; simp⟩
      | false =>
        have hmark : c ≠ Style.mark .double := hquote
        obtain ⟨q, hq⟩ := @ih (c :: (gap.folded ++ done)) .none p.next rfl
        exact ⟨q, by rw [read_shown hc hb hsp hmark (fun _ => hslash) hp, hq]; simp [Gap.folded]⟩

/-- A whole text in double quotes. -/
theorem read_double (s : List Char) {rest : List Char} (hrest : rest.head? ≠ some '\'') :
    ∃ q, read .double .text [] .none (doubleBody s ++ '"' :: rest) p = .ok (s, ⟨rest, q⟩) := by
  obtain ⟨q, hq⟩ := @read_doubleBody [] .none p s rfl rest hrest
  exact ⟨q, by simpa [Gap.folded] using hq⟩

end PluginRelease.Yaml.Quoted
