import PluginRelease.Proofs.Yaml.Literal
import PluginRelease.Proofs.Yaml.Plain
import PluginRelease.Proofs.Yaml.Quoted
import PluginRelease.Yaml.Token

/-!
The tokens of a written page. Each entry takes three steps, for its key, its colon and its
value, and leaves the reader at the next entry with nothing pending.
-/
namespace PluginRelease.Yaml
open Writer

namespace Scan

/-! ## Single steps -/

theorem close_of_le {s : Scan} {column : Int} (h : s.indent ≤ column) : s.close column = s := by
  have hclose : closeTo column s.indent s.indents = (s.indent, s.indents, []) := by
    cases hi : s.indents with
    | nil => rfl
    | cons i is => rw [closeTo, if_neg (by omega)]
  unfold close
  split
  · rfl
  · simp [hclose]

theorem dropStale_of_fresh {s : Scan} (ho : s.outer = [])
    (hp : ∀ k ∈ s.pending, k.isStale s.place = false) : s.dropStale = .ok s := by
  have hpending : checkStale s.place s.pending = .ok s.pending := by
    cases hk : s.pending with
    | none => rfl
    | some k => simp [checkStale, hp k hk]
  unfold dropStale
  rw [hpending, ho]
  cases s
  cases ho
  rfl

/-- A step from a place where no block ends and no key is over. -/
theorem step_eq {s t : Scan} (h : s.skipBlank = t) (ho : t.outer = [])
    (hp : ∀ k ∈ t.pending, k.isStale t.place = false) (hi : t.indent ≤ t.column) :
    s.step = t.readToken.bind dropStale := by
  unfold step
  rw [h, dropStale_of_fresh ho hp]
  simp only [bind, Except.bind]
  rw [close_of_le hi]

theorem skipBlank_eq {s : Scan} {c : Cursor} {allowed : Bool}
    (h : skipToToken s.inFlow s.keyAllowed false s.rest s.place = (c, allowed)) :
    s.skipBlank = { s with cursor := c, keyAllowed := allowed } := by
  unfold skipBlank
  rw [h]

theorem skipToToken_line {rest : List Char} (hrest : StartsLine rest) (allowed : Bool)
    (p : Place) : skipToToken false allowed false rest p = (⟨rest, p⟩, allowed) := by
  cases rest with
  | nil => rfl
  | cons c cs =>
    have hc := hrest.isAlpha
    have hr : c ≠ '\r' := ne_of_test hc (by decide)
    have hs : c ≠ ' ' := ne_of_test hc (by decide)
    have ht : c ≠ '\t' := ne_of_test hc (by decide)
    have hn : c ≠ '#' := ne_of_test hc (by decide)
    have hm : c ≠ byteOrderMark := ne_of_test hc (by decide)
    rw [skipToToken.eq_3 _ _ _ _ _ _ (fun _ h _ => hr h)]
    simp [isBreak_of_isAlpha hc, hs, ht, hn, hm]

/-- The blank before a value. -/
theorem skipToToken_space {c : Char} (hc : isPrintable c = true) (hb : isBlankOrBreak c = false)
    (hn : c ≠ '#') (cs : List Char) (p : Place) :
    skipToToken false false false (' ' :: c :: cs) p = (⟨c :: cs, p.next⟩, false) := by
  rw [isBlankOrBreak, Bool.or_eq_false_iff] at hb
  have hr : c ≠ '\r' := ne_of_test hc (by decide)
  have ht : c ≠ '\t' := ne_of_test hc (by decide)
  have hm : c ≠ byteOrderMark := ne_of_test hc (by decide)
  have hs : c ≠ ' ' := by
    rintro rfl
    exact absurd hb.1 (by decide)
  rw [skipToToken.eq_3 _ _ _ _ _ _ (fun _ h _ => absurd h (by decide)), if_neg (by decide),
    if_neg (by decide), if_pos (by decide), skipToToken.eq_3 _ _ _ _ _ _ (fun _ h _ => hr h)]
  simp [hb.2, hs, ht, hn, hm]

/-- Whether a character means something of its own before the rest of a line. -/
def isMarkBefore (c : Char) (cs : List Char) : Bool :=
  isStartIndicator c || ((c == '?' || c == ':' || c == '-') && atGap cs)

theorem startsPlain_of_unmarked {c : Char} {cs : List Char} (hm : isMarkBefore c cs = false)
    (hb : isBlankOrBreak c = false) : startsPlain false (c :: cs) = true := by
  rw [isMarkBefore, Bool.or_eq_false_iff] at hm
  obtain ⟨hi, hg⟩ := hm
  by_cases hd : c = '-'
  · subst hd
    have hgap : atGap cs = false := by simpa using hg
    have hhead : cs.head?.any isBlank = false := by
      cases cs with
      | nil => rfl
      | cons d ds => exact (Bool.or_eq_false_iff.mp hgap).1
    simp [startsPlain, hhead]
  · by_cases hq : c = '?' ∨ c = ':'
    · have hgap : atGap cs = false := by
        rcases hq with rfl | rfl <;> simpa using hg
      rcases hq with rfl | rfl <;> simp [startsPlain, hgap]
    · have hind : isIndicator c = false := by
        have hall : ∀ d ∈ "-?:,[]\x7b\x7d#&*!|>'\"%@`".toList,
            (d == '-' || (d == '?' || d == ':') || isStartIndicator d) = true :=
          List.all_eq_true.mp rfl
        rw [Bool.eq_false_iff]
        intro hc
        have hmark := hall c (by simpa [isIndicator] using hc)
        simp only [Bool.or_eq_true, beq_iff_eq] at hmark
        rcases hmark with (h | h) | h
        · exact hd h
        · exact hq h
        · simp [hi] at h
      simp [startsPlain, hb, hind]

/-- A character that starts nothing else starts a plain scalar. -/
theorem readToken_plain {s : Scan} {c : Char} {cs : List Char} (hs : s.rest = c :: cs)
    (hflow : s.outer = []) (hd : s.column = 0 → atDocumentMark (c :: cs) = false)
    (hm : isMarkBefore c cs = false) (hb : isBlankOrBreak c = false) :
    s.readToken = s.readPlain := by
  have hplain := startsPlain_of_unmarked hm hb
  rw [isMarkBefore, Bool.or_eq_false_iff] at hm
  obtain ⟨hi, hg⟩ := hm
  have hne : ∀ d, isStartIndicator d = true → c ≠ d := by
    rintro d hd rfl
    simp [hi] at hd
  have hin : s.inFlow = false := by simp [inFlow, hflow]
  have hmark : (s.column == 0 && atDocumentMark (c :: cs)) = false := by
    cases hcol : s.column == 0
    · rfl
    · simp [hd (by simpa using hcol)]
  have hgap : (c == '-' && atGap cs) = false ∧ (c == '?' && atGap cs) = false ∧
      (c == ':' && atGap cs) = false := by
    cases ha : atGap cs
    · simp
    · simpa [ha, and_assoc, and_comm, and_left_comm] using hg
  unfold readToken
  rw [hs]
  simp [hin, hmark, hgap, hplain, hne '%' (by decide), hne '[' (by decide), hne '{' (by decide),
    hne ']' (by decide), hne '}' (by decide), hne ',' (by decide), hne '*' (by decide),
    hne '&' (by decide), hne '!' (by decide), hne '|' (by decide), hne '>' (by decide),
    hne '\'' (by decide), hne '"' (by decide)]

theorem readPlain_eq {s t : Scan} {r : Plain.Reading} (hs : s.saveKey = .ok t)
    (hflow : t.inFlow = false)
    (hr : Plain.read false (t.indent + 1) [] .none t.rest t.place = .ok r) :
    s.readPlain = .ok (((t.allowKey r.endsLine).moveTo r.cursor).emit (.scalar .plain r.text)) := by
  unfold readPlain
  rw [hs]
  simp only [bind, Except.bind, hflow, hr]
  rfl

/-! ## The three steps of an entry -/

/-- A key that a page may have: letters, and not too many of them. -/
structure IsKey (k : List Char) : Prop where
  ne_nil : k ≠ []
  letters : ∀ c ∈ k, c.isAlpha = true
  length_le : k.length ≤ 1024

theorem IsKey.startsLine {k : List Char} (hk : IsKey k) (rest : List Char) :
    StartsLine (k ++ rest) := by
  obtain ⟨c, cs, rfl⟩ := List.exists_cons_of_ne_nil hk.ne_nil
  intro d hd
  obtain rfl : c = d := by simpa using hd
  exact hk.letters c List.mem_cons_self

/-- At the first column, where an entry starts or the page ends. -/
def atEntry (ts : List Token) (opened : Bool) (rest : List Char) (p : Place) : Scan :=
  ⟨⟨rest, p⟩, ts, if opened then 0 else -1, if opened then [-1] else [], none, [], true⟩

/-- Behind a key, which still may turn out to be one. -/
def afterKey (ts : List Token) (opened : Bool) (k rest : List Char) (p : Place) : Scan :=
  ⟨⟨':' :: ' ' :: rest, p.skip k.length⟩, ts ++ [.scalar .plain k], if opened then 0 else -1,
    if opened then [-1] else [], some ⟨ts.length, opened, p⟩, [], false⟩

def afterColon (ts : List Token) (rest : List Char) (p : Place) : Scan :=
  ⟨⟨' ' :: rest, p⟩, ts, 0, [-1], none, [], false⟩

/-- What the first entry puts before its key. -/
def opening (opened : Bool) : List Token := if opened then [] else [.blockMappingStart]

/-- Blanks lead to the start of an entry. -/
def Ready (s : Scan) (ts : List Token) (opened : Bool) (rest : List Char) : Prop :=
  ∃ p, p.column = 0 ∧ s.skipBlank = atEntry ts opened rest p

theorem isMarkBefore_of_isAlpha {c : Char} (hc : c.isAlpha = true) (cs : List Char) :
    isMarkBefore c cs = false := by
  have hq : c ≠ '?' := ne_of_test hc (by decide)
  have hn : c ≠ ':' := ne_of_test hc (by decide)
  have hd : c ≠ '-' := ne_of_test hc (by decide)
  simp [isMarkBefore, isStartIndicator_of_isAlpha hc, hq, hn, hd]

theorem atDocumentMark_of_isAlpha {c : Char} (hc : c.isAlpha = true) (cs : List Char) :
    atDocumentMark (c :: cs) = false := by
  have hd : c ≠ '-' := ne_of_test hc (by decide)
  have hp : c ≠ '.' := ne_of_test hc (by decide)
  unfold atDocumentMark
  split
  · next h => exact absurd (List.cons.inj h).1 hd
  · next h => exact absurd (List.cons.inj h).1 hp
  · rfl

theorem isStale_afterKey (ts : List Token) (opened : Bool) {k : List Char} (rest : List Char)
    (p : Place) (hk : IsKey k) : ∀ x ∈ (afterKey ts opened k rest p).pending,
      x.isStale (afterKey ts opened k rest p).place = false := by
  intro x hx
  obtain rfl : _ = x := Option.some.inj hx
  simpa [PendingKey.isStale, place, afterKey, Place.skip] using hk.length_le

theorem step_key {s : Scan} {ts : List Token} {opened : Bool} {k rest : List Char}
    (hs : Ready s ts opened (k ++ ':' :: ' ' :: rest)) (hk : IsKey k) :
    ∃ p, p.column = 0 ∧ s.step = .ok (afterKey ts opened k rest p) := by
  obtain ⟨p, hp, hskip⟩ := hs
  refine ⟨p, hp, ?_⟩
  obtain ⟨c, cs, rfl⟩ := List.exists_cons_of_ne_nil hk.ne_nil
  have hc := hk.letters c List.mem_cons_self
  have hb : isBlankOrBreak c = false := by
    rw [isBlankOrBreak, isBlank_of_isAlpha hc, isBreak_of_isAlpha hc, Bool.or_self]
  have hi : (if opened then (0 : Int) else -1) ≤ (p.column : Int) := by
    cases opened <;> simp [hp]
  have hsave : (atEntry ts opened (c :: cs ++ ':' :: ' ' :: rest) p).saveKey =
      .ok { atEntry ts opened (c :: cs ++ ':' :: ' ' :: rest) p with
        pending := some ⟨ts.length, opened, p⟩ } := by
    cases opened <;>
      simp [saveKey, atEntry, inFlow, column, place, dropKey, hp, bind, Except.bind, pure,
        Except.pure]
  have hread := @Plain.read_key ((if opened then 0 else -1) + 1) [] p (c :: cs) hk.letters rest
  rw [List.append_nil, List.reverse_reverse] at hread
  rw [step_eq hskip rfl (fun k hk => by cases hk) hi,
    readToken_plain rfl rfl (fun _ => atDocumentMark_of_isAlpha hc _)
      (isMarkBefore_of_isAlpha hc _) hb]
  rw [readPlain_eq hsave rfl hread]
  exact dropStale_of_fresh rfl (isStale_afterKey ts opened rest p hk)

/-- The colon puts the tokens of the key where they were held back. -/
theorem readValue_afterKey (ts : List Token) (opened : Bool) (k rest : List Char) {p : Place}
    (hp : p.column = 0) :
    (afterKey ts opened k rest p).readValue =
      .ok (afterColon (ts ++ opening opened ++ [.key, .scalar .plain k, .value]) rest
        ((p.skip k.length).skip 1)) := by
  cases opened <;>
    simp [readValue, afterKey, afterColon, opening, deepens, deepen, inFlow, emitAt, allowKey,
      advance, emit, Scan.rest, place, hp]

theorem step_colon (ts : List Token) (opened : Bool) {k : List Char} (rest : List Char)
    {p : Place} (hp : p.column = 0) (hk : IsKey k) :
    ∃ q, 0 < q.column ∧ (afterKey ts opened k rest p).step =
      .ok (afterColon (ts ++ opening opened ++ [.key, .scalar .plain k, .value]) rest q) := by
  have hlen : 0 < k.length := List.length_pos_iff.mpr hk.ne_nil
  have hskip : (afterKey ts opened k rest p).skipBlank = afterKey ts opened k rest p := rfl
  have hi : (if opened then (0 : Int) else -1) ≤ ((p.skip k.length).column : Int) := by
    simp only [Place.skip]
    split <;> omega
  have hcol : (afterKey ts opened k rest p).column ≠ 0 := by
    simp only [column, afterKey, Place.skip]
    omega
  have hread : (afterKey ts opened k rest p).readToken =
      (afterKey ts opened k rest p).readValue := by
    have hr : (afterKey ts opened k rest p).rest = ':' :: ' ' :: rest := rfl
    unfold readToken
    rw [hr]
    simp [hcol, show atGap (' ' :: rest) = true from rfl]
  refine ⟨(p.skip k.length).skip 1, by simp [Place.skip], ?_⟩
  rw [step_eq hskip rfl (isStale_afterKey ts opened rest p hk) hi, hread,
    readValue_afterKey ts opened k rest hp]
  exact dropStale_of_fresh rfl (fun k hk => by cases hk)

/-! ## Values -/

/-- What stands behind the key of an entry. -/
def valueText : Option (List Char) → List Char
  | none => "null\n".toList
  | some s => scalar s

theorem entry_eq (k : List Char) (v : Option (List Char)) :
    entry k v = k ++ ':' :: ' ' :: valueText v := by
  cases v <;> simp [entry, valueText]

/-- How a style of writing is read. -/
def styleRead : Style → ScalarStyle
  | .plain => .plain
  | .single => .quoted
  | .double => .quoted
  | .literal => .literal

/-- The style in which a value is read. -/
def readStyle : Option (List Char) → ScalarStyle
  | none => .plain
  | some s => styleRead (style s)

/-- The text that is read for a value. -/
def readText : Option (List Char) → List Char
  | none => "null".toList
  | some s => s

/-- The token of a written value. -/
def valueToken (v : Option (List Char)) : Token := .scalar (readStyle v) (readText v)

/-- Behind the blank after a colon. -/
def atValue (ts : List Token) (rest : List Char) (p : Place) : Scan :=
  ⟨⟨rest, p⟩, ts, 0, [-1], none, [], false⟩

/-- A value is read where it starts. -/
theorem step_afterColon {c : Char} (hc : isPrintable c = true) (hb : isBlankOrBreak c = false)
    (hn : c ≠ '#') (ts : List Token) (cs : List Char) (p : Place) :
    (afterColon ts (c :: cs) p).step = (atValue ts (c :: cs) p.next).readToken.bind dropStale := by
  have hskip : (afterColon ts (c :: cs) p).skipBlank = atValue ts (c :: cs) p.next :=
    skipBlank_eq (skipToToken_space hc hb hn cs p)
  exact step_eq hskip rfl (fun k hk => by cases hk) (Int.natCast_nonneg _)

/-- A value that takes the end of its line with it. -/
theorem ready_line {rest : List Char} (hrest : StartsLine rest) (ts : List Token) {p : Place}
    (hp : p.column = 0) : Ready (atEntry ts true rest p) ts true rest :=
  ⟨p, hp, skipBlank_eq (skipToToken_line hrest true p)⟩

/-- A value that leaves the end of its line. -/
theorem ready_lineEnd {rest : List Char} (hrest : StartsLine rest) (ts : List Token) (p : Place) :
    Ready (atValue ts ('\n' :: rest) p) ts true rest :=
  ⟨p.nextLine 1, rfl, skipBlank_eq (skipToToken_line hrest true (p.nextLine 1))⟩

variable {rest : List Char} {ts : List Token} {p : Place}

theorem step_plain {s : List Char} (hne : s ≠ []) (hs : (traits s).allowsPlain = true)
    (hrest : StartsLine rest) :
    ∃ t, (afterColon ts (s ++ '\n' :: rest) p).step = .ok t ∧
      Ready t (ts ++ [.scalar .plain s]) true rest := by
  obtain ⟨hshown, hhead, -, hstart, -⟩ := Plain.of_allowsPlain hs
  obtain ⟨c, cs, rfl⟩ := List.exists_cons_of_ne_nil hne
  have hc := hshown.printable c List.mem_cons_self
  have hb := Plain.isBlankOrBreak_of_printable hc (by simpa using hhead)
  have hmark : isMarkBefore c (cs ++ '\n' :: rest) = false := by
    rw [isMarkBefore, Plain.atGap_append_newline]
    simp only [startsWithIndicator, Bool.or_eq_false_iff] at hstart
    simp [hstart.1.1.1, hstart.1.1.2]
  have hn : c ≠ '#' := by
    rintro rfl
    exact absurd hmark (by simp [isMarkBefore, show isStartIndicator '#' = true by decide])
  have hcol : 0 < p.next.column := Nat.succ_pos _
  obtain ⟨q, hq, hread⟩ := Plain.read_plain hs hrest hcol
  refine ⟨atEntry (ts ++ [.scalar .plain (c :: cs)]) true rest q, ?_, ready_line hrest _ hq⟩
  have htoken : (atValue ts (c :: (cs ++ '\n' :: rest)) p.next).readToken =
      (atValue ts (c :: (cs ++ '\n' :: rest)) p.next).readPlain :=
    readToken_plain rfl rfl (fun h => absurd h (Nat.succ_ne_zero p.column)) hmark hb
  have hplain : (atValue ts (c :: (cs ++ '\n' :: rest)) p.next).readPlain =
      .ok (atEntry (ts ++ [.scalar .plain (c :: cs)]) true rest q) :=
    @readPlain_eq _ (atValue ts (c :: (cs ++ '\n' :: rest)) p.next) _ rfl rfl hread
  rw [List.cons_append, step_afterColon hc hb hn, htoken, hplain]
  exact dropStale_of_fresh rfl (fun k hk => by cases hk)

/-- Behind the closing quote of a value. -/
theorem step_quotes {style : Quoted.Style} {c : Char} {body s after : List Char} {q : Place}
    (hc : style = .single ∧ c = '\'' ∨ style = .double ∧ c = '"')
    (hread : Quoted.read style .text [] .none body p.next.next = .ok (s, ⟨after, q⟩)) :
    (afterColon ts (c :: body) p).step = .ok (atValue (ts ++ [.scalar .quoted s]) after q) := by
  have hcol : (atValue ts (c :: body) p.next).column ≠ 0 := Nat.succ_ne_zero _
  have htoken : (atValue ts (c :: body) p.next).readToken =
      (atValue ts (c :: body) p.next).readQuoted style := by
    have hr : (atValue ts (c :: body) p.next).rest = c :: body := rfl
    unfold readToken
    rw [hr]
    rcases hc with ⟨rfl, rfl⟩ | ⟨rfl, rfl⟩ <;> simp [hcol]
  have hquoted : (atValue ts (c :: body) p.next).readQuoted style =
      .ok (atValue (ts ++ [.scalar .quoted s]) after q) := by
    change (Quoted.read style .text [] .none body p.next.next).bind _ = _
    rw [hread]
    rfl
  rw [step_afterColon (by rcases hc with ⟨-, rfl⟩ | ⟨-, rfl⟩ <;> decide)
    (by rcases hc with ⟨-, rfl⟩ | ⟨-, rfl⟩ <;> decide)
    (by rcases hc with ⟨-, rfl⟩ | ⟨-, rfl⟩ <;> decide), htoken, hquoted]
  exact dropStale_of_fresh rfl (fun k hk => by cases hk)

theorem step_quoted {style : Quoted.Style} {c : Char} {body s : List Char} {q : Place}
    (hc : style = .single ∧ c = '\'' ∨ style = .double ∧ c = '"')
    (hread : Quoted.read style .text [] .none body p.next.next = .ok (s, ⟨'\n' :: rest, q⟩))
    (hrest : StartsLine rest) :
    ∃ t, (afterColon ts (c :: body) p).step = .ok t ∧
      Ready t (ts ++ [.scalar .quoted s]) true rest :=
  ⟨_, step_quotes hc hread, ready_lineEnd hrest _ q⟩

theorem step_literal {body s : List Char} {q : Place} (hq : q.column = 0)
    (hread : Block.read true 0 body p.next.next = .ok (s, ⟨rest, q⟩)) (hrest : StartsLine rest) :
    ∃ t, (afterColon ts ('|' :: body) p).step = .ok t ∧
      Ready t (ts ++ [.scalar .literal s]) true rest := by
  have hcol : (atValue ts ('|' :: body) p.next).column ≠ 0 := Nat.succ_ne_zero _
  have htoken : (atValue ts ('|' :: body) p.next).readToken =
      (atValue ts ('|' :: body) p.next).readBlockScalar true := by
    have hr : (atValue ts ('|' :: body) p.next).rest = '|' :: body := rfl
    unfold readToken
    rw [hr]
    simp [hcol, show (atValue ts ('|' :: body) p.next).inFlow = false from rfl]
  have hblock : (atValue ts ('|' :: body) p.next).readBlockScalar true =
      .ok (atEntry (ts ++ [.scalar .literal s]) true rest q) := by
    change (Block.read true 0 body p.next.next).bind _ = _
    rw [hread]
    rfl
  refine ⟨atEntry (ts ++ [.scalar .literal s]) true rest q, ?_, ready_line hrest _ hq⟩
  rw [step_afterColon (by decide) (by decide) (by decide), htoken, hblock]
  exact dropStale_of_fresh rfl (fun k hk => by cases hk)

/-- The step of a value; how it is written decides which characters it takes. -/
theorem step_value (v : Option (List Char)) (hrest : StartsLine rest) :
    ∃ t, (afterColon ts (valueText v ++ rest) p).step = .ok t ∧
        Ready t (ts ++ [valueToken v]) true rest := by
  have hhead : ('\n' :: rest).head? ≠ some '\'' := by simp
  cases v with
  | none => exact step_plain (s := "null".toList) (by decide) (by decide) hrest
  | some s =>
    have hvalue : valueToken (some s) = .scalar (styleRead (style s)) s := rfl
    have hfits := fits_style s
    rw [hvalue]
    cases hstyle : style s with
    | plain =>
      rw [hstyle] at hfits
      obtain ⟨hne, hplain, -⟩ := hfits
      have htext : valueText (some s) ++ rest = s ++ '\n' :: rest := by
        simp [valueText, scalar, hstyle]
      rw [htext]
      exact step_plain hne hplain hrest
    | single =>
      rw [hstyle] at hfits
      obtain ⟨hn, hsingle⟩ := hfits
      obtain ⟨q, hread⟩ := @Quoted.read_single p.next.next s hn hsingle ('\n' :: rest) hhead
      have htext : valueText (some s) ++ rest =
          '\'' :: (singleBody false s ++ '\'' :: '\n' :: rest) := by
        simp [valueText, scalar, hstyle]
      rw [htext]
      exact step_quoted (.inl ⟨rfl, rfl⟩) hread hrest
    | double =>
      obtain ⟨q, hread⟩ := @Quoted.read_double p.next.next s ('\n' :: rest) hhead
      have htext : valueText (some s) ++ rest = '"' :: (doubleBody s ++ '"' :: '\n' :: rest) := by
        simp [valueText, scalar, hstyle]
      rw [htext]
      exact step_quoted (.inr ⟨rfl, rfl⟩) hread hrest
    | literal =>
      rw [hstyle] at hfits
      obtain ⟨hne, hliteral⟩ := hfits
      obtain ⟨q, hq, hread⟩ := Block.read_literal hne hliteral hrest p.next.next
      have htext : valueText (some s) ++ rest = '|' :: (depthHint s ++ chompHint s ++
          '\n' :: (indented true s ++ (Block.closing s ++ rest))) := by
        simp [valueText, scalar, hstyle, Block.closing]
      rw [htext]
      exact step_literal hq hread hrest

/-! ## The run over a page -/

theorem run_step {s t : Scan} (h : s.step = .ok t) (hf : t.isFinished = false) (fuel : Nat) :
    run (fuel + 1) s = run fuel t := by
  rw [run, h]
  simp [hf]

theorem isFinished_of_last {s : Scan} {ts : List Token} {t : Token} (h : s.tokens = ts ++ [t])
    (ht : t ≠ .streamEnd) : s.isFinished = false := by
  simp [isFinished, h, ht]

theorem Ready.tokens {s : Scan} {ts : List Token} {opened : Bool} {rest : List Char}
    (h : Ready s ts opened rest) : s.tokens = ts := by
  obtain ⟨p, -, hp⟩ := h
  exact congrArg Scan.tokens hp

/-- The tokens of an entry. -/
def entryTokens (e : List Char × Option (List Char)) : List Token :=
  [.key, .scalar .plain e.1, .value, valueToken e.2]

theorem length_entryTokens (es : List (List Char × Option (List Char))) :
    (es.flatMap entryTokens).length = 4 * es.length := by
  induction es with
  | nil => rfl
  | cons e es ih =>
    rw [List.flatMap_cons, List.length_append, ih, List.length_cons]
    simp only [entryTokens, List.length_cons, List.length_nil]
    omega

theorem valueToken_ne_streamEnd (v : Option (List Char)) : valueToken v ≠ .streamEnd := by
  cases v <;> exact Token.noConfusion

theorem run_entry {s : Scan} {opened : Bool} {k : List Char} {v : Option (List Char)}
    (hs : Ready s ts opened (entry k v ++ rest)) (hk : IsKey k) (hrest : StartsLine rest) :
    ∃ t, Ready t (ts ++ opening opened ++ entryTokens (k, v)) true rest ∧
      ∀ fuel, run (fuel + 3) s = run fuel t := by
  rw [entry_eq, List.append_assoc, List.cons_append, List.cons_append] at hs
  obtain ⟨p, hp, hkey⟩ := step_key hs hk
  obtain ⟨q, -, hcolon⟩ := step_colon ts opened (valueText v ++ rest) hp hk
  obtain ⟨t, hvalue, ht⟩ := @step_value rest
    (ts ++ opening opened ++ [.key, .scalar .plain k, .value]) q v hrest
  have hlast : ts ++ opening opened ++ [.key, .scalar .plain k, .value] =
      (ts ++ opening opened ++ [.key, .scalar .plain k]) ++ [.value] := by simp
  refine ⟨t, by simpa [entryTokens] using ht, fun fuel => ?_⟩
  rw [run_step hkey (isFinished_of_last rfl (by simp)),
    run_step hcolon (isFinished_of_last hlast (by simp)),
    run_step hvalue (isFinished_of_last ht.tokens (valueToken_ne_streamEnd v))]

/-- Blanks lead to the end of the text. -/
def AtEnd (s : Scan) (ts : List Token) : Prop :=
  ∃ p allowed, s.skipBlank = ⟨⟨[], p⟩, ts, 0, [-1], none, [], allowed⟩

theorem Ready.atEnd {s : Scan} (hs : Ready s ts true []) : AtEnd s ts := by
  obtain ⟨p, -, hskip⟩ := hs
  exact ⟨p, true, hskip⟩

theorem AtEnd.tokens {s : Scan} (h : AtEnd s ts) : s.tokens = ts := by
  obtain ⟨p, allowed, hskip⟩ := h
  exact congrArg Scan.tokens hskip

/-- At the end of the text its mapping is closed. -/
theorem run_end {s : Scan} (hs : AtEnd s ts) (fuel : Nat) :
    run (fuel + 1) s = (ts ++ [.blockEnd, .streamEnd], none) := by
  obtain ⟨p, allowed, hskip⟩ := hs
  have hread : ∃ q, readToken ⟨⟨[], p⟩, ts, 0, [-1], none, [], allowed⟩ =
      .ok ⟨⟨[], q⟩, ts ++ [.blockEnd] ++ [.streamEnd], -1, [], none, [], false⟩ := by
    refine ⟨if p.column = 0 then p else p.nextLine 0, ?_⟩
    by_cases hp : p.column = 0 <;>
      simp [readToken, readEnd, Scan.rest, column, hp, moveTo, place, close, closeTo, inFlow,
        dropKey, allowKey, emit, Functor.map, Except.map]
  obtain ⟨q, hread⟩ := hread
  have hstep : s.step =
      .ok ⟨⟨[], q⟩, ts ++ [.blockEnd] ++ [.streamEnd], -1, [], none, [], false⟩ := by
    rw [step_eq hskip rfl (fun k hk => by cases hk) (Int.natCast_nonneg _), hread]
    exact dropStale_of_fresh rfl (fun k hk => by cases hk)
  rw [run, hstep]
  simp [isFinished]

theorem startsLine_mapping {es : List (List Char × Option (List Char))}
    (hes : ∀ e ∈ es, IsKey e.1) : StartsLine (mapping es) := by
  cases es with
  | nil => exact startsLine_nil
  | cons e es =>
    rw [show mapping (e :: es) = entry e.1 e.2 ++ mapping es from rfl, entry_eq,
      List.append_assoc]
    exact (hes e List.mem_cons_self).startsLine _

theorem run_entries {es : List (List Char × Option (List Char))} {s : Scan}
    (hs : Ready s ts true (mapping es)) (hes : ∀ e ∈ es, IsKey e.1) (fuel : Nat) :
    run (fuel + 3 * es.length + 1) s =
      (ts ++ es.flatMap entryTokens ++ [.blockEnd, .streamEnd], none) := by
  induction es generalizing s ts with
  | nil => simpa using run_end hs.atEnd (fuel + 3 * 0)
  | cons e es ih =>
    have htail : ∀ e ∈ es, IsKey e.1 := fun d hd => hes d (List.mem_cons_of_mem e hd)
    obtain ⟨t, ht, hrun⟩ := run_entry hs (hes e List.mem_cons_self) (startsLine_mapping htail)
    have hfuel : fuel + 3 * (e :: es).length + 1 = fuel + 3 * es.length + 1 + 3 := by
      rw [List.length_cons]
      omega
    rw [hfuel, hrun, ih ht htail]
    simp [opening]

end Scan
end PluginRelease.Yaml
