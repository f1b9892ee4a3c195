import PluginRelease.Tag
import PluginRelease.Proofs.Decimal.Numeral

/-!
The numerals that tags may start with: a sign, digits with a point before, among or behind them,
and an exponent, where single underscores may stand between digits. The longest one is read.
-/
namespace PluginRelease.Tag
open Text Binary64

/-! ## Longest match -/

/-- A form whose text is the longest that a text starts with. -/
structure Longest {α : Type} (text : α → List Char) (s : List Char) (a : α) : Prop where
  starts : text a <+: s
  longest : ∀ b, text b <+: s → (text b).length ≤ (text a).length

/-- Two longest forms have one text. -/
theorem Longest.text_eq {α : Type} {text : α → List Char} {s : List Char} {a b : α}
    (ha : Longest text s a) (hb : Longest text s b) : text a = text b :=
  (List.prefix_of_prefix_length_le ha.starts hb.starts (hb.longest a ha.starts)).eq_of_length_le
    (ha.longest b hb.starts)

section Row
variable {α β : Type} {f : α → List Char} {g : β → List Char} {s r : List Char} {a : α} {b : β}

/-- What stands behind a form is empty or stands behind the longest one, if that one has no
character that it may start with. -/
theorem Longest.rest (ha : Longest f s a) (hs : s = f a ++ r) {a' : α} {v : List Char}
    (hapart : ∀ c ∈ v.head?, c ∉ f a) (h : f a' ++ v <+: s) : f a' = f a ∧ v <+: r ∨ v = [] := by
  have hstart : f a' <+: s := (List.prefix_append _ _).trans h
  obtain ⟨w, hw⟩ := List.prefix_of_prefix_length_le hstart ha.starts (ha.longest a' hstart)
  rw [hs, ← hw, List.append_assoc, List.prefix_append_right_inj] at h
  cases w with
  | nil => exact .inl ⟨(List.append_nil _).symm.trans hw, h⟩
  | cons c w =>
    cases v with
    | nil => exact .inr rfl
    | cons d v =>
      have hmem : d ∈ f a := by
        rw [← hw, (List.cons_prefix_cons.mp h).1]
        simp
      exact absurd hmem (hapart d rfl)

/-- Two longest forms in a row are the longest row of such forms. -/
theorem Longest.append (ha : Longest f s a) (hs : s = f a ++ r) (hb : Longest g r b)
    (hapart : ∀ b', ∀ c ∈ (g b').head?, c ∉ f a) :
    Longest (fun p : α × β => f p.1 ++ g p.2) s (a, b) := by
  refine ⟨?_, fun p hp => ?_⟩
  · rw [hs, List.prefix_append_right_inj]
    exact hb.starts
  · simp only [List.length_append]
    rcases ha.rest hs (hapart p.2) hp with ⟨heq, hrest⟩ | hnil
    · have hle := hb.longest p.2 hrest
      rw [heq]
      omega
    · have hle := ha.longest p.1 ((List.prefix_append _ _).trans hp)
      rw [hnil, List.length_nil]
      omega

end Row

/-! ## Numerals -/

/-- Digits, with single underscores between some of them. -/
inductive IsGroup : List Char → Prop
  | digit {c : Char} (hc : c.isDigit = true) : IsGroup [c]
  | adjacent {c : Char} {s : List Char} (hc : c.isDigit = true) (hs : IsGroup s) : IsGroup (c :: s)
  | apart {c : Char} {s : List Char} (hc : c.isDigit = true) (hs : IsGroup s) :
      IsGroup (c :: '_' :: s)

structure Group where
  text : List Char
  isGroup : IsGroup text

inductive Sign
  | unsigned
  | plus
  | minus
deriving DecidableEq

/-- Digits with a point after, among or before them. -/
inductive Mantissa
  | whole (w : Group)
  | mixed (w p : Group)
  | part (p : Group)

structure Exponent where
  mark : Char
  mark_eq : mark = 'e' ∨ mark = 'E'
  sign : Sign
  digits : Group

structure Numeral where
  sign : Sign
  mantissa : Mantissa
  exponent : Option Exponent

/-- A text without its underscores. -/
def plain (s : List Char) : List Char := s.filter (· ≠ '_')

theorem plain_append (s t : List Char) : plain (s ++ t) = plain s ++ plain t :=
  List.filter_append s t

theorem plain_cons {c : Char} (hc : c ≠ '_') (s : List Char) : plain (c :: s) = c :: plain s := by
  simp [plain, hc]

def Group.value (g : Group) : Nat := decimalValue (plain g.text)

def Sign.text : Sign → List Char
  | unsigned => []
  | plus => ['+']
  | minus => ['-']

def Sign.isMinus (s : Sign) : Bool := s = minus

namespace Mantissa

def text : Mantissa → List Char
  | whole w => w.text
  | mixed w p => w.text ++ '.' :: p.text
  | part p => '.' :: p.text

/-- The digits behind the point count in fractions of one. -/
def size : Mantissa → ℚ
  | whole w => w.value
  | mixed w p => w.value + p.value / 10 ^ (plain p.text).length
  | part p => p.value / 10 ^ (plain p.text).length

end Mantissa

namespace Exponent

def text (e : Exponent) : List Char := e.mark :: (e.sign.text ++ e.digits.text)

def value (e : Exponent) : Int := if e.sign.isMinus then -e.digits.value else e.digits.value

/-- What stands for an exponent that may be left out. -/
def optionText : Option Exponent → List Char
  | none => []
  | some e => e.text

end Exponent

namespace Numeral

def text (n : Numeral) : List Char :=
  n.sign.text ++ (n.mantissa.text ++ Exponent.optionText n.exponent)

/-- The number without its sign. -/
def size (n : Numeral) : ℚ := n.mantissa.size * 10 ^ (n.exponent.elim 0 Exponent.value)

end Numeral

/-! ## Groups -/

theorem IsGroup.exists_cons {s : List Char} (h : IsGroup s) :
    ∃ c t, s = c :: t ∧ c.isDigit = true := by
  cases h with
  | digit hc => exact ⟨_, _, rfl, hc⟩
  | adjacent hc _ => exact ⟨_, _, rfl, hc⟩
  | apart hc _ => exact ⟨_, _, rfl, hc⟩

theorem IsGroup.isDigit_or_eq {s : List Char} (h : IsGroup s) :
    ∀ c ∈ s, c.isDigit = true ∨ c = '_' := by
  induction h with
  | digit hc => simp [hc]
  | adjacent hc _ ih => simpa [hc] using ih
  | apart hc _ ih => simpa [hc] using ih

theorem Group.isDigit_of_mem_plain (g : Group) : ∀ c ∈ plain g.text, c.isDigit = true := by
  intro c hc
  obtain ⟨hmem, hne⟩ := List.mem_filter.mp hc
  exact (g.isGroup.isDigit_or_eq c hmem).resolve_right (of_decide_eq_true hne)

theorem ne_underscore_of_isDigit {c : Char} (hc : c.isDigit = true) : c ≠ '_' := by
  rintro rfl
  exact absurd hc (by decide)

theorem Group.plain_ne_nil (g : Group) : plain g.text ≠ [] := by
  obtain ⟨c, t, htext, hc⟩ := g.isGroup.exists_cons
  rw [htext, plain_cons (ne_underscore_of_isDigit hc)]
  exact List.cons_ne_nil _ _

/-- All digits of a text are ASCII digits. -/
def HasAsciiDigits (s : List Char) : Prop := ∀ c ∈ s, isDecimalDigit c = true → c.isDigit = true

instance (s : List Char) : Decidable (HasAsciiDigits s) :=
  decidable_of_iff (s.all fun c => !isDecimalDigit c || c.isDigit) (by
    simp [HasAsciiDigits, imp_iff_not_or])

theorem HasAsciiDigits.of_suffix {s t : List Char} (h : HasAsciiDigits s) (ht : t <:+ s) :
    HasAsciiDigits t := fun c hc => h c (ht.subset hc)

theorem HasAsciiDigits.tail {c : Char} {s : List Char} (h : HasAsciiDigits (c :: s)) :
    HasAsciiDigits s := h.of_suffix (List.suffix_cons c s)

/-- How a group goes on behind a digit, in a text that starts so. -/
theorem IsGroup.goesOn {c : Char} {u s : List Char} (h : IsGroup (c :: u)) (hu : u <+: s) :
    u = [] ∨ ∃ d v r, d.isDigit = true ∧ IsGroup (d :: v) ∧ v <+: r ∧
      (u = d :: v ∧ s = d :: r ∨ u = '_' :: d :: v ∧ s = '_' :: d :: r) := by
  obtain ⟨t, rfl⟩ := hu
  cases h with
  | digit hc => exact .inl rfl
  | adjacent hc hs =>
    obtain ⟨d, v, rfl, hd⟩ := hs.exists_cons
    exact .inr ⟨d, v, v ++ t, hd, hs, List.prefix_append _ _, .inl ⟨rfl, rfl⟩⟩
  | apart hc hs =>
    obtain ⟨d, v, rfl, hd⟩ := hs.exists_cons
    exact .inr ⟨d, v, v ++ t, hd, hs, List.prefix_append _ _, .inr ⟨rfl, rfl⟩⟩

/-- Where neither a digit nor an underscore and a digit follow, a group ends. -/
theorem IsGroup.eq_nil_of_stop {c : Char} {u s : List Char} (h : IsGroup (c :: u)) (hu : u <+: s)
    (hdigit : ∀ d r, d.isDigit = true → s ≠ d :: r)
    (hapart : ∀ d r, d.isDigit = true → s ≠ '_' :: d :: r) : u = [] := by
  rcases h.goesOn hu with hnil | ⟨d, v, r, hd, -, -, ⟨-, hs⟩ | ⟨-, hs⟩⟩
  · exact hnil
  · exact absurd hs (hdigit d r hd)
  · exact absurd hs (hapart d r hd)

/-- A group is read as far as it goes on behind its first digit. -/
theorem groupTail_spec {s : List Char} (hs : HasAsciiDigits s) :
    ∃ t, s = t ++ (groupTail s).2 ∧ (groupTail s).1 = plain t ∧
      (∀ c : Char, c.isDigit = true → IsGroup (c :: t)) ∧
      ∀ c u, IsGroup (c :: u) → u <+: s → u.length ≤ t.length := by
  fun_induction groupTail s with
  | case1 =>
    refine ⟨[], rfl, rfl, fun c hc => .digit hc, fun c u _ hu => ?_⟩
    rw [List.prefix_nil.mp hu]
  | case2 c cs hc ih =>
    have hdigit := hs c (by simp) hc
    obtain ⟨t, hcs, hplain, hgroup, hlongest⟩ := ih hs.tail.tail
    refine ⟨'_' :: c :: t, ?_, ?_, fun d hd => .apart hd (hgroup c hdigit), fun d u hu hstart => ?_⟩
    · rw [List.cons_append, List.cons_append, ← hcs]
    · have hmark : plain ('_' :: c :: t) = plain (c :: t) := rfl
      rw [hmark, plain_cons (ne_underscore_of_isDigit hdigit), hplain]
    · rcases hu.goesOn hstart with rfl | ⟨e, v, r, he, hv, hr, ⟨rfl, heq⟩ | ⟨rfl, heq⟩⟩
      · exact Nat.zero_le _
      · exact absurd (List.cons.inj heq).1.symm (ne_underscore_of_isDigit he)
      · obtain ⟨rfl, rfl⟩ := List.cons.inj (List.cons.inj heq).2
        exact Nat.succ_le_succ (Nat.succ_le_succ (hlongest c v hv hr))
  | case3 c cs hc =>
    refine ⟨[], rfl, rfl, fun c hc => .digit hc, fun d u hu hstart => ?_⟩
    rw [hu.eq_nil_of_stop hstart]
    · exact fun e r he heq => ne_underscore_of_isDigit he (List.cons.inj heq).1.symm
    · intro e r he heq
      obtain ⟨rfl, -⟩ := List.cons.inj (List.cons.inj heq).2
      exact hc (isDecimalDigit_of_isDigit he)
  | case4 c cs hnot hc ih =>
    have hdigit := hs c List.mem_cons_self hc
    obtain ⟨t, hcs, hplain, hgroup, hlongest⟩ := ih hs.tail
    refine ⟨c :: t, ?_, ?_, fun d hd => .adjacent hd (hgroup c hdigit), fun d u hu hstart => ?_⟩
    · rw [List.cons_append, ← hcs]
    · rw [plain_cons (ne_underscore_of_isDigit hdigit), hplain]
    · rcases hu.goesOn hstart with rfl | ⟨e, v, r, he, hv, hr, ⟨rfl, heq⟩ | ⟨rfl, heq⟩⟩
      · exact Nat.zero_le _
      · obtain ⟨rfl, rfl⟩ := List.cons.inj heq
        exact Nat.succ_le_succ (hlongest c v hv hr)
      · exact absurd (List.cons.inj heq).1 (ne_underscore_of_isDigit hdigit)
  | case5 c cs hnot hc =>
    refine ⟨[], rfl, rfl, fun c hc => .digit hc, fun d u hu hstart => ?_⟩
    rw [hu.eq_nil_of_stop hstart]
    · intro e r he heq
      obtain ⟨rfl, -⟩ := List.cons.inj heq
      exact hc (isDecimalDigit_of_isDigit he)
    · intro e r he heq
      obtain ⟨rfl, rfl⟩ := List.cons.inj heq
      exact hnot e r rfl rfl

theorem group?_eq_some {s ds r : List Char} (hs : HasAsciiDigits s)
    (h : group? s = some (ds, r)) :
    ∃ g : Group, s = g.text ++ r ∧ ds = plain g.text ∧ Longest Group.text s g := by
  cases s with
  | nil => cases h
  | cons c cs =>
    rw [group?] at h
    split at h
    · next hc =>
      have hdigit := hs c List.mem_cons_self hc
      obtain ⟨t, hcs, hplain, hgroup, hlongest⟩ := groupTail_spec hs.tail
      obtain ⟨rfl, rfl⟩ := Prod.mk.inj (Option.some.inj h)
      refine ⟨⟨c :: t, hgroup c hdigit⟩, congrArg (c :: ·) hcs, ?_, ?_, fun b hb => ?_⟩
      · rw [plain_cons (ne_underscore_of_isDigit hdigit), hplain]
      · exact ⟨_, congrArg (c :: ·) hcs.symm⟩
      · obtain ⟨d, u, hd, -⟩ := b.isGroup.exists_cons
        rw [hd] at hb ⊢
        obtain ⟨rfl, hu⟩ := List.cons_prefix_cons.mp hb
        exact Nat.succ_le_succ (hlongest d u (hd ▸ b.isGroup) hu)
    · cases h

theorem group?_eq_none {s : List Char} (h : group? s = none) (g : Group) : ¬ g.text <+: s := by
  obtain ⟨c, t, htext, hc⟩ := g.isGroup.exists_cons
  rintro ⟨r, rfl⟩
  rw [htext, List.cons_append, group?, if_pos (isDecimalDigit_of_isDigit hc)] at h
  cases h

/-! ## Signs, mantissas and exponents -/

theorem takeSign_spec (s : List Char) :
    ∃ sign : Sign, (takeSign s).1 = sign.text ∧ s = sign.text ++ (takeSign s).2 ∧
      Longest Sign.text s sign := by
  have hshort (b : Sign) : b.text.length ≤ 1 := by cases b <;> decide
  unfold takeSign
  split
  · exact ⟨.plus, rfl, rfl, ⟨_, rfl⟩, fun b _ => hshort b⟩
  · exact ⟨.minus, rfl, rfl, ⟨_, rfl⟩, fun b _ => hshort b⟩
  · next hplus hminus =>
    refine ⟨.unsigned, rfl, rfl, List.nil_prefix, fun b hb => ?_⟩
    obtain ⟨r, hr⟩ := hb
    cases b with
    | unsigned => exact le_rfl
    | plus => exact absurd hr.symm (hplus r)
    | minus => exact absurd hr.symm (hminus r)

/-- A part behind a point, or nothing. -/
def partText : Option Group → List Char
  | none => []
  | some p => '.' :: p.text

theorem pointGroup?_eq_some {s ds r : List Char} (hs : HasAsciiDigits s)
    (h : pointGroup? s = some (ds, r)) :
    ∃ p : Group, s = '.' :: p.text ++ r ∧ ds = plain ('.' :: p.text) ∧
      Longest partText s (some p) := by
  unfold pointGroup? at h
  split at h
  · next s =>
    obtain ⟨⟨digits, rest⟩, hgroup, hpair⟩ := Option.map_eq_some_iff.mp h
    obtain ⟨rfl, rfl⟩ := Prod.mk.inj hpair
    obtain ⟨p, hp, hplain, hlongest⟩ := group?_eq_some hs.tail hgroup
    refine ⟨p, congrArg ('.' :: ·) hp, ?_, ⟨rest, congrArg ('.' :: ·) hp.symm⟩, fun b hb => ?_⟩
    · rw [plain_cons (by decide), hplain]
    · cases b with
      | none => exact Nat.zero_le _
      | some b => exact Nat.succ_le_succ (hlongest.longest b (List.cons_prefix_cons.mp hb).2)
  · cases h

theorem pointGroup?_eq_none {s : List Char} (h : pointGroup? s = none) (p : Group) :
    ¬ '.' :: p.text <+: s := by
  rintro ⟨r, rfl⟩
  rw [List.cons_append, pointGroup?, Option.map_eq_none_iff] at h
  exact group?_eq_none h p (List.prefix_append _ _)

theorem longest_partText_none {s : List Char} (h : pointGroup? s = none) :
    Longest partText s none := by
  refine ⟨List.nil_prefix, fun b hb => ?_⟩
  cases b with
  | none => exact le_rfl
  | some p => exact absurd hb (pointGroup?_eq_none h p)

/-- Digits stand before a part behind a point, or that part stands alone. -/
theorem Mantissa.text_cases (m : Mantissa) :
    (∃ w p, m.text = Group.text w ++ partText p) ∨ ∃ p : Group, m.text = '.' :: p.text := by
  cases m with
  | whole w => exact .inl ⟨w, none, (List.append_nil _).symm⟩
  | mixed w p => exact .inl ⟨w, some p, rfl⟩
  | part p => exact .inr ⟨p, rfl⟩

theorem point_not_mem_group (g : Group) : '.' ∉ g.text := by
  intro hmem
  rcases g.isGroup.isDigit_or_eq '.' hmem with h | h
  · exact absurd h (by decide)
  · exact absurd h (by decide)

/-- Behind a whole part that is read, mantissas are as long as it and the longest part behind a
point. -/
theorem Longest.mantissa {s r : List Char} {w : Group} {p : Option Group} {m : Mantissa}
    (hw : Longest Group.text s w) (hs : s = w.text ++ r) (hp : Longest partText r p)
    (hm : m.text = w.text ++ partText p) : Longest Mantissa.text s m := by
  have hrow := hw.append hs hp fun b c hc => by
    cases b with
    | none => cases hc
    | some q =>
      obtain rfl := Option.some.inj hc
      exact point_not_mem_group w
  refine ⟨hm ▸ hrow.starts, fun b hb => ?_⟩
  rw [hm]
  rcases b.text_cases with ⟨w', p', htext⟩ | ⟨p', htext⟩
  · rw [htext] at hb ⊢
    exact hrow.longest (w', p') hb
  · obtain ⟨c, t, hc, hdigit⟩ := w.isGroup.exists_cons
    rw [htext, hs, hc] at hb
    rw [← (List.cons_prefix_cons.mp hb).1] at hdigit
    exact absurd hdigit (by decide)

theorem mantissa?_eq_some {s ds r : List Char} (hs : HasAsciiDigits s)
    (h : mantissa? s = some (ds, r)) :
    ∃ m : Mantissa, s = m.text ++ r ∧ ds = plain m.text ∧ Longest Mantissa.text s m := by
  unfold mantissa? at h
  split at h
  · next whole rest hgroup =>
    obtain ⟨w, hw, hplain, hlongest⟩ := group?_eq_some hs hgroup
    split at h
    · next part rest' hpoint =>
      obtain ⟨rfl, rfl⟩ := Prod.mk.inj (Option.some.inj h)
      obtain ⟨p, hp, hpart, hlast⟩ := pointGroup?_eq_some (hs.of_suffix ⟨_, hw.symm⟩) hpoint
      refine ⟨.mixed w p, ?_, ?_, hlongest.mantissa hw hlast rfl⟩
      · rw [hw, hp, Mantissa.text, List.append_assoc]
      · rw [Mantissa.text, plain_append, hplain, hpart]
    · next hpoint =>
      obtain ⟨rfl, rfl⟩ := Prod.mk.inj (Option.some.inj h)
      exact ⟨.whole w, hw, hplain, hlongest.mantissa hw (longest_partText_none hpoint)
        (List.append_nil _).symm⟩
  · next hgroup =>
    obtain ⟨p, hp, hpart, hlongest⟩ := pointGroup?_eq_some hs h
    refine ⟨.part p, hp, hpart, hlongest.starts, fun b hb => ?_⟩
    rcases b.text_cases with ⟨w', p', htext⟩ | ⟨p', htext⟩
    · rw [htext] at hb
      exact absurd ((List.prefix_append _ _).trans hb) (group?_eq_none hgroup w')
    · rw [htext] at hb ⊢
      exact hlongest.longest (some p') hb

theorem mantissa?_eq_none {s : List Char} (h : mantissa? s = none) (m : Mantissa) :
    ¬ m.text <+: s := by
  intro hm
  unfold mantissa? at h
  split at h
  · split at h
    · cases h
    · cases h
  · next hgroup =>
    rcases m.text_cases with ⟨w, p, htext⟩ | ⟨p, htext⟩
    · rw [htext] at hm
      exact group?_eq_none hgroup w ((List.prefix_append _ _).trans hm)
    · rw [htext] at hm
      exact pointGroup?_eq_none h p hm

/-- No sign and no mark of an exponent is in a mantissa. -/
theorem Mantissa.mem_text (m : Mantissa) :
    ∀ c ∈ m.text, c.isDigit = true ∨ c = '_' ∨ c = '.' := by
  have hgroup (g : Group) (c : Char) (hc : c ∈ g.text) : c.isDigit = true ∨ c = '_' ∨ c = '.' :=
    (g.isGroup.isDigit_or_eq c hc).imp id .inl
  intro c hc
  cases m with
  | whole w => exact hgroup w c hc
  | mixed w p =>
    rcases List.mem_append.mp hc with hc | hc
    · exact hgroup w c hc
    · rcases List.mem_cons.mp hc with rfl | hc
      · exact .inr (.inr rfl)
      · exact hgroup p c hc
  | part p =>
    rcases List.mem_cons.mp hc with rfl | hc
    · exact .inr (.inr rfl)
    · exact hgroup p c hc

theorem Mantissa.text_ne_nil (m : Mantissa) : m.text ≠ [] := by
  rcases m.text_cases with ⟨w, p, htext⟩ | ⟨p, htext⟩
  · obtain ⟨c, t, hc, -⟩ := w.isGroup.exists_cons
    simp [htext, hc]
  · simp [htext]

theorem Sign.plain_text (s : Sign) : plain s.text = s.text := by
  cases s with
  | unsigned => rfl
  | plus => rfl
  | minus => rfl

theorem Sign.mem_text {s : Sign} {c : Char} (hc : c ∈ s.text) : c = '+' ∨ c = '-' := by
  cases s with
  | unsigned => cases hc
  | plus => exact .inl (List.mem_singleton.mp hc)
  | minus => exact .inr (List.mem_singleton.mp hc)

theorem Mantissa.not_mem_sign (m : Mantissa) (s : Sign) : ∀ c ∈ m.text.head?, c ∉ s.text := by
  intro c hc hsign
  have hmem := m.mem_text c (List.mem_of_head? hc)
  rcases Sign.mem_text hsign with rfl | rfl
  · exact absurd hmem (by decide)
  · exact absurd hmem (by decide)

theorem Group.not_mem_sign (g : Group) (s : Sign) : ∀ c ∈ g.text.head?, c ∉ s.text :=
  (Mantissa.whole g).not_mem_sign s

theorem mark_not_mem_mantissa (m : Mantissa) (e : Option Exponent) :
    ∀ c ∈ (Exponent.optionText e).head?, c ∉ m.text := by
  intro c hc hmem
  cases e with
  | none => cases hc
  | some e =>
    obtain rfl := Option.some.inj hc
    have hmantissa := m.mem_text e.mark hmem
    rcases e.mark_eq with hmark | hmark
    · rw [hmark] at hmantissa
      exact absurd hmantissa (by decide)
    · rw [hmark] at hmantissa
      exact absurd hmantissa (by decide)

/-- Nothing is read as an exponent where none starts. -/
theorem longest_optionText_none {s : List Char} (h : ∀ e : Exponent, ¬ e.text <+: s) :
    Longest Exponent.optionText s none := by
  refine ⟨List.nil_prefix, fun b hb => ?_⟩
  cases b with
  | none => exact le_rfl
  | some e => exact absurd hb (h e)

theorem exponent_spec {s : List Char} (hs : HasAsciiDigits s) :
    ∃ e : Option Exponent, exponent s = plain (Exponent.optionText e) ∧
      Longest Exponent.optionText s e := by
  cases s with
  | nil =>
    refine ⟨none, rfl, longest_optionText_none fun e he => ?_⟩
    cases List.prefix_nil.mp he
  | cons c r =>
    by_cases hc : c = 'e' ∨ c = 'E'
    · obtain ⟨sign, htake, hr, hsign⟩ := takeSign_spec r
      cases hgroup : group? (takeSign r).2 with
      | none =>
        have hread : exponent (c :: r) = [] := by
          unfold exponent
          dsimp only
          rw [if_pos hc, hgroup]
        refine ⟨none, hread, longest_optionText_none fun e he => ?_⟩
        have hrest := (List.cons_prefix_cons.mp he).2
        rcases hsign.rest hr (e.digits.not_mem_sign sign) hrest with ⟨-, hdigits⟩ | hnil
        · exact group?_eq_none hgroup e.digits hdigits
        · exact e.digits.plain_ne_nil (congrArg plain hnil)
      | some digits =>
        have hread : exponent (c :: r) = c :: (takeSign r).1 ++ digits.1 := by
          unfold exponent
          dsimp only
          rw [if_pos hc, hgroup]
        obtain ⟨g, hg, hplain, hlongest⟩ :=
          group?_eq_some (hs.tail.of_suffix ⟨_, hr.symm⟩) hgroup
        have hrow := hsign.append hr hlongest fun g' => g'.not_mem_sign sign
        refine ⟨some ⟨c, hc, sign, g⟩, ?_, ?_, fun b hb => ?_⟩
        · have hmark : c ≠ '_' := by rcases hc with rfl | rfl <;> decide
          rw [hread, Exponent.optionText, Exponent.text, plain_cons hmark, plain_append, sign.plain_text,
            ← htake, ← hplain]
          rfl
        · exact List.cons_prefix_cons.mpr ⟨rfl, hrow.starts⟩
        · cases b with
          | none => exact Nat.zero_le _
          | some e =>
            exact Nat.succ_le_succ (hrow.longest (e.sign, e.digits) (List.cons_prefix_cons.mp hb).2)
    · have hread : exponent (c :: r) = [] := if_neg hc
      refine ⟨none, hread, longest_optionText_none fun e he => ?_⟩
      have hmark := (List.cons_prefix_cons.mp he).1
      exact hc (hmark ▸ e.mark_eq)

/-! ## Whole numerals -/

theorem numeral?_eq (s : List Char) :
    numeral? s = (mantissa? (takeSign (trimStart s)).2).map fun m =>
      (takeSign (trimStart s)).1 ++ m.1 ++ exponent m.2 := rfl

/-- What is read is the longest numeral behind the white space, without its underscores. -/
theorem numeral?_eq_some {s ds : List Char} (hs : HasAsciiDigits s) (h : numeral? s = some ds) :
    ∃ n : Numeral, ds = plain n.text ∧ Longest Numeral.text (trimStart s) n := by
  have htrim : HasAsciiDigits (trimStart s) := hs.of_suffix (List.dropWhile_suffix _)
  rw [numeral?_eq] at h
  obtain ⟨⟨ds', r⟩, hread, rfl⟩ := Option.map_eq_some_iff.mp h
  obtain ⟨sign, htake, hr, hsign⟩ := takeSign_spec (trimStart s)
  have hunsigned := htrim.of_suffix ⟨_, hr.symm⟩
  obtain ⟨m, hm, hplain, hlongest⟩ := mantissa?_eq_some hunsigned hread
  obtain ⟨e, hexponent, he⟩ := exponent_spec (hunsigned.of_suffix ⟨_, hm.symm⟩)
  have hrow := hsign.append hr (hlongest.append hm he (mark_not_mem_mantissa m)) fun p c hc => by
    rw [List.head?_append_of_ne_nil _ p.1.text_ne_nil] at hc
    exact p.1.not_mem_sign sign c hc
  refine ⟨⟨sign, m, e⟩, ?_, hrow.starts, fun b hb => ?_⟩
  · rw [Numeral.text, plain_append, plain_append, sign.plain_text, ← hplain, ← hexponent, htake,
      List.append_assoc]
  · exact hrow.longest (b.sign, b.mantissa, b.exponent) hb

theorem numeral?_eq_none {s : List Char} (h : numeral? s = none) (n : Numeral) :
    ¬ n.text <+: trimStart s := by
  intro hn
  rw [numeral?_eq, Option.map_eq_none_iff] at h
  obtain ⟨sign, -, hr, hsign⟩ := takeSign_spec (trimStart s)
  have hstart : n.sign.text ++ n.mantissa.text <+: trimStart s := by
    refine List.IsPrefix.trans ?_ hn
    rw [Numeral.text, List.prefix_append_right_inj]
    exact List.prefix_append _ _
  rcases hsign.rest hr (n.mantissa.not_mem_sign sign) hstart with ⟨-, hmantissa⟩ | hnil
  · exact mantissa?_eq_none h n.mantissa hmantissa
  · exact n.mantissa.text_ne_nil hnil

end PluginRelease.Tag
