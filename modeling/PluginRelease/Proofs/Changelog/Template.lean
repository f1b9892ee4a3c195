import PluginRelease.Changelog

/-!
Templates as sequences of pieces, which are texts and places for the name. Each piece is read on
its own, so neither a name that is put in nor a text beside it can make a mark.
-/
namespace PluginRelease.Changelog

/-- A piece of a template. -/
inductive Piece
  | literal (text : List Char)
  | name
deriving DecidableEq, Repr

/-- A text with every percent sign twice. -/
def doubled (text : List Char) : List Char :=
  text.flatMap fun c => if c = '%' then ['%', '%'] else [c]

namespace Piece

/-- A piece as it stands in a template. -/
def written : Piece → List Char
  | literal text => doubled text
  | name => ['%', 's']

/-- What is read for a piece, given the name. -/
def shown (name : List Char) : Piece → List Char
  | literal text => text
  | .name => name

end Piece

def template (pieces : List Piece) : String := String.ofList (pieces.flatMap Piece.written)

/-- A mark of a template occurs in a text. -/
def HasMark (text : List Char) : Prop := ['%', 's'] <:+: text ∨ ['%', '%'] <:+: text

variable {name : List Char}

/-! ## Pieces -/

theorem fill_cons_of_ne {c : Char} (h : c ≠ '%') (cs : List Char) :
    fill name (c :: cs) = c :: fill name cs :=
  fill.eq_4 _ _ _ (fun _ hc _ => h hc) (fun _ hc _ => h hc)

theorem fill_doubled (text rest : List Char) :
    fill name (doubled text ++ rest) = text ++ fill name rest := by
  induction text with
  | nil => rfl
  | cons c cs ih =>
    rw [doubled, List.flatMap_cons, List.append_assoc]
    by_cases hc : c = '%'
    · subst hc
      exact congrArg ('%' :: ·) ih
    · rw [if_neg hc, List.singleton_append, fill_cons_of_ne hc]
      exact congrArg (c :: ·) ih

theorem fill_written (p : Piece) (rest : List Char) :
    fill name (p.written ++ rest) = p.shown name ++ fill name rest := by
  cases p with
  | literal text => exact fill_doubled text rest
  | name => rfl

theorem fill_pieces (pieces : List Piece) :
    fill name (pieces.flatMap Piece.written) = pieces.flatMap (Piece.shown name) := by
  induction pieces with
  | nil => rfl
  | cons p ps ih => rw [List.flatMap_cons, fill_written, ih, List.flatMap_cons]

/-! ## Templates without marks -/

theorem HasMark.cons {cs : List Char} (h : HasMark cs) (c : Char) : HasMark (c :: cs) :=
  h.imp List.infix_cons List.infix_cons

theorem hasMark_percent {c : Char} (hc : c = 's' ∨ c = '%') (cs : List Char) :
    HasMark ('%' :: c :: cs) := by
  rcases hc with rfl | rfl
  · exact .inl (List.prefix_append ['%', 's'] cs).isInfix
  · exact .inr (List.prefix_append ['%', '%'] cs).isInfix

/-- A pair of characters stands at the start of a text or further on. -/
theorem infix_pair_cons {a b c : Char} {cs : List Char} (h : [a, b] <:+: c :: cs) :
    (c = a ∧ ∃ ds, cs = b :: ds) ∨ [a, b] <:+: cs := by
  rcases List.infix_cons_iff.mp h with ⟨ds, hds⟩ | hlater
  · obtain ⟨rfl, rfl⟩ := List.cons.inj hds
    exact .inl ⟨rfl, ds, rfl⟩
  · exact .inr hlater

theorem fill_eq_self {text : List Char} (h : ¬ HasMark text) : fill name text = text := by
  fun_induction fill name text with
  | case1 => rfl
  | case2 cs ih => exact absurd (hasMark_percent (.inl rfl) cs) h
  | case3 cs ih => exact absurd (hasMark_percent (.inr rfl) cs) h
  | case4 c cs _ _ ih => rw [ih fun hcs => h (hcs.cons c)]

theorem length_fill_nil_le (text : List Char) : (fill [] text).length ≤ text.length := by
  fun_induction fill [] text with
  | case1 => exact Nat.le_refl 0
  | case2 cs ih => exact Nat.le_add_right_of_le (Nat.le_succ_of_le ih)
  | case3 cs ih => exact Nat.succ_le_succ (Nat.le_succ_of_le ih)
  | case4 c cs _ _ ih => exact Nat.succ_le_succ ih

/-- With an empty name a mark takes more characters than it leaves. -/
theorem length_fill_nil_lt {text : List Char} (h : HasMark text) :
    (fill [] text).length < text.length := by
  fun_induction fill [] text with
  | case1 =>
    rcases h with h | h <;> exact absurd (List.infix_nil.mp h) (List.cons_ne_nil _ _)
  | case2 cs ih =>
    have hle := length_fill_nil_le cs
    simp only [List.nil_append, List.length_cons]
    omega
  | case3 cs ih =>
    have hle := length_fill_nil_le cs
    simp only [List.length_cons]
    omega
  | case4 c cs hname hpercent ih =>
    -- The first character starts no mark, so the mark is further on.
    rcases h with h | h
    · rcases infix_pair_cons h with ⟨rfl, ds, rfl⟩ | hlater
      · exact (hname ds rfl rfl).elim
      · exact Nat.succ_lt_succ (ih (.inl hlater))
    · rcases infix_pair_cons h with ⟨rfl, ds, rfl⟩ | hlater
      · exact (hpercent ds rfl rfl).elim
      · exact Nat.succ_lt_succ (ih (.inr hlater))

/-- A template that is put together from pieces reads as the pieces do, with the name for each of
its places, whatever signs the texts and the name hold. The templates that every name leaves as
they are, are those in which neither of the two marks occurs. -/
theorem formatHistory_reads_pieces :
    (∀ (pieces : List Piece) (name : String), formatHistory (template pieces) name =
      String.ofList (pieces.flatMap (Piece.shown name.toList))) ∧
    ∀ text : String, (∀ name, formatHistory text name = text) ↔
      ¬ "%s".toList <:+: text.toList ∧ ¬ "%%".toList <:+: text.toList := by
  refine ⟨fun pieces name => ?_, fun text => ?_⟩
  · rw [formatHistory, template, String.toList_ofList, fill_pieces]
  · have hmark : (¬ "%s".toList <:+: text.toList ∧ ¬ "%%".toList <:+: text.toList) ↔
        ¬ HasMark text.toList := not_or.symm
    rw [hmark]
    constructor
    · intro hsame h
      have hlt := length_fill_nil_lt h
      have hempty := congrArg String.toList (hsame "")
      rw [formatHistory, String.toList_ofList, show "".toList = [] from rfl] at hempty
      rw [hempty] at hlt
      exact Nat.lt_irrefl _ hlt
    · intro h name
      rw [formatHistory, fill_eq_self h, String.ofList_toList]

example : formatHistory "%%s: %s, 100%" "%s%%" = "%s: %s%%, 100%" := by decide

end PluginRelease.Changelog
