import PluginRelease.Proofs.Text.Blank
import PluginRelease.Proofs.Text.Utf8
import PluginRelease.Text.Lines

/-!
Lines of text in bytes. A byte below 128 is a character of its own and ends whatever breaks off
before it, so what stands on a line is decoded by itself.
-/
namespace PluginRelease

namespace Utf8

/-- What the first byte of a longer character says about that byte and the next. -/
theorem lead_bounds {b lo hi : UInt8} {n : Nat} (h : lead b = some (n, lo, hi)) :
    0x80 ≤ lo.toNat ∧ hi.toNat ≤ 0xBF ∧
      (n = 1 ∧ 0xC2 ≤ b.toNat ∧ b.toNat ≤ 0xDF ∨
        n = 2 ∧ 0xE0 ≤ b.toNat ∧ b.toNat ≤ 0xEF ∧ (b.toNat = 0xE0 → 0xA0 ≤ lo.toNat) ∧
          (b.toNat = 0xED → hi.toNat ≤ 0x9F) ∨
        n = 3 ∧ 0xF0 ≤ b.toNat ∧ b.toNat ≤ 0xF4 ∧ (b.toNat = 0xF0 → 0x90 ≤ lo.toNat) ∧
          (b.toNat = 0xF4 → hi.toNat ≤ 0x8F)) := by
  simp only [lead, UInt8.le_iff_toNat_le, ← UInt8.toNat_inj, UInt8.reduceToNat] at h
  repeat' split at h
  all_goals cases h <;> simp <;> omega

section Ascii
variable {x : UInt8} (hx : x.toNat < 0x80)
include hx

theorem outside_of_ascii {lo hi : UInt8} (hlo : 0x80 ≤ lo.toNat) : x < lo ∨ hi < x :=
  .inl (UInt8.lt_iff_toNat_lt.mpr (by omega))

/-- What stands before a byte below 128 is decoded as if nothing came after it. -/
theorem pieces_append_ascii (a bs : Bytes) :
    pieces (a ++ x :: bs) = pieces a ++ pieces (x :: bs) := by
  have hout {hi : UInt8} : x < 0x80 ∨ hi < x := outside_of_ascii hx (by decide)
  fun_induction pieces a with
  | case1 => rfl
  | case2 b a hb ih =>
    rw [List.cons_append, pieces, if_pos hb, ih]
    rfl
  | case3 b a hb hlead ih =>
    rw [List.cons_append, pieces, if_neg hb, hlead]
    exact congrArg (none :: ·) ih
  | case4 b hb n lo hi hlead =>
    have hout : x < lo ∨ hi < x := outside_of_ascii hx (lead_bounds hlead).1
    rw [List.singleton_append, pieces, if_neg hb, hlead]
    simp only [if_pos hout]
    rfl
  | case5 b hb n lo hi hlead c a hc ih =>
    rw [List.cons_append, List.cons_append, pieces, if_neg hb, hlead]
    simp only [if_pos hc]
    exact congrArg (none :: ·) ih
  | case6 b hb lo hi c a hc hlead ih =>
    rw [List.cons_append, List.cons_append, pieces, if_neg hb, hlead]
    simp only [if_neg hc, if_true, ih]
    rfl
  | case7 b hb n lo hi hlead c hc hn =>
    rw [List.cons_append, List.cons_append, pieces, if_neg hb, hlead]
    simp only [if_neg hc, if_neg hn, List.nil_append, if_pos hout]
    rfl
  | case8 b hb n lo hi hlead c hc hn d a hd ih =>
    rw [List.cons_append, List.cons_append, List.cons_append, pieces, if_neg hb, hlead]
    simp only [if_neg hc, if_neg hn, if_pos hd]
    exact congrArg (none :: ·) ih
  | case9 b hb lo hi c hc d a hd hlead hn ih =>
    rw [List.cons_append, List.cons_append, List.cons_append, pieces, if_neg hb, hlead]
    simp only [if_neg hc, if_neg hn, if_neg hd, if_true, ih]
    rfl
  | case10 b hb n lo hi hlead c hc hn d hd hn2 =>
    rw [List.cons_append, List.cons_append, List.cons_append, pieces, if_neg hb, hlead]
    simp only [if_neg hc, if_neg hn, if_neg hd, if_neg hn2, List.nil_append, if_pos hout]
    rfl
  | case11 b hb n lo hi hlead c hc hn d hd hn2 e a he ih =>
    rw [List.cons_append, List.cons_append, List.cons_append, List.cons_append, pieces,
      if_neg hb, hlead]
    simp only [if_neg hc, if_neg hn, if_neg hd, if_neg hn2, if_pos he]
    exact congrArg (none :: ·) ih
  | case12 b hb n lo hi hlead c hc hn d hd hn2 e a he ih =>
    rw [List.cons_append, List.cons_append, List.cons_append, List.cons_append, pieces,
      if_neg hb, hlead]
    simp only [if_neg hc, if_neg hn, if_neg hd, if_neg hn2, if_neg he, ih]
    rfl

end Ascii

theorem toNat_ofNat {n : Nat} (h : n < 0xD800) : (Char.ofNat n).toNat = n := by
  rw [Char.ofNat, dif_pos (.inl h)]
  rfl

section Shown
variable {c : Char} (hc : c.toNat < 0x80)
include hc

/-- A character of two bytes or more is none of those below 128. -/
theorem mem_of_mem_cons_ofNat {n : Nat} {ps : List (Option Char)} (hn : 0x80 ≤ n)
    (hvalid : n.isValidChar) (h : some c ∈ some (Char.ofNat n) :: ps) : some c ∈ ps := by
  rcases List.mem_cons.mp h with h | h
  · have hself : (Char.ofNat n).toNat = n := by
      rw [Char.ofNat, dif_pos hvalid]
      rfl
    rw [Option.some.inj h, hself] at hc
    omega
  · exact h

/-- A character below 128 in the text comes from its byte. -/
theorem byte_mem_of_piece {a : Bytes} (h : some c ∈ pieces a) : UInt8.ofNat c.toNat ∈ a := by
  fun_induction pieces a with
  | case1 => simp at h
  | case2 b a hb ih =>
    rcases List.mem_cons.mp h with h | h
    · simp only [UInt8.lt_iff_toNat_lt, UInt8.reduceToNat] at hb
      obtain rfl := Option.some.inj h
      rw [toNat_ofNat (by omega), UInt8.ofNat_toNat]
      exact List.mem_cons_self
    · exact List.mem_cons_of_mem _ (ih h)
  | case3 b a hb hlead ih => exact List.mem_cons_of_mem _ (ih (by simpa using h))
  | case4 b hb n lo hi hlead => simp at h
  | case5 b hb n lo hi hlead d a hd ih => exact List.mem_cons_of_mem _ (ih (by simpa using h))
  | case6 b hb lo hi d a hd hlead ih =>
    obtain ⟨-, -, hb⟩ := lead_bounds hlead
    simp only [not_or, UInt8.not_lt, UInt8.le_iff_toNat_le] at hd
    have hmem := ih (mem_of_mem_cons_ofNat hc (by omega)
      (by unfold payload Nat.isValidChar; omega) h)
    simp [hmem]
  | case7 b hb n lo hi hlead d hd hn => simp at h
  | case8 b hb n lo hi hlead d hd hn e a he ih =>
    exact List.mem_cons_of_mem _ (List.mem_cons_of_mem _ (ih (by simpa using h)))
  | case9 b hb lo hi d hd e a he hlead hn ih =>
    obtain ⟨hlo, hhi, hb⟩ := lead_bounds hlead
    simp only [not_or, UInt8.not_lt, UInt8.le_iff_toNat_le] at hd
    have hmem := ih (mem_of_mem_cons_ofNat hc (by unfold payload; omega)
      (by unfold payload Nat.isValidChar; omega) h)
    simp [hmem]
  | case10 b hb n lo hi hlead d hd hn e he hn2 => simp at h
  | case11 b hb n lo hi hlead d hd hn e he hn2 f a hf ih =>
    exact List.mem_cons_of_mem _ (List.mem_cons_of_mem _ (List.mem_cons_of_mem _
      (ih (by simpa using h))))
  | case12 b hb n lo hi hlead d hd hn e he hn2 f a hf ih =>
    obtain ⟨hlo, hhi, hb⟩ := lead_bounds hlead
    simp only [not_or, UInt8.not_lt, UInt8.le_iff_toNat_le] at hd
    have hmem := ih (mem_of_mem_cons_ofNat hc (by unfold payload; omega)
      (by unfold payload Nat.isValidChar; omega) h)
    simp [hmem]

theorem byte_mem_of_mem_decodeLossy {a : Bytes} (h : c ∈ decodeLossy a) :
    UInt8.ofNat c.toNat ∈ a := by
  obtain ⟨piece, hpiece, rfl⟩ := List.mem_map.mp h
  cases piece with
  | none => exact absurd hc (by decide)
  | some d => exact byte_mem_of_piece hc hpiece

end Shown

theorem pieces_encode_append (s : List Char) (bs : Bytes) :
    pieces (encode s ++ bs) = s.map some ++ pieces bs := by
  induction s with
  | nil => rfl
  | cons c cs ih =>
    rw [show encode (c :: cs) = String.utf8EncodeChar c ++ encode cs from rfl, List.append_assoc,
      pieces_encodeChar, ih, List.map_cons, List.cons_append]

theorem decodeLossy_encode_append (s : List Char) (bs : Bytes) :
    decodeLossy (encode s ++ bs) = s ++ decodeLossy bs := by
  rw [decodeLossy, pieces_encode_append, List.map_append, List.map_map]
  simp [Function.comp_def, decodeLossy]

/-- A byte below 128 is decoded on its own, wherever it stands. -/
theorem decodeLossy_append_ascii {x : UInt8} (hx : x.toNat < 0x80) (a bs : Bytes) :
    decodeLossy (a ++ x :: bs) = decodeLossy a ++ Char.ofNat x.toNat :: decodeLossy bs := by
  rw [decodeLossy, pieces_append_ascii hx, pieces_one bs hx, List.map_append]
  rfl

/-- The bytes before a line end are decoded on their own. -/
theorem decodeLossy_append_newline (a bs : Bytes) :
    decodeLossy (a ++ 0x0A :: bs) = decodeLossy a ++ '\n' :: decodeLossy bs :=
  decodeLossy_append_ascii (by decide) a bs

theorem newline_not_mem_decodeLossy {a : Bytes} (h : 0x0A ∉ a) : '\n' ∉ decodeLossy a :=
  fun hmem => h (byte_mem_of_mem_decodeLossy (by decide) hmem)

/-- A byte below 128 stands only for its own character. -/
theorem toNat_of_mem_encodeChar {c : Char} {x : UInt8} (hx : x.toNat < 0x80)
    (h : x ∈ String.utf8EncodeChar c) : c.toNat = x.toNat := by
  have hbyte {n : Nat} (hn : n < 256) : (UInt8.ofNat n).toNat = n := by
    rw [UInt8.toNat_ofNat']
    omega
  unfold String.utf8EncodeChar at h
  rw [show c.val.toNat = c.toNat from rfl] at h
  dsimp only at h
  have hvalid : c.toNat < 0xD800 ∨ 0xDFFF < c.toNat ∧ c.toNat < 0x110000 := c.valid
  repeat' split at h
  all_goals
    simp (disch := omega) only [List.mem_cons, List.not_mem_nil, or_false, ← UInt8.toNat_inj,
      hbyte] at h
    omega

theorem mem_of_byte_mem_encode {s : List Char} {x : UInt8} (hx : x.toNat < 0x80)
    (h : x ∈ encode s) : Char.ofNat x.toNat ∈ s := by
  obtain ⟨c, hc, hbyte⟩ := List.mem_flatMap.mp h
  rw [← toNat_of_mem_encodeChar hx hbyte, Char.ofNat_toNat]
  exact hc

/-- The text that bytes are shown as has no byte below 128 that they have not. -/
theorem mem_of_mem_ofText_shown {bs : Bytes} {x : UInt8} (hx : x.toNat < 0x80)
    (h : x ∈ ofText (shown bs)) : x ∈ bs := by
  rw [ofText, shown, String.toList_ofList] at h
  have hnumber : (Char.ofNat x.toNat).toNat = x.toNat := toNat_ofNat (by omega)
  have hbyte := byte_mem_of_mem_decodeLossy (by omega) (mem_of_byte_mem_encode hx h)
  rwa [hnumber, UInt8.ofNat_toNat] at hbyte

end Utf8

namespace Text

section Cut
variable {α : Type} [DecidableEq α] {sep : α} {s : List α}

/-- Cuts after each `sep`, which stays with its piece. -/
def cutAfter (sep : α) : List α → List (List α)
  | [] => []
  | c :: cs =>
    if c = sep then [c] :: cutAfter sep cs
    else match cutAfter sep cs with
      | [] => [[c]]
      | p :: ps => (c :: p) :: ps

theorem cutAfter_append_sep (h : sep ∉ s) (t : List α) :
    cutAfter sep (s ++ sep :: t) = (s ++ [sep]) :: cutAfter sep t := by
  induction s with
  | nil => simp [cutAfter]
  | cons c cs ih =>
    rw [List.mem_cons, not_or] at h
    rw [List.cons_append, cutAfter, if_neg (Ne.symm h.1), ih h.2]
    rfl

theorem cutAfter_of_not_mem (hne : s ≠ []) (h : sep ∉ s) : cutAfter sep s = [s] := by
  induction s with
  | nil => exact absurd rfl hne
  | cons c cs ih =>
    rw [List.mem_cons, not_or] at h
    rw [cutAfter, if_neg (Ne.symm h.1)]
    by_cases hcs : cs = []
    · rw [hcs]
      rfl
    · rw [ih hcs h.2]

/-- What holds of texts without `sep`, and of a piece with it before what follows, holds of all. -/
theorem cut_induction (sep : α) {motive : List α → Prop} (last : ∀ s, sep ∉ s → motive s)
    (piece : ∀ s t, sep ∉ s → motive t → motive (s ++ sep :: t)) (s : List α) : motive s := by
  by_cases hsep : sep ∈ s
  · obtain ⟨a, t, hs, ha⟩ := List.eq_append_cons_of_mem hsep
    have hlength : t.length < s.length := by
      rw [hs, List.length_append, List.length_cons]
      omega
    rw [hs]
    exact piece a t ha (cut_induction sep last piece t)
  · exact last s hsep
termination_by s.length

theorem linePieces_eq_cutAfter (s : List Char) : linePieces s = cutAfter '\n' s := by
  induction s with
  | nil => rfl
  | cons c cs ih =>
    rw [linePieces, cutAfter, ih]
    cases cutAfter '\n' cs <;> rfl

end Cut

theorem linePieces_append_newline {s : List Char} (h : '\n' ∉ s) (t : List Char) :
    linePieces (s ++ '\n' :: t) = (s ++ ['\n']) :: linePieces t := by
  rw [linePieces_eq_cutAfter, linePieces_eq_cutAfter, cutAfter_append_sep h]

/-- Nothing, LF or CR LF. -/
def IsLineEnd (e : List Char) : Prop := e = [] ∨ e = ['\n'] ∨ e = ['\r', '\n']

/-- What is cut off is the end of a line. -/
theorem exists_chomp_append (s : List Char) : ∃ e, IsLineEnd e ∧ s = chomp s ++ e := by
  unfold chomp
  split
  · next r hs => exact ⟨['\r', '\n'], .inr (.inr rfl), by simpa using congrArg List.reverse hs⟩
  · next r _ hs => exact ⟨['\n'], .inr (.inl rfl), by simpa using congrArg List.reverse hs⟩
  · exact ⟨[], .inl rfl, (List.append_nil s).symm⟩

/-- No more than one end is cut off, so a text without one stays. -/
theorem chomp_append {s e : List Char} (hs : ∀ c ∈ s.getLast?, c ≠ '\n' ∧ c ≠ '\r')
    (he : IsLineEnd e) : chomp (s ++ e) = s := by
  rcases List.eq_nil_or_concat s with rfl | ⟨r, c, rfl⟩
  · rcases he with rfl | rfl | rfl <;> rfl
  · rw [List.concat_eq_append] at hs ⊢
    obtain ⟨hlf, hcr⟩ := hs c (by simp)
    rcases he with rfl | rfl | rfl
    · simp [chomp, hlf]
    · simp [chomp, hcr]
    · simp [chomp]

/-- A line of a kind that shows its last character, with or without an end. -/
theorem exists_line_iff {P : List Char → Prop} {line : List Char}
    (hlast : ∀ s, P s → ∀ c ∈ s.getLast?, c ≠ '\n' ∧ c ≠ '\r') :
    (∃ s e, P s ∧ IsLineEnd e ∧ line = s ++ e) ↔ P (chomp line) := by
  constructor
  · rintro ⟨s, e, hs, he, rfl⟩
    rwa [chomp_append (hlast s hs) he]
  · intro hs
    obtain ⟨e, he, hline⟩ := exists_chomp_append line
    exact ⟨_, e, hs, he, hline⟩

/-! ## Whole lines -/

/-- Nothing, or text up to the end of a line. -/
def IsWholeLines (s : List Char) : Prop := ∀ c ∈ s.getLast?, c = '\n'

theorem isWholeLines_nil : IsWholeLines [] := fun _ h => nomatch h

theorem isWholeLines_append_newline (s : List Char) : IsWholeLines (s ++ ['\n']) := by
  intro c hc
  rw [List.getLast?_concat] at hc
  exact (Option.some.inj hc).symm

theorem linePieces_ne_nil {s : List Char} (h : s ≠ []) : linePieces s ≠ [] := by
  intro hnil
  have hflat := linePieces_flatten s
  rw [hnil] at hflat
  exact h hflat.symm

/-- What follows the end of a line is cut by itself. -/
theorem linePieces_append {s : List Char} (h : IsWholeLines s) (t : List Char) :
    linePieces (s ++ t) = linePieces s ++ linePieces t := by
  induction s with
  | nil => rfl
  | cons c cs ih =>
    by_cases hcs : cs = []
    · have hc : c = '\n' := h c (by simp [hcs])
      rw [hcs, hc]
      rfl
    · have hrest := ih fun d hd => h d (by rwa [List.getLast?_cons_of_ne_nil hcs])
      rw [List.cons_append, linePieces, linePieces, hrest]
      by_cases hc : c = '\n'
      · rw [if_pos hc, if_pos hc]
        rfl
      · rw [if_neg hc, if_neg hc]
        obtain ⟨p, ps, hps⟩ := List.exists_cons_of_ne_nil (linePieces_ne_nil hcs)
        rw [hps]
        rfl

theorem linePieces_of_not_mem {s : List Char} (hne : s ≠ []) (h : '\n' ∉ s) :
    linePieces s = [s] := by
  rw [linePieces_eq_cutAfter, cutAfter_of_not_mem hne h]

theorem chomp_of_not_mem {s : List Char} (h : '\n' ∉ s) : chomp s = s := by
  unfold chomp
  split
  · next r hs =>
    obtain rfl : s = r.reverse ++ ['\r'] ++ ['\n'] := by simpa using congrArg List.reverse hs
    simp at h
  · next r _ hs =>
    obtain rfl : s = r.reverse ++ ['\n'] := by simpa using congrArg List.reverse hs
    simp at h
  · rfl

/-- A line behind whole lines is the last of them. -/
theorem lines_append_line {s t : List Char} (hs : IsWholeLines s) (hne : t ≠ []) (ht : '\n' ∉ t) :
    lines (s ++ t) = lines s ++ [t] := by
  rw [lines, linePieces_append hs, linePieces_of_not_mem hne ht, List.map_append,
    List.map_singleton, chomp_of_not_mem ht]
  rfl

theorem getLast?_lines {s t : List Char} (hs : IsWholeLines s) (hne : t ≠ []) (ht : '\n' ∉ t) :
    (lines (s ++ t)).getLast? = some t := by
  rw [lines_append_line hs hne ht, List.getLast?_concat]

theorem isWholeLines_unlines (ls : List (List Char)) : IsWholeLines (unlines ls) := by
  rcases List.eq_nil_or_concat ls with rfl | ⟨init, l, rfl⟩
  · exact isWholeLines_nil
  · rw [unlines, List.concat_eq_append, List.flatMap_append]
    simp only [List.flatMap_cons, List.flatMap_nil, List.append_nil, ← List.append_assoc]
    exact isWholeLines_append_newline _

end Text
end PluginRelease
