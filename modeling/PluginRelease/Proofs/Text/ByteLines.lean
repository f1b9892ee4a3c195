import PluginRelease.Proofs.Text.Lines
import Mathlib.Data.List.Basic
import Mathlib.Data.List.Induction

/-!
Lines of bytes. Bytes that are cut at their line ends and decoded line by line give the lines of
the text that they give as a whole, so what is broken on one line spoils no other.
-/
namespace PluginRelease

namespace Utf8

section Last
variable {c : Char} (hc : c.toNat < 0x80)
include hc

theorem not_mem_decodeLossy {v : Bytes} (hv : ∀ b ∈ v, 0x80 ≤ b.toNat) : c ∉ decodeLossy v := by
  intro hmem
  have hbyte := hv _ (byte_mem_of_mem_decodeLossy hc hmem)
  rw [UInt8.toNat_ofNat'] at hbyte
  omega

/-- Behind bytes from 128 on, the text does not end with a character below it. -/
theorem getLast?_decodeLossy_append {v : Bytes} (hne : v ≠ []) (hv : ∀ b ∈ v, 0x80 ≤ b.toNat)
    (u : Bytes) : (decodeLossy (u ++ v)).getLast? ≠ some c := by
  -- the text behind the last byte of `u` that is below 128 is that of its bytes alone
  induction u using List.reverseRecOn generalizing v with
  | nil => exact fun hlast => not_mem_decodeLossy hc hv (List.mem_of_getLast? hlast)
  | append_singleton u x ih =>
    rw [List.append_assoc, List.singleton_append]
    by_cases hx : x.toNat < 0x80
    · rw [decodeLossy_append_ascii hx, List.append_cons,
        List.getLast?_append_of_ne_nil _ (decodeLossy_ne_nil hne)]
      exact fun hlast => not_mem_decodeLossy hc hv (List.mem_of_getLast? hlast)
    · exact ih (List.cons_ne_nil x v) (List.forall_mem_cons.mpr ⟨by omega, hv⟩)

/-- A text ends with a character below 128 only if its bytes end with that of the character. -/
theorem getLast?_decodeLossy {a : Bytes} (h : a.getLast? ≠ some (UInt8.ofNat c.toNat)) :
    (decodeLossy a).getLast? ≠ some c := by
  rcases List.eq_nil_or_concat a with rfl | ⟨r, b, rfl⟩
  · simp
  · rw [List.concat_eq_append] at h ⊢
    by_cases hb : b.toNat < 0x80
    · rw [decodeLossy_append_ascii hb, decodeLossy_nil, List.getLast?_concat]
      intro hlast
      apply h
      rw [List.getLast?_concat, ← Option.some.inj hlast, toNat_ofNat (by omega),
        UInt8.ofNat_toNat]
    · apply getLast?_decodeLossy_append hc (List.cons_ne_nil b [])
      exact List.forall_mem_singleton.mpr (by omega)

end Last

/-! ## Lines of bytes -/

/-- The bytes of a line without its end: LF, or CR LF. -/
def chompBytes (l : Bytes) : Bytes :=
  if [0x0D, 0x0A] <:+ l then l.dropLast.dropLast
  else if [0x0A] <:+ l then l.dropLast
  else l

/-- Cut after each LF, each piece without its end; what follows the last LF is a line if it is
not empty. -/
def byteLines (bs : Bytes) : List Bytes := (Text.cutAfter 0x0A bs).map chompBytes

theorem chompBytes_of_not_mem {a : Bytes} (h : 0x0A ∉ a) : chompBytes a = a := by
  have hend {e : Bytes} (he : 0x0A ∈ e) : ¬ e <:+ a := fun hsuffix => h (hsuffix.subset he)
  rw [chompBytes, if_neg (hend (by decide)), if_neg (hend (by decide))]

theorem chompBytes_crlf (a : Bytes) : chompBytes (a ++ [0x0D] ++ [0x0A]) = a := by
  have hend : [0x0D, 0x0A] <:+ a ++ [0x0D] ++ [0x0A] := ⟨a, by simp⟩
  rw [chompBytes, if_pos hend, List.dropLast_concat, List.dropLast_concat]

theorem chompBytes_lf {a : Bytes} (h : a.getLast? ≠ some 0x0D) : chompBytes (a ++ [0x0A]) = a := by
  have hreturn : ¬ [0x0D, 0x0A] <:+ a ++ [0x0A] := by
    rintro ⟨r, hr⟩
    rw [List.append_cons] at hr
    rw [← List.append_cancel_right hr, List.getLast?_concat] at h
    exact h rfl
  have hend : [0x0A] <:+ a ++ [0x0A] := List.suffix_append a [0x0A]
  rw [chompBytes, if_neg hreturn, if_pos hend, List.dropLast_concat]

end Utf8

namespace Text
open Utf8

theorem lines_append_newline {s : List Char} (h : '\n' ∉ s) (t : List Char) :
    lines (s ++ '\n' :: t) = chomp (s ++ ['\n']) :: lines t := by
  rw [lines, linePieces_append_newline h, List.map_cons]
  rfl

theorem lines_append {s : List Char} (h : IsWholeLines s) (t : List Char) :
    lines (s ++ t) = lines s ++ lines t := by
  rw [lines, linePieces_append h, List.map_append]
  rfl

/-- The end of a line is the same in its bytes and in its text. -/
theorem chomp_decodeLossy {a : Bytes} (h : 0x0A ∉ a) :
    chomp (decodeLossy a ++ ['\n']) = decodeLossy (chompBytes (a ++ [0x0A])) := by
  by_cases hreturn : a.getLast? = some 0x0D
  · obtain ⟨r, rfl⟩ := List.getLast?_eq_some_iff.mp hreturn
    rw [chompBytes_crlf, decodeLossy_append_ascii (by decide)]
    simp [chomp]
  · rw [chompBytes_lf hreturn]
    refine chomp_append (fun c hc => ⟨?_, ?_⟩) (.inr (.inl rfl))
    · rintro rfl
      exact newline_not_mem_decodeLossy h (List.mem_of_getLast? hc)
    · rintro rfl
      exact getLast?_decodeLossy (by decide) hreturn hc

/-- Decoding the lines of bytes gives the lines of the decoded bytes. -/
theorem lines_decodeLossy (bs : Bytes) : lines (decodeLossy bs) = (byteLines bs).map decodeLossy := by
  induction bs using cut_induction (0x0A : UInt8) with
  | last a ha =>
    by_cases hne : a = []
    · simp [hne, byteLines, cutAfter, lines, linePieces]
    · have hnewline := newline_not_mem_decodeLossy ha
      rw [lines, linePieces_of_not_mem (decodeLossy_ne_nil hne) hnewline, byteLines,
        cutAfter_of_not_mem hne ha, List.map_singleton, List.map_singleton, List.map_singleton,
        chomp_of_not_mem hnewline, chompBytes_of_not_mem ha]
  | piece a t ha ih =>
    have hcut : byteLines (a ++ 0x0A :: t) = chompBytes (a ++ [0x0A]) :: byteLines t := by
      rw [byteLines, cutAfter_append_sep ha]
      rfl
    rw [decodeLossy_append_newline, lines_append_newline (newline_not_mem_decodeLossy ha), ih,
      chomp_decodeLossy ha, hcut, List.map_cons]

/-! ## Bytes between whole lines -/

/-- Nothing, or bytes up to the end of a line. -/
def IsWholeByteLines (a : Bytes) : Prop := ∀ b ∈ a.getLast?, b = 0x0A

theorem IsWholeByteLines.decodeLossy {a : Bytes} (h : IsWholeByteLines a) :
    IsWholeLines (decodeLossy a) := by
  rcases List.eq_nil_or_concat a with rfl | ⟨r, b, rfl⟩
  · rw [decodeLossy_nil]
    exact isWholeLines_nil
  · rw [List.concat_eq_append] at h ⊢
    obtain rfl : b = 0x0A := h b (by simp)
    rw [decodeLossy_append_newline, decodeLossy_nil]
    exact isWholeLines_append_newline _

theorem IsWholeByteLines.decodeLossy_append {a : Bytes} (h : IsWholeByteLines a) (bs : Bytes) :
    Utf8.decodeLossy (a ++ bs) = Utf8.decodeLossy a ++ Utf8.decodeLossy bs := by
  rcases List.eq_nil_or_concat a with rfl | ⟨r, b, rfl⟩
  · rw [decodeLossy_nil, List.nil_append, List.nil_append]
  · rw [List.concat_eq_append] at h ⊢
    obtain rfl : b = 0x0A := h b (by simp)
    rw [List.append_assoc, List.singleton_append, decodeLossy_append_newline,
      decodeLossy_append_newline, decodeLossy_nil, List.append_assoc]
    rfl

/-- A text with its end is one line, and what follows it makes lines of its own. -/
theorem lines_append_lineEnd {s e : List Char} (hnewline : '\n' ∉ s)
    (hreturn : s.getLast? ≠ some '\r') (he : IsLineEnd e) (t : List Char)
    (hopen : e = [] → s ≠ [] ∧ t = []) : lines (s ++ e ++ t) = s :: lines t := by
  have hlast : ∀ c ∈ s.getLast?, c ≠ '\n' ∧ c ≠ '\r' := by
    intro c hc
    refine ⟨?_, ?_⟩
    · rintro rfl
      exact hnewline (List.mem_of_getLast? hc)
    · rintro rfl
      exact hreturn hc
  rcases he with rfl | rfl | rfl
  · obtain ⟨hne, rfl⟩ := hopen rfl
    rw [List.append_nil, List.append_nil, lines, linePieces_of_not_mem hne hnewline,
      List.map_singleton, chomp_of_not_mem hnewline]
    rfl
  · rw [List.append_assoc, List.singleton_append, lines_append_newline hnewline,
      chomp_append hlast (.inr (.inl rfl))]
  · have hboth : '\n' ∉ s ++ ['\r'] := by simp [hnewline]
    have hsplit : s ++ ['\r', '\n'] ++ t = s ++ ['\r'] ++ '\n' :: t := by simp
    rw [hsplit, lines_append_newline hboth, List.append_assoc, List.singleton_append,
      chomp_append hlast (.inr (.inr rfl))]

end Text
end PluginRelease
