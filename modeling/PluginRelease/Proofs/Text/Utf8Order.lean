import PluginRelease.Text.Utf8

/-!
The order of texts by their bytes is their order by characters.
-/
namespace PluginRelease.Utf8

/-- The number of groups of six bits that two numbers share from the top. -/
theorem sixBits_cases {m n : Nat} (h : m < n) :
    m / 262144 < n / 262144 ∨ m / 262144 = n / 262144 ∧ m / 4096 < n / 4096 ∨
      m / 4096 = n / 4096 ∧ m / 64 < n / 64 ∨ m / 64 = n / 64 := by
  omega

theorem encodeChar_lt {c d : Char} (h : c < d) (s t : Bytes) :
    String.utf8EncodeChar c ++ s < String.utf8EncodeChar d ++ t := by
  have hcd : c.toNat < d.toNat := h
  have hmax : d.toNat < 0x110000 := by
    rcases d.valid with hd | hd
    · exact Nat.lt_trans hd (by decide)
    · exact hd.2
  have hbyte {n : Nat} (hn : n < 256) : (UInt8.ofNat n).toNat = n := by
    rw [UInt8.toNat_ofNat']
    omega
  unfold String.utf8EncodeChar
  rw [show c.val.toNat = c.toNat from rfl, show d.val.toNat = d.toNat from rfl]
  dsimp only
  have hcases := sixBits_cases hcd
  repeat' split
  all_goals
    simp (disch := omega) only [List.cons_append, List.nil_append, List.cons_lt_cons_iff,
      UInt8.lt_iff_toNat_lt, ← UInt8.toNat_inj, hbyte]
    rcases hcases with hcases | hcases | hcases | hcases <;> omega

theorem encode_lt {s t : List Char} (h : s < t) : encode s < encode t := by
  induction s generalizing t with
  | nil =>
    cases t with
    | nil => exact absurd h (List.lt_irrefl [])
    | cons d ds =>
      obtain ⟨b, bs, hd⟩ := List.exists_cons_of_ne_nil (String.utf8EncodeChar_ne_nil (c := d))
      rw [show encode (d :: ds) = String.utf8EncodeChar d ++ encode ds from rfl, hd]
      exact List.nil_lt_cons b (bs ++ encode ds)
  | cons c cs ih =>
    cases t with
    | nil => exact absurd h (List.not_lt_nil _)
    | cons d ds =>
      rw [show encode (c :: cs) = String.utf8EncodeChar c ++ encode cs from rfl,
        show encode (d :: ds) = String.utf8EncodeChar d ++ encode ds from rfl]
      rcases List.cons_lt_cons_iff.mp h with hcd | ⟨rfl, hrest⟩
      · exact encodeChar_lt hcd _ _
      · exact List.append_left_lt (ih hrest)

/-- Texts have the order of their bytes. -/
theorem encode_le_encode_iff {s t : String} : encode s.toList ≤ encode t.toList ↔ s ≤ t := by
  constructor
  · intro hle
    rw [← String.not_lt]
    intro hts
    exact hle (encode_lt hts)
  · intro hle hts
    by_cases hst : s < t
    · exact List.lt_asymm hts (encode_lt hst)
    · rw [String.le_antisymm hle (String.not_lt.mp hst)] at hts
      exact List.lt_irrefl _ hts

end PluginRelease.Utf8
