import PluginRelease.Text.Utf8

/-!
Decoding what was encoded. Each character gives one piece, so a text is never broken by its
own bytes.
-/
namespace PluginRelease.Utf8

section Lead
variable {b : UInt8}

theorem lead_two (h1 : 0xC2 ≤ b.toNat) (h2 : b.toNat ≤ 0xDF) : lead b = some (1, 0x80, 0xBF) := by
  have hr : 0xC2 ≤ b ∧ b ≤ 0xDF := ⟨UInt8.le_iff_toNat_le.mpr h1, UInt8.le_iff_toNat_le.mpr h2⟩
  rw [lead, if_pos hr]

/-- The second byte of three keeps out shorter forms and the numbers that are no characters. -/
theorem lead_three (h1 : 0xE0 ≤ b.toNat) (h2 : b.toNat ≤ 0xEF) :
    lead b = some (2, if b.toNat = 0xE0 then 0xA0 else 0x80,
      if b.toNat = 0xED then 0x9F else 0xBF) := by
  simp only [lead, UInt8.le_iff_toNat_le, ← UInt8.toNat_inj, UInt8.reduceToNat]
  rw [if_neg (by omega)]
  by_cases h0 : b.toNat = 0xE0
  · simp [h0]
  · by_cases hd : b.toNat = 0xED
    · simp [hd]
    · simp only [h0, hd, if_false]
      rw [if_pos (by omega)]

theorem lead_four (h1 : 0xF0 ≤ b.toNat) (h2 : b.toNat ≤ 0xF4) :
    lead b = some (3, if b.toNat = 0xF0 then 0x90 else 0x80,
      if b.toNat = 0xF4 then 0x8F else 0xBF) := by
  simp only [lead, UInt8.le_iff_toNat_le, ← UInt8.toNat_inj, UInt8.reduceToNat]
  rw [if_neg (by omega), if_neg (by omega), if_neg (by omega), if_neg (by omega)]
  by_cases h0 : b.toNat = 0xF0
  · simp [h0]
  · by_cases hd : b.toNat = 0xF4
    · simp [hd]
    · simp only [h0, hd, if_false]
      rw [if_pos (by omega)]

end Lead

section Pieces
variable {b c d e : UInt8} (bs : Bytes)

/-- A byte that continues a character. -/
def Continues (c : UInt8) : Prop := 0x80 ≤ c.toNat ∧ c.toNat ≤ 0xBF

theorem Continues.inside (h : Continues c) : ¬ (c < 0x80 ∨ 0xBF < c) := by
  simp only [UInt8.lt_iff_toNat_lt, UInt8.reduceToNat]
  have h1 := h.1
  have h2 := h.2
  omega

theorem pieces_one (hb : b.toNat < 0x80) :
    pieces (b :: bs) = some (Char.ofNat b.toNat) :: pieces bs := by
  rw [pieces, if_pos (UInt8.lt_iff_toNat_lt.mpr hb)]

theorem not_ascii (hb : 0x80 ≤ b.toNat) : ¬ b < 0x80 := by
  simp only [UInt8.lt_iff_toNat_lt, UInt8.reduceToNat]
  omega

theorem pieces_two (h1 : 0xC2 ≤ b.toNat) (h2 : b.toNat ≤ 0xDF) (hc : Continues c) :
    pieces (b :: c :: bs) = some (Char.ofNat (b.toNat % 32 * 64 + payload c)) :: pieces bs := by
  rw [pieces, if_neg (not_ascii (by omega)), lead_two h1 h2]
  simp only [if_neg hc.inside, if_true]

theorem pieces_three (h1 : 0xE0 ≤ b.toNat) (h2 : b.toNat ≤ 0xEF) (hc : Continues c)
    (hlow : b.toNat = 0xE0 → 0xA0 ≤ c.toNat) (hhigh : b.toNat = 0xED → c.toNat ≤ 0x9F)
    (hd : Continues d) :
    pieces (b :: c :: d :: bs) =
      some (Char.ofNat ((b.toNat % 16 * 64 + payload c) * 64 + payload d)) :: pieces bs := by
  have hinside : ¬ (c < (if b.toNat = 0xE0 then 0xA0 else 0x80) ∨
      (if b.toNat = 0xED then 0x9F else 0xBF) < c) := by
    have h1 := hc.1
    have h2 := hc.2
    simp only [UInt8.lt_iff_toNat_lt, apply_ite UInt8.toNat, UInt8.reduceToNat]
    split <;> split <;> omega
  rw [pieces, if_neg (not_ascii (by omega)), lead_three h1 h2]
  simp only [if_neg hinside, if_neg hd.inside, show ¬ 2 = 1 by decide, if_false, if_true]

theorem pieces_four (h1 : 0xF0 ≤ b.toNat) (h2 : b.toNat ≤ 0xF4) (hc : Continues c)
    (hlow : b.toNat = 0xF0 → 0x90 ≤ c.toNat) (hhigh : b.toNat = 0xF4 → c.toNat ≤ 0x8F)
    (hd : Continues d) (he : Continues e) :
    pieces (b :: c :: d :: e :: bs) =
      some (Char.ofNat (((b.toNat % 8 * 64 + payload c) * 64 + payload d) * 64 + payload e)) ::
        pieces bs := by
  have hinside : ¬ (c < (if b.toNat = 0xF0 then 0x90 else 0x80) ∨
      (if b.toNat = 0xF4 then 0x8F else 0xBF) < c) := by
    have h1 := hc.1
    have h2 := hc.2
    simp only [UInt8.lt_iff_toNat_lt, apply_ite UInt8.toNat, UInt8.reduceToNat]
    split <;> split <;> omega
  rw [pieces, if_neg (not_ascii (by omega)), lead_four h1 h2]
  simp only [if_neg hinside, if_neg hd.inside, if_neg he.inside, show ¬ 3 = 1 by decide,
    show ¬ 3 = 2 by decide, if_false]

end Pieces

theorem pieces_encodeChar (c : Char) (bs : Bytes) :
    pieces (String.utf8EncodeChar c ++ bs) = some c :: pieces bs := by
  have hvalid : c.toNat < 0xD800 ∨ 0xDFFF < c.toNat ∧ c.toNat < 0x110000 := c.valid
  have hbyte {n : Nat} (h : n < 256) : (UInt8.ofNat n).toNat = n := by
    rw [UInt8.toNat_ofNat']
    omega
  have hcontinues (n : Nat) : Continues (UInt8.ofNat (n % 64 + 128)) := by
    rw [Continues, hbyte (by omega)]
    omega
  have hpayload (n : Nat) : payload (UInt8.ofNat (n % 64 + 128)) = n % 64 := by
    rw [payload, hbyte (by omega)]
    omega
  unfold String.utf8EncodeChar
  rw [show c.val.toNat = c.toNat from rfl]
  dsimp only
  split
  · rw [List.singleton_append, pieces_one bs (by rw [hbyte (by omega)]; omega),
      hbyte (by omega), Char.ofNat_toNat]
  · split
    · have hb : (UInt8.ofNat (c.toNat / 64 % 32 + 192)).toNat = c.toNat / 64 % 32 + 192 :=
        hbyte (by omega)
      have hvalue : (c.toNat / 64 % 32 + 192) % 32 * 64 + c.toNat % 64 = c.toNat := by omega
      rw [List.cons_append, List.singleton_append,
        pieces_two bs (by omega) (by omega) (hcontinues c.toNat), hpayload, hb, hvalue,
        Char.ofNat_toNat]
    · split
      · have hb : (UInt8.ofNat (c.toNat / 4096 % 16 + 224)).toNat = c.toNat / 4096 % 16 + 224 :=
          hbyte (by omega)
        have hc : (UInt8.ofNat (c.toNat / 64 % 64 + 128)).toNat = c.toNat / 64 % 64 + 128 :=
          hbyte (by omega)
        have hvalue : ((c.toNat / 4096 % 16 + 224) % 16 * 64 + c.toNat / 64 % 64) * 64 +
            c.toNat % 64 = c.toNat := by omega
        rw [List.cons_append, List.cons_append, List.singleton_append,
          pieces_three bs (by omega) (by omega) (hcontinues (c.toNat / 64)) (by omega) (by omega)
            (hcontinues c.toNat), hpayload, hpayload, hb, hvalue, Char.ofNat_toNat]
      · have hb : (UInt8.ofNat (c.toNat / 262144 % 8 + 240)).toNat =
            c.toNat / 262144 % 8 + 240 := hbyte (by omega)
        have hc : (UInt8.ofNat (c.toNat / 4096 % 64 + 128)).toNat = c.toNat / 4096 % 64 + 128 :=
          hbyte (by omega)
        have hvalue : (((c.toNat / 262144 % 8 + 240) % 8 * 64 + c.toNat / 4096 % 64) * 64 +
            c.toNat / 64 % 64) * 64 + c.toNat % 64 = c.toNat := by omega
        rw [List.cons_append, List.cons_append, List.cons_append, List.singleton_append,
          pieces_four bs (by omega) (by omega) (hcontinues (c.toNat / 4096)) (by omega) (by omega)
            (hcontinues (c.toNat / 64)) (hcontinues c.toNat), hpayload, hpayload, hpayload, hb,
          hvalue, Char.ofNat_toNat]

theorem encode_append (s t : List Char) : encode (s ++ t) = encode s ++ encode t :=
  List.flatMap_append

theorem ofText_append (s t : String) : ofText (s ++ t) = ofText s ++ ofText t := by
  rw [ofText, String.toList_append, encode_append]
  rfl

theorem pieces_encode (s : List Char) : pieces (encode s) = s.map some := by
  induction s with
  | nil => simp [encode, pieces]
  | cons c cs ih =>
    rw [show encode (c :: cs) = String.utf8EncodeChar c ++ encode cs from rfl,
      pieces_encodeChar, ih, List.map_cons]

theorem decodeLossy_encode (s : List Char) : decodeLossy (encode s) = s := by
  rw [decodeLossy, pieces_encode, List.map_map]
  simp [Function.comp_def]

theorem decode?_encode (s : List Char) : decode? (encode s) = some s := by
  have hsome : (s.map some).mapM id = some s := by
    induction s with
    | nil => rfl
    | cons c cs ih => simp [List.mapM_cons, ih]
  rw [decode?, pieces_encode, hsome]

theorem pieces_ne_nil {a : Bytes} (h : a ≠ []) : pieces a ≠ [] := by
  fun_cases pieces a <;> simp_all

theorem decodeLossy_ne_nil {a : Bytes} (h : a ≠ []) : decodeLossy a ≠ [] := by
  rw [decodeLossy, ne_eq, List.map_eq_nil_iff]
  exact pieces_ne_nil h

theorem shown_ne_empty {a : Bytes} (h : a ≠ []) : shown a ≠ "" := by
  rw [shown, ne_eq, String.ofList_eq_empty_iff]
  exact decodeLossy_ne_nil h

@[simp] theorem shown_ofText (s : String) : shown (ofText s) = s := by
  rw [shown, ofText, decodeLossy_encode, String.ofList_toList]

end PluginRelease.Utf8
