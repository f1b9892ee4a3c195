import PluginRelease.Proofs.Marker.Version
import PluginRelease.Proofs.Tag.Order
import PluginRelease.Proofs.Tag.Value

/-!
The spellings of a version as a tag. A version is released with a point and counted in hundredths
without one; both are rounded once, from the same number, so a history may mix the spellings. Only
versions of zero are ordered by their spelling.
-/
namespace PluginRelease.Tag
open Text Binary64 Marker

/-- A tag for a version in hundredths: as the version is released, or as its number, perhaps
behind a `v`. -/
def Spells (tag : String) (n : Nat) : Prop :=
  tag = formatVersion n ∨ tag = Nat.repr n ∨ tag = "v" ++ Nat.repr n

/-! ## Values -/

theorem hasAsciiDigits_of_forall {s : List Char}
    (hs : ∀ c ∈ s, c.isDigit = true ∨ isDecimalDigit c = false) : HasAsciiDigits s := by
  intro c hc hdigit
  rcases hs c hc with h | h
  · exact h
  · rw [hdigit] at h
    cases h

theorem IsHundredths.hasAsciiDigits {s ds : List Char} (h : IsHundredths s ds) :
    HasAsciiDigits s := by
  refine hasAsciiDigits_of_forall fun c hc => ?_
  rcases h.eq with rfl | rfl
  · exact .inl (h.digits c hc)
  · rcases List.mem_cons.mp hc with rfl | hc
    · exact .inr (by decide)
    · exact .inl (h.digits c hc)

/-- An integer of 53 bits is not rounded before it is divided. -/
theorem IsHundredths.value_isDouble {tag : String} {ds : List Char}
    (h : IsHundredths tag.toList ds) (hlimit : decimalValue ds < 2 ^ 53) :
    IsDouble false (decimalValue ds / 100) (value tag) := by
  obtain ⟨x, hx, hquotient⟩ := value_of_hundredths h.hasAsciiDigits h
  obtain ⟨hfinite, hvalue⟩ := hx.magnitudeValue_eq hlimit
  have hdouble := hquotient.1 hfinite
  rwa [hx.1, hvalue, Nat.cast_ofNat] at hdouble

/-- A numeral that is all of a tag is the longest there. -/
theorem value_of_numeral {tag : String} {n : Numeral} (hs : HasAsciiDigits tag.toList)
    (hnot : ∀ ds, ¬ IsHundredths tag.toList ds) (hn : n.text = tag.toList)
    (hstart : ∀ c ∈ tag.toList.head?, isBlank c = false) :
    IsDouble n.sign.isMinus n.size (value tag) := by
  have htrim : trimStart tag.toList = n.text := by
    rw [hn]
    exact dropWhile_run (a := []) nofun hstart
  have hlongest : Longest Numeral.text (trimStart tag.toList) n := by
    rw [htrim]
    exact ⟨List.prefix_rfl, fun _ hb => hb.length_le⟩
  exact value_of_longest hs hnot hlongest

/-- The version that a number is released as, as a numeral. -/
def versionNumeral (n : Nat) : Numeral where
  sign := .unsigned
  mantissa := .mixed
    (.ofDigits (Nat.toDigits 10 (n / 100)) Nat.toDigits_ne_nil isDigit_of_mem_toDigits)
    (.ofDigits [Nat.digitChar (n % 100 / 10), Nat.digitChar (n % 10)] (List.cons_ne_nil _ _)
      (isDigit_of_mem_pair (by omega) (by omega)))
  exponent := none

theorem versionNumeral_text (n : Nat) : (versionNumeral n).text = versionText n :=
  List.append_nil _

theorem versionNumeral_size (n : Nat) : (versionNumeral n).size = n / 100 := by
  have htens : n % 100 / 10 < 10 := by omega
  have hunits : n % 10 < 10 := by omega
  have hsplit : n / 100 * 100 + (10 * (n % 100 / 10) + n % 10) = n := by omega
  have hminor := plain_of_digits (isDigit_of_mem_pair htens hunits)
  have hlength : [Nat.digitChar (n % 100 / 10), Nat.digitChar (n % 10)].length = 2 := rfl
  have hsize : (versionNumeral n).size =
      ((n / 100 : Nat) : ℚ) + (10 * (n % 100 / 10) + n % 10 : Nat) / 10 ^ 2 := by
    rw [versionNumeral, Numeral.size, Mantissa.size, Group.value, Group.value, Group.ofDigits,
      Group.ofDigits, plain_of_digits isDigit_of_mem_toDigits, hminor, decimalValue_toDigits,
      decimalValue_pair htens hunits, hlength, Option.elim_none, zpow_zero, mul_one]
  have hcast : ((n / 100 : Nat) : ℚ) * 100 + (10 * (n % 100 / 10) + n % 10 : Nat) = n := by
    exact_mod_cast hsplit
  rw [hsize, eq_div_iff (by norm_num)]
  linarith

theorem isDigit_or_of_mem_versionText {n : Nat} :
    ∀ c ∈ versionText n, c.isDigit = true ∨ c = '.' := by
  intro c hc
  rcases List.mem_append.mp hc with hc | hc
  · exact .inl (isDigit_of_mem_toDigits c hc)
  · rcases List.mem_cons.mp hc with hc | hc
    · exact .inr hc
    · exact .inl (isDigit_of_mem_pair (by omega) (by omega) c hc)

/-- The point keeps a released version from being counted in hundredths. -/
theorem not_isHundredths_of_point {s : List Char} (hs : '.' ∈ s) (ds : List Char) :
    ¬ IsHundredths s ds := by
  intro h
  have hpoint : '.' ∉ ds := fun hmem => absurd (h.digits '.' hmem) (by decide)
  rcases h.eq with rfl | rfl
  · exact hpoint hs
  · rcases List.mem_cons.mp hs with heq | hmem
    · exact absurd heq (by decide)
    · exact hpoint hmem

theorem value_formatVersion (n : Nat) : IsDouble false (n / 100) (value (formatVersion n)) := by
  have htext := toList_formatVersion n
  have hascii : HasAsciiDigits (formatVersion n).toList := by
    rw [htext]
    refine hasAsciiDigits_of_forall fun c hc => (isDigit_or_of_mem_versionText c hc).imp_right ?_
    rintro rfl
    decide
  have hpoint : '.' ∈ (formatVersion n).toList := by
    rw [htext, versionText]
    simp
  have hstart : ∀ c ∈ (formatVersion n).toList.head?, isBlank c = false := by
    rw [htext]
    intro c hc
    rcases isDigit_or_of_mem_versionText c (List.mem_of_mem_head? hc) with hdigit | rfl
    · exact isBlank_of_isDecimalDigit (isDecimalDigit_of_isDigit hdigit)
    · decide
  have hdouble := value_of_numeral hascii (not_isHundredths_of_point hpoint)
    ((versionNumeral_text n).trans htext.symm) hstart
  rwa [versionNumeral_size] at hdouble

theorem value_isDouble_of_spells {tag : String} {n : Nat} (h : Spells tag n) (hn : n < 2 ^ 53) :
    IsDouble false (n / 100) (value tag) := by
  have hvalue := decimalValue_toDigits n
  have hhundredths (htext : tag.toList = Nat.toDigits 10 n ∨
      tag.toList = 'v' :: Nat.toDigits 10 n) : IsDouble false (n / 100) (value tag) := by
    have h : IsHundredths tag.toList (Nat.toDigits 10 n) :=
      ⟨Nat.toDigits_ne_nil, isDigit_of_mem_toDigits, htext⟩
    have hdouble := h.value_isDouble
    rw [hvalue] at hdouble
    exact hdouble hn
  rcases h with rfl | rfl | rfl
  · exact value_formatVersion n
  · exact hhundredths (.inl (toList_repr n))
  · have hv : "v".toList = ['v'] := by decide
    refine hhundredths (.inr ?_)
    rw [String.toList_append, toList_repr, hv, List.singleton_append]

/-- A version other than zero is not rounded to zero. -/
theorem not_isZero_of_spells {tag : String} {n : Nat} (h : Spells tag n) (hn : n < 2 ^ 53)
    (hpos : 0 < n) : ¬ (value tag).IsZero := by
  have hone : IsNearest (magnitudeValue 1) 1 := isNearest_magnitudeValue (by decide)
  have hsmall : magnitudeValue 1 ≤ (n : ℚ) / 100 := by
    have hn1 : (1 : ℚ) ≤ n := by exact_mod_cast hpos
    calc magnitudeValue 1 = 2 ^ (-1074 : Int) := magnitudeValue_one
      _ ≤ 2 ^ (-7 : Int) := zpow_le_zpow_right₀ one_le_two (by decide)
      _ ≤ (n : ℚ) / 100 := by
        norm_num
        linarith
  have hle := hone.mono (value_isDouble_of_spells h hn).2 hsmall
  exact Nat.one_le_iff_ne_zero.mp hle

/-! ## Order -/

theorem rank_of_isDouble {tag : String} {q : ℚ} (h : IsDouble false q (value tag)) :
    rank tag = (value tag).magnitude := by
  rw [rank, Binary64.rank, h.1]
  rfl

/-- A lower version does not rank above a higher one, however the two are spelled. -/
theorem compare_ne_gt_of_spells {a b : String} {m n : Nat} (ha : Spells a m) (hb : Spells b n)
    (hmn : m < n) (hn : n < 2 ^ 53) : compare a b ≠ .gt := by
  have hadouble := value_isDouble_of_spells ha (hmn.trans hn)
  have hbdouble := value_isDouble_of_spells hb hn
  have hvalue : (m : ℚ) / 100 ≤ n / 100 := by
    have hcast : (m : ℚ) ≤ n := by exact_mod_cast hmn.le
    linarith
  have hle := hadouble.2.mono hbdouble.2 hvalue
  have hne := not_isZero_of_spells hb hn (by omega)
  rw [compare_ne_gt_iff, rank_of_isDouble hadouble, rank_of_isDouble hbdouble]
  unfold IsZero at hne
  omega

/-- Tags may be replaced by tags of the same value, if those that are worth zero keep the order of
their texts. -/
theorem compare_congr {a a' b b' : String} (ha : value a = value a') (hb : value b = value b')
    (hzero : (value a).IsZero → (value b).IsZero → Ord.compare a b = Ord.compare a' b') :
    compare a b = compare a' b' := by
  unfold compare
  rw [← ha, ← hb]
  split
  · next h => exact hzero h.1 h.2
  · rfl

/-- Lists that are compared alike are sorted alike. -/
theorem exists_sort_map {ι : Type} {history : List ι} {f g : ι → String}
    (h : ∀ i ∈ history, ∀ j ∈ history, compare (f i) (f j) = compare (g i) (g j)) :
    ∃ sorted : List ι, sorted.Perm history ∧ sort (history.map f) = sorted.map f ∧
      sort (history.map g) = sorted.map g := by
  refine ⟨history.mergeSort fun i j => compare (f i) (f j) != .gt, List.mergeSort_perm _ _, ?_, ?_⟩
  · refine (List.map_mergeSort fun i _ j _ => ?_).symm
    rfl
  · refine (List.map_mergeSort fun i hi j hj => ?_).symm
    rw [h i hi j hj]

/-- All spellings of a version have one value, the double of its hundredths, so versions rank alike
however they are spelled. A history keeps its order where other spellings are taken, if the tags in
it that are worth zero keep the order of their texts; a single such tag may be spelled anew. -/
theorem spellings_rank_alike :
    (∀ n < 2 ^ 53, ∀ a b, Spells a n → Spells b n → value a = value b) ∧
    (∀ n < 2 ^ 53, ∀ a, Spells a n → IsDouble false (n / 100) (value a)) ∧
    (∀ m n, m < n → n < 2 ^ 53 → ∀ a b, Spells a m → Spells b n → compare a b ≠ .gt) ∧
    ∀ (ι : Type) (history : List ι) (f g : ι → String),
      (∀ i ∈ history, f i = g i ∨ ∃ n < 2 ^ 53, Spells (f i) n ∧ Spells (g i) n) →
      (∀ i ∈ history, ∀ j ∈ history, (value (f i)).IsZero → (value (f j)).IsZero →
        i = j ∨ Ord.compare (f i) (f j) = Ord.compare (g i) (g j)) →
      ∃ sorted : List ι, sorted.Perm history ∧ sort (history.map f) = sorted.map f ∧
        sort (history.map g) = sorted.map g := by
  have hlevel {n : Nat} {a b : String} (hn : n < 2 ^ 53) (ha : Spells a n) (hb : Spells b n) :
      value a = value b :=
    (value_isDouble_of_spells ha hn).unique (value_isDouble_of_spells hb hn)
  refine ⟨fun n hn a b ha hb => hlevel hn ha hb,
    fun n hn a ha => value_isDouble_of_spells ha hn,
    fun m n hmn hn a b ha hb => compare_ne_gt_of_spells ha hb hmn hn,
    fun ι history f g hspelled htexts => exists_sort_map fun i hi j hj => ?_⟩
  have hvalue {k : ι} (hk : k ∈ history) : value (f k) = value (g k) := by
    rcases hspelled k hk with heq | ⟨n, hn, hf, hg⟩
    · rw [heq]
    · exact hlevel hn hf hg
  refine compare_congr (hvalue hi) (hvalue hj) fun hizero hjzero => ?_
  have hself (a : String) : Ord.compare a a = .eq := Std.ReflCmp.compare_self
  rcases htexts i hi j hj hizero hjzero with rfl | htext
  · rw [hself, hself]
  · exact htext

theorem sort_pair (a b : String) :
    sort [a, b] = if compare a b = .gt then [b, a] else [a, b] := by
  by_cases h : compare a b = .gt <;> simp [sort, List.mergeSort, h]

/-- Tags that are worth zero are ordered by their texts, so here the spelling matters. -/
theorem spellings_rank_apart_at_zero :
    Spells "v0" 0 ∧ Spells "0.00" 0 ∧ value "v0" = value "0.00" ∧ compare "v0" "0.00" = .gt ∧
      sort ["v0", "foo"] = ["foo", "v0"] ∧ sort ["0.00", "foo"] = ["0.00", "foo"] := by
  refine ⟨.inr (.inr (by decide)), .inl (by decide), by decide +kernel, by decide +kernel, ?_, ?_⟩
  · rw [sort_pair, if_pos (by decide)]
  · rw [sort_pair, if_neg (by decide +kernel)]

end PluginRelease.Tag
