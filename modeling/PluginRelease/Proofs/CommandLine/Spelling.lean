import PluginRelease.CommandLine.Grammar
import PluginRelease.Proofs.Text.Utf8

/-!
How flags are written: a long name behind two dashes, or one letter among others behind one dash,
up to the first letter that is no flag.
-/
namespace PluginRelease.CommandLine
variable {κ : Type} {g : Grammar κ} {k : κ} {arg name letters : Bytes}

/-! ## Flags that arguments spell -/

def Token.flag? : Token κ → Option κ
  | flag k => some k
  | _ => none

def flagsIn (tokens : List (Token κ)) : List κ := tokens.filterMap Token.flag?

theorem flagsIn_append (l r : List (Token κ)) : flagsIn (l ++ r) = flagsIn l ++ flagsIn r :=
  List.filterMap_append

/-- The flags of one argument, wherever it stands. -/
def Grammar.flagsOf (g : Grammar κ) (arg : Bytes) : List κ :=
  match Shape.ofArgument arg with
  | .long name value => flagsIn (g.spellLong name value).1
  | .short letters => flagsIn (g.spellShort letters).1
  | _ => []

/-! ## Shapes -/

/-- What an argument of a shape looks like. -/
def Shape.Fits (arg : Bytes) : Shape → Prop
  | .word => arg = [dash] ∨ arg.head? ≠ some dash
  | .finish => arg = [dash, dash]
  | .long name value => ∃ r, arg = dash :: dash :: r ∧ (value = none → r = name)
  | .short letters => arg = dash :: letters ∧ letters.head? ≠ some dash

/-- A name behind which nothing is attached is the whole of the text. -/
theorem eq_takeWhile_of_tail? {rest : Bytes}
    (h : (rest.drop (rest.takeWhile (· ≠ equals)).length).tail? = none) :
    rest = rest.takeWhile (· ≠ equals) := by
  have hrest : rest.drop (rest.takeWhile (· ≠ equals)).length = [] := by
    cases hdrop : rest.drop (rest.takeWhile (· ≠ equals)).length with
    | nil => rfl
    | cons b r => exact nomatch hdrop ▸ h
  have hsplit := List.take_append_drop (rest.takeWhile (· ≠ equals)).length rest
  have htake := List.prefix_iff_eq_take.mp (List.takeWhile_prefix (l := rest) (· ≠ equals))
  rw [hrest, List.append_nil, ← htake] at hsplit
  exact hsplit.symm

theorem fits_ofArgument (arg : Bytes) : (Shape.ofArgument arg).Fits arg := by
  unfold Shape.ofArgument
  split
  · exact .inr (by simp)
  · next b => by_cases hb : b = dash <;> simp [Shape.Fits, hb]
  · next b c rest =>
    split
    · next hb => exact .inr fun hhead => hb (Option.some.inj hhead)
    · next hb =>
      obtain rfl : b = dash := Decidable.not_not.mp hb
      split
      · next hc => exact ⟨rfl, fun hhead => hc (Option.some.inj hhead)⟩
      · next hc =>
        obtain rfl : c = dash := Decidable.not_not.mp hc
        split
        · next hrest => rw [List.isEmpty_iff.mp hrest, Shape.Fits]
        · exact ⟨rest, rfl, eq_takeWhile_of_tail?⟩

/-! ## Names and letters -/

/-- A flag with its long name, which no other option has. -/
structure Grammar.IsLong (g : Grammar κ) (k : κ) (name : String) : Prop where
  found : g.long? (Utf8.ofText name) = some (.flag k)
  only : ∀ s ∈ g.options, s.meaning = .flag k → s.long = name

theorem Grammar.IsLong.long?_iff {long : String} (h : g.IsLong k long) :
    g.long? name = some (.flag k) ↔ name = Utf8.ofText long := by
  constructor
  · intro hk
    obtain ⟨s, hs, hmeaning⟩ := Option.map_eq_some_iff.mp hk
    have hlong := List.find?_some hs
    rw [← of_decide_eq_true hlong, h.only s (List.mem_of_find?_eq_some hs) hmeaning]
  · rintro rfl
    exact h.found

theorem mem_flagsIn_spellLong_iff {value : Option Bytes} :
    k ∈ flagsIn (g.spellLong name value).1 ↔ value = none ∧ g.long? name = some (.flag k) := by
  cases value with
  | none => cases hlong : g.long? name with
    | none => simp [Grammar.spellLong, hlong, flagsIn, Token.flag?]
    | some meaning =>
      cases meaning <;> simp [Grammar.spellLong, hlong, flagsIn, Token.flag?, eq_comm]
  | some v => cases hlong : g.long? name with
    | none => simp [Grammar.spellLong, hlong, flagsIn, Token.flag?]
    | some meaning => cases meaning <;> simp [Grammar.spellLong, hlong, flagsIn, Token.flag?]

/-- A long flag is spelled by one argument alone. -/
theorem Grammar.IsLong.eq_of_mem {long : String} {value : Option Bytes} (h : g.IsLong k long)
    (hshape : Shape.ofArgument arg = .long name value)
    (hmem : k ∈ flagsIn (g.spellLong name value).1) : arg = Utf8.ofText ("--" ++ long) := by
  obtain ⟨hvalue, hlong⟩ := mem_flagsIn_spellLong_iff.mp hmem
  have hfits := fits_ofArgument arg
  rw [hshape] at hfits
  obtain ⟨r, hr, hname⟩ := hfits
  rw [hname hvalue, h.long?_iff.mp hlong] at hr
  rw [hr, Utf8.ofText_append]
  rfl

def Grammar.flagLetter? (g : Grammar κ) (letter : UInt8) : Option κ :=
  match g.short? letter with
  | some (.flag k) => some k
  | _ => none

theorem exists_of_flagLetter? {letter : UInt8} (h : g.flagLetter? letter = some k) :
    ∃ s ∈ g.options, s.meaning = .flag k ∧ ∃ c ∈ s.short, Utf8.encode [c] = [letter] := by
  have hshort : g.short? letter = some (.flag k) := by
    unfold Grammar.flagLetter? at h
    split at h
    · next hk => exact hk.trans (congrArg (some ∘ Meaning.flag) (Option.some.inj h))
    · cases h
  obtain ⟨s, hs, hmeaning⟩ := Option.map_eq_some_iff.mp hshort
  have hletter := List.find?_some hs
  exact ⟨s, List.mem_of_find?_eq_some hs, hmeaning, by simpa [Option.any_eq_true] using hletter⟩

/-- A cluster gives the flags of its letters, up to the first letter that is none. -/
theorem flagsIn_spellShort (g : Grammar κ) (letters : Bytes) :
    flagsIn (g.spellShort letters).1 =
      (letters.takeWhile (g.flagLetter? · |>.isSome)).filterMap g.flagLetter? := by
  induction letters with
  | nil => rfl
  | cons c rest ih =>
    rw [Grammar.spellShort]
    split
    case h_2 k hk =>
      have hflag : g.flagLetter? c = some k := by rw [Grammar.flagLetter?, hk]
      rw [List.takeWhile_cons_of_pos (by simp [hflag]), List.filterMap_cons_some hflag, ← ih]
      rfl
    case h_5 k hk =>
      have hflag : g.flagLetter? c = none := by rw [Grammar.flagLetter?, hk]
      rw [List.takeWhile_cons_of_neg (by simp [hflag])]
      split <;> rfl
    all_goals
      next hk =>
        have hflag : g.flagLetter? c = none := by rw [Grammar.flagLetter?, hk]
        rw [List.takeWhile_cons_of_neg (by simp [hflag])]
        rfl

end PluginRelease.CommandLine
