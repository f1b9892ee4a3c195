import PluginRelease.CommandLine.Reading
import PluginRelease.Proofs.CommandLine.Spelling
import PluginRelease.Proofs.Failure

/-!
Two flags that put each other out of force. After a command line is read the last of their
occurrences is in force, whatever stands between, before or after: so never both are.
-/
namespace PluginRelease.CommandLine
variable {κ : Type} {g : Grammar κ} {a b k x : κ} {args : List Bytes} {tokens : List (Token κ)}

/-! ## Flags of a command line -/

theorem ofArgument_eq_finish_iff {arg : Bytes} :
    Shape.ofArgument arg = .finish ↔ arg = Utf8.ofText "--" := by
  constructor
  · intro h
    have hfits := fits_ofArgument arg
    rw [h] at hfits
    exact hfits
  · rintro rfl
    rfl

theorem flagsIn_wanting (wanting : Option κ) :
    flagsIn (wanting.toList.map (Token.detached · none)) = [] := by
  cases wanting <;> rfl

theorem flagsIn_operands (args : List Bytes) :
    flagsIn (κ := κ) (args.map .operand) = [] := by
  simp [flagsIn, Token.flag?, Function.comp_def]

/-- Whether a value is wanted or not, an argument gives the flags that it spells. -/
theorem flagsIn_tokensFrom_cons {arg : Bytes} (wanting : Option κ) (h : arg ≠ Utf8.ofText "--") :
    ∃ wanting', flagsIn (g.tokensFrom wanting (arg :: args)) =
      g.flagsOf arg ++ flagsIn (g.tokensFrom wanting' args) := by
  rw [Grammar.tokensFrom.eq_def, Grammar.flagsOf]
  cases hshape : Shape.ofArgument arg with
  | word =>
    refine ⟨none, ?_⟩
    cases wanting with
    | none => simp only [hshape, flagsIn, List.filterMap_cons, Token.flag?, List.nil_append]
    | some k => simp only [hshape, flagsIn, List.filterMap_cons, Token.flag?, List.nil_append]
  | finish => exact absurd (ofArgument_eq_finish_iff.mp hshape) h
  | long name value =>
    refine ⟨(g.spellLong name value).2, ?_⟩
    simp only [hshape, flagsIn_append, flagsIn_wanting, List.nil_append]
  | short letters =>
    refine ⟨(g.spellShort letters).2, ?_⟩
    simp only [hshape, flagsIn_append, flagsIn_wanting, List.nil_append]

theorem flagsIn_tokensFrom_finish (wanting : Option κ) :
    flagsIn (g.tokensFrom wanting (Utf8.ofText "--" :: args)) = [] := by
  rw [Grammar.tokensFrom.eq_def]
  simp only [ofArgument_eq_finish_iff.mpr rfl, flagsIn_append, flagsIn_wanting, flagsIn_operands,
    List.nil_append]

/-- The flags of a command line are those of its arguments before `--`. -/
theorem flagsIn_tokensFrom (wanting : Option κ) : flagsIn (g.tokensFrom wanting args) =
    (args.takeWhile (· ≠ Utf8.ofText "--")).flatMap g.flagsOf := by
  induction args generalizing wanting with
  | nil => exact flagsIn_wanting wanting
  | cons arg args ih =>
    by_cases h : arg = Utf8.ofText "--"
    · rw [h, flagsIn_tokensFrom_finish, List.takeWhile_cons_of_neg (by simp), List.flatMap_nil]
    · obtain ⟨wanting', hflags⟩ : ∃ wanting', flagsIn (g.tokensFrom wanting (arg :: args)) =
          g.flagsOf arg ++ flagsIn (g.tokensFrom wanting' args) := flagsIn_tokensFrom_cons wanting h
      rw [hflags, ih, List.takeWhile_cons_of_pos (by simpa using h), List.flatMap_cons]

/-! ## Options that arguments spell with a value -/

/-- Two flags that put each other out of force and are put out of force by nothing else. -/
structure Grammar.Opposed (g : Grammar κ) (a b : κ) : Prop where
  ne : a ≠ b
  rivals_left : g.rivals a = [b]
  rivals_right : g.rivals b = [a]
  rivals_other : ∀ k, k ∉ [a, b] → ∀ x ∈ [a, b], x ∉ g.rivals k
  flags : ∀ s ∈ g.options, ∀ k ∈ [a, b], s.meaning ≠ .value k

def Token.valued? : Token κ → Option κ
  | attached k _ => some k
  | detached k _ => some k
  | _ => none

/-- An option with a value is neither flag. -/
theorem not_rival_of_find? (hg : g.Opposed a b) {p : Spec κ → Bool}
    (hk : (g.options.find? p).map (·.meaning) = some (.value k)) : k ∉ [a, b] := by
  obtain ⟨s, hs, hmeaning⟩ := Option.map_eq_some_iff.mp hk
  exact fun hk => hg.flags s (List.mem_of_find?_eq_some hs) k hk hmeaning

/-- No value is one of two flags. -/
def NoValue (a b : κ) (spelled : Grammar.Spelled κ) : Prop :=
  (∀ token ∈ spelled.1, ∀ k ∈ token.valued?, k ∉ [a, b]) ∧ ∀ k ∈ spelled.2, k ∉ [a, b]

theorem noValue_spellLong (hg : g.Opposed a b) (name : Bytes) (value : Option Bytes) :
    NoValue a b (g.spellLong name value) := by
  unfold Grammar.spellLong
  split
  case h_2 hk => simpa [NoValue, Token.valued?] using not_rival_of_find? hg hk
  case h_3 hk => simpa [NoValue] using not_rival_of_find? hg hk
  all_goals simp [NoValue, Token.valued?]

theorem noValue_spellShort (hg : g.Opposed a b) (letters : Bytes) :
    NoValue a b (g.spellShort letters) := by
  induction letters with
  | nil => simp [Grammar.spellShort, NoValue]
  | cons c rest ih =>
    rw [Grammar.spellShort]
    split
    case h_2 =>
      refine ⟨fun token htoken => ?_, ih.2⟩
      rcases List.mem_cons.mp htoken with rfl | htoken
      · rintro k ⟨⟩
      · exact ih.1 token htoken
    case h_5 hk =>
      have hk := not_rival_of_find? hg hk
      split <;> simpa [NoValue, Token.valued?] using hk
    all_goals simp [NoValue, Token.valued?]

theorem not_valued_wanting {keys : List κ} {wanting : Option κ} (h : ∀ k ∈ wanting, k ∉ keys) :
    ∀ token ∈ wanting.toList.map (Token.detached · none), ∀ k ∈ token.valued?, k ∉ keys := by
  intro token htoken
  obtain ⟨k, hk, rfl⟩ := List.mem_map.mp htoken
  have hk := h k (Option.mem_toList.mp hk)
  simpa [Token.valued?] using hk

theorem noValue_tokensFrom (hg : g.Opposed a b) {wanting : Option κ}
    (h : ∀ k ∈ wanting, k ∉ [a, b]) :
    ∀ token ∈ g.tokensFrom wanting args, ∀ k ∈ token.valued?, k ∉ [a, b] := by
  induction args generalizing wanting with
  | nil => exact not_valued_wanting h
  | cons arg args ih =>
    have hspelled {spelled : Grammar.Spelled κ} (hs : NoValue a b spelled) :
        ∀ token ∈ wanting.toList.map (Token.detached · none) ++ spelled.1 ++
          g.tokensFrom spelled.2 args, ∀ k ∈ token.valued?, k ∉ [a, b] := by
      intro token htoken
      rcases List.mem_append.mp htoken with htoken | htoken
      · rcases List.mem_append.mp htoken with htoken | htoken
        · exact not_valued_wanting h token htoken
        · exact hs.1 token htoken
      · exact ih hs.2 token htoken
    have hnone : ∀ k ∈ (none : Option κ), k ∉ [a, b] := fun _ hk => nomatch hk
    rw [Grammar.tokensFrom.eq_def]
    cases hshape : Shape.ofArgument arg with
    | word =>
      simp only [hshape]
      intro token htoken
      cases wanting with
      | none =>
        rcases List.mem_cons.mp htoken with rfl | htoken
        · exact fun _ hk => nomatch hk
        · exact ih hnone token htoken
      | some key =>
        rcases List.mem_cons.mp htoken with rfl | htoken
        · exact h
        · exact ih hnone token htoken
    | finish =>
      simp only [hshape]
      intro token htoken
      rcases List.mem_append.mp htoken with htoken | htoken
      · exact not_valued_wanting h token htoken
      · obtain ⟨text, -, rfl⟩ := List.mem_map.mp htoken
        exact fun _ hk => nomatch hk
    | long name value =>
      simp only [hshape]
      exact hspelled (noValue_spellLong hg name value)
    | short letters =>
      simp only [hshape]
      exact hspelled (noValue_spellShort hg letters)

/-! ## Options in force -/

section
variable [DecidableEq κ]

theorem has_put {given : Given κ} {rivals : List κ} {value : Option Bytes} :
    (given.put rivals k value).has x = true ↔ x = k ∨ given.has x = true ∧ x ∉ rivals := by
  simp only [Given.has, Given.put, List.any_append, List.any_filter, List.any_cons, List.any_nil,
    Bool.or_eq_true, List.any_eq_true]
  grind

/-- Which of two flags is in force. -/
def Given.Shows (given : Given κ) (a b : κ) (mode : Option κ) : Prop :=
  ∀ x ∈ [a, b], given.has x = true ↔ mode = some x

/-- The last occurrence of one of two flags, or else what was there before. -/
def lastOf (a b : κ) (mode : Option κ) (flags : List κ) : Option κ :=
  (flags.filter (· ∈ [a, b])).getLast?.or mode

theorem lastOf_cons (mode : Option κ) (flags : List κ) :
    lastOf a b mode (k :: flags) = lastOf a b (if k ∈ [a, b] then some k else mode) flags := by
  rw [lastOf, lastOf, List.filter_cons]
  by_cases hk : k ∈ [a, b]
  · rw [if_pos (decide_eq_true hk), if_pos hk, List.getLast?_cons]
    cases (flags.filter (· ∈ [a, b])).getLast? <;> rfl
  · rw [if_neg (by simpa using hk), if_neg hk]

variable {given given' : Given κ} {mode : Option κ} {pending : Pending κ}

theorem shows_empty (a b : κ) : Given.Shows .empty a b none := by
  intro x _
  simp [Given.empty, Given.has]

/-- Another option leaves both flags as they are. -/
theorem Given.Shows.put_other (h : given.Shows a b mode) (hg : g.Opposed a b) (hk : k ∉ [a, b])
    (value : Option Bytes) : (given.put (g.rivals k) k value).Shows a b mode := by
  intro x hx
  rw [has_put, ← h x hx]
  constructor
  · rintro (rfl | ⟨hhas, -⟩)
    · exact absurd hx hk
    · exact hhas
  · exact fun hhas => .inr ⟨hhas, hg.rivals_other k hk x hx⟩

/-- A flag is in force after it, and its rival is not. -/
theorem shows_put (hg : g.Opposed a b) (hk : k ∈ [a, b]) (given : Given κ)
    (value : Option Bytes) : (given.put (g.rivals k) k value).Shows a b (some k) := by
  intro x hx
  have hne := hg.ne
  simp only [List.mem_cons, List.not_mem_nil, or_false] at hk hx
  rw [has_put, Option.some_inj]
  rcases hk with rfl | rfl
  · rw [hg.rivals_left]
    grind
  · rw [hg.rivals_right]
    grind

theorem Given.Shows.giveFlag (h : given.Shows a b mode) (hg : g.Opposed a b)
    (hok : g.giveFlag given k = .ok given') :
    given'.Shows a b (if k ∈ [a, b] then some k else mode) := by
  rw [Grammar.giveFlag] at hok
  split at hok
  · cases hok
  · obtain rfl := Except.ok.inj hok
    split
    · next hk => exact shows_put hg hk given none
    · next hk => exact h.put_other hg hk none

theorem Given.Shows.giveValue (h : given.Shows a b mode) (hg : g.Opposed a b) (hk : k ∉ [a, b])
    {value : Option Bytes} (hok : g.giveValue given k value = .ok given') :
    given'.Shows a b mode := by
  cases value with
  | none => cases hok
  | some v =>
    rw [Grammar.giveValue] at hok
    split at hok
    · cases hok
    · split at hok
      · cases hok
      · obtain rfl := Except.ok.inj hok
        exact h.put_other hg hk (some v)

/-! ## A run over the tokens -/

def Pending.valued? : Pending κ → Option κ
  | value k _ => some k
  | _ => none

omit [DecidableEq κ] in
theorem not_valued_nothing (keys : List κ) :
    ∀ k ∈ (Pending.nothing : Pending κ).valued?, k ∉ keys :=
  fun _ hk => nomatch hk

theorem Given.Shows.settle (h : given.Shows a b mode) (hg : g.Opposed a b)
    (hpending : ∀ k ∈ pending.valued?, k ∉ [a, b]) (hok : g.settle given pending = .ok given') :
    given'.Shows a b mode := by
  cases pending with
  | nothing => exact Except.ok.inj hok ▸ h
  | value k v => exact h.giveValue hg (hpending k rfl) hok
  | operands texts =>
    rw [Grammar.settle] at hok
    split at hok
    · exact Except.ok.inj hok ▸ h
    · cases hok

/-- After all tokens, the last of the two flags among them is in force. -/
theorem Given.Shows.readFrom (h : given.Shows a b mode) (hg : g.Opposed a b)
    (hpending : ∀ k ∈ pending.valued?, k ∉ [a, b])
    (htokens : ∀ token ∈ tokens, ∀ k ∈ token.valued?, k ∉ [a, b])
    (hok : g.readFrom given pending tokens = .ok given') :
    given'.Shows a b (lastOf a b mode (flagsIn tokens)) := by
  induction tokens generalizing given pending mode with
  | nil => exact h.settle hg hpending hok
  | cons token tokens ih =>
    have hrest : ∀ token ∈ tokens, ∀ k ∈ token.valued?, k ∉ [a, b] :=
      fun t ht => htokens t (.tail _ ht)
    cases token with
    | flag k =>
      obtain ⟨settled, hsettled, hok⟩ := exists_of_bind hok
      obtain ⟨flagged, hflagged, hok⟩ := exists_of_bind hok
      have hshows := (h.settle hg hpending hsettled).giveFlag hg hflagged
      have hnext := ih hshows (not_valued_nothing _) hrest hok
      rwa [← lastOf_cons] at hnext
    | attached k v =>
      obtain ⟨settled, hsettled, hok⟩ := exists_of_bind hok
      obtain ⟨valued, hvalued, hok⟩ := exists_of_bind hok
      have hk := htokens _ (.head _) k rfl
      have hshows := (h.settle hg hpending hsettled).giveValue hg hk hvalued
      exact ih hshows (not_valued_nothing _) hrest hok
    | detached k v =>
      obtain ⟨settled, hsettled, hok⟩ := exists_of_bind hok
      have hk : ∀ x ∈ (Pending.value k v).valued?, x ∉ [a, b] := htokens _ (.head _)
      exact ih (h.settle hg hpending hsettled) hk hrest hok
    | operand text =>
      have hoperands (texts : List Bytes) : ∀ x ∈ (Pending.operands texts).valued?, x ∉ [a, b] :=
        fun x hx => nomatch hx
      cases pending with
      | operands texts => exact ih h (hoperands _) hrest hok
      | nothing => exact ih h (hoperands _) hrest hok
      | value k v =>
        obtain ⟨settled, hsettled, hok⟩ := exists_of_bind hok
        exact ih (h.settle hg hpending hsettled) (hoperands _) hrest hok
    | inform why =>
      rw [Grammar.readFrom] at hok
      split at hok <;> cases hok
    | refused why => cases hok

/-! ## After reading -/

/-- Of two opposed flags the one that was given last is in force, and neither if none was. -/
theorem shows_of_read (hg : g.Opposed a b) (hok : g.read args = .ok given) :
    given.Shows a b
      (lastOf a b none ((args.takeWhile (· ≠ Utf8.ofText "--")).flatMap g.flagsOf)) := by
  have hnone : ∀ k ∈ (none : Option κ), k ∉ [a, b] := fun _ hk => nomatch hk
  have hshows := (shows_empty a b).readFrom hg (not_valued_nothing _)
    (noValue_tokensFrom hg hnone) hok
  rwa [flagsIn_tokensFrom] at hshows

/-- Two opposed flags are not both in force. -/
theorem not_both_of_read (hg : g.Opposed a b) (hok : g.read args = .ok given) :
    ¬ (given.has a = true ∧ given.has b = true) := by
  have hshows := shows_of_read hg hok
  rw [hshows a (by simp), hshows b (by simp)]
  rintro ⟨ha, hb⟩
  exact hg.ne (Option.some.inj (ha.symm.trans hb))

/-- The occurrences of two flags in an argument, each as what it stands for. -/
def Grammar.marksOf {β : Type} (g : Grammar κ) (a b : κ) (f : κ → β) (arg : Bytes) : List β :=
  ((g.flagsOf arg).filter (· ∈ [a, b])).map f

/-- What is in force is what the last occurrence stands for. -/
theorem getLast?_marksOf {β : Type} (hg : g.Opposed a b) (hok : g.read args = .ok given)
    (f : κ → β) : ((args.takeWhile (· ≠ Utf8.ofText "--")).flatMap (g.marksOf a b f)).getLast? =
      if given.has a then some (f a) else if given.has b then some (f b) else none := by
  have hshows := shows_of_read hg hok
  have hmarks : (args.takeWhile (· ≠ Utf8.ofText "--")).flatMap (g.marksOf a b f) =
      (((args.takeWhile (· ≠ Utf8.ofText "--")).flatMap g.flagsOf).filter (· ∈ [a, b])).map f := by
    rw [List.filter_flatMap, List.map_flatMap]
    rfl
  rw [hmarks, List.getLast?_map]
  generalize (args.takeWhile (· ≠ Utf8.ofText "--")).flatMap g.flagsOf = flags at hshows
  rw [lastOf, Option.or_none] at hshows
  cases hlast : (flags.filter (· ∈ [a, b])).getLast? with
  | none =>
    rw [hlast] at hshows
    have ha := hshows a (by simp)
    have hb := hshows b (by simp)
    simp_all
  | some k =>
    rw [hlast] at hshows
    have hk : k ∈ [a, b] := by simpa using (List.mem_filter.mp (List.mem_of_getLast? hlast)).2
    have ha := hshows a (by simp)
    have hb := hshows b (by simp)
    have hne := hg.ne
    simp only [List.mem_cons, List.not_mem_nil, or_false] at hk
    rcases hk with rfl | rfl <;> simp_all

end

end PluginRelease.CommandLine
