import PluginRelease.Proofs.Marker.Line

/-!
Lines that carry a script ID. The reader accepts the lines of one grammar and no other line, with
the name of the plugin taken as it is, and a line carries one ID at most.
-/
namespace PluginRelease.Marker
open Text

/-- Between the digits and the file name stand spaces, and perhaps the install mark. -/
def IsGapText (s : List Char) : Prop :=
  IsSpaceRun s ∨ ∃ before after, IsSpaceRun before ∧ IsSpaceRun after ∧
    s = before ++ (":AutoInstall:".toList ++ after)

theorem head?_autoInstall (t : List Char) : (autoInstall ++ t).head? = some ':' := by
  have hhead : autoInstall.head? = some ':' := by decide
  rw [List.head?_append, hhead]
  rfl

theorem isGap_of_spaces {s : List Char} (h : IsSpaceRun s) : isGap s = true := by
  have hrest : (s ++ []).dropWhile isSpace = [] := dropWhile_run h.isSpace nofun
  have hmark : dropStart? autoInstall [] = none := by decide
  rw [List.append_nil] at hrest
  rw [isGap, hrest, hmark]
  exact isSpaces_iff.mpr h

theorem isGap_of_autoInstall {before after : List Char} (hbefore : IsSpaceRun before)
    (hafter : IsSpaceRun after) : isGap (before ++ (autoInstall ++ after)) = true := by
  have hhead : (autoInstall ++ after).head? ≠ some ' ' := by
    rw [head?_autoInstall]
    decide
  have hrest := dropWhile_run hbefore.isSpace (isSpace_of_head? hhead)
  have hmark : dropStart? autoInstall (autoInstall ++ after) = some after :=
    dropStart?_eq_some_iff.mpr rfl
  rw [isGap, hrest, hmark]
  dsimp only
  rw [hbefore.head?_append, isSpaces_iff.mpr hafter]
  rfl

theorem isGapText_of_isGap {s : List Char} (h : isGap s = true) : IsGapText s := by
  unfold isGap at h
  cases hmark : dropStart? autoInstall (s.dropWhile isSpace) with
  | none =>
    rw [hmark] at h
    exact .inl (isSpaces_iff.mp h)
  | some r =>
    rw [hmark, Bool.and_eq_true, beq_iff_eq] at h
    have hrest : s.dropWhile isSpace = autoInstall ++ r := dropStart?_eq_some_iff.mp hmark
    have hs : s = s.takeWhile isSpace ++ (autoInstall ++ r) := by
      rw [← hrest, List.takeWhile_append_dropWhile]
    refine .inr ⟨s.takeWhile isSpace, r, ⟨fun hnil => ?_, ?_⟩, isSpaces_iff.mp h.2, hs⟩
    · rw [hs, hnil, List.nil_append, head?_autoInstall] at h
      exact absurd h.1 (by decide)
    · exact fun c hc => beq_iff_eq.mp (List.all_eq_true.mp List.all_takeWhile c hc)

theorem isGap_iff {s : List Char} : isGap s = true ↔ IsGapText s := by
  constructor
  · exact isGapText_of_isGap
  · rintro (h | ⟨before, after, hbefore, hafter, rfl⟩)
    · exact isGap_of_spaces h
    · exact isGap_of_autoInstall hbefore hafter

theorem IsGapText.head?_append {s : List Char} (h : IsGapText s) (t : List Char) :
    (s ++ t).head? = some ' ' := by
  rcases h with h | ⟨before, after, hbefore, -, rfl⟩
  · exact h.head?_append t
  · rw [List.append_assoc]
    exact hbefore.head?_append _

/-- A line, but for its end, that gives a plugin its ID. -/
def IsIdLine (name id s : List Char) : Prop :=
  ∃ spaces number gap, IsSpaceRun spaces ∧ IsDigitRun number ∧ IsGapText gap ∧
    s = "\" GetLatestVimScripts: ".toList ++
      (id ++ (spaces ++ (number ++ (gap ++ (name ++ ".vim".toList)))))

/-- Not only zeros: one of the digits is an ASCII digit from one to nine. -/
def HasNonZeroDigit (s : List Char) : Prop := ∃ c ∈ s, '1' ≤ c ∧ c ≤ '9'

theorem countsAsId_iff {s : List Char} : countsAsId s = true ↔ HasNonZeroDigit s := by
  simp [countsAsId, HasNonZeroDigit]

theorem scriptId?_eq_some_iff {name line id : String} :
    scriptId? name line = some id ↔
      IsIdLine name.toList id.toList (chomp line.toList) ∧ IsDigitRun id.toList ∧
        HasNonZeroDigit id.toList := by
  simp only [scriptId?, Option.bind_eq_bind, Option.bind_eq_some_iff, dropStart?_eq_some_iff,
    dropEnd?_eq_some_iff, takeRun?_digits_iff, takeRun?_spaces_iff, Prod.exists,
    Option.ite_none_right_eq_some, Bool.and_eq_true, isGap_iff, countsAsId_iff,
    Option.some.injEq]
  constructor
  · rintro ⟨_, hline, digits, _, ⟨rfl, hdigits, -⟩, spaces, _, ⟨rfl, hspaces, -⟩, number, _,
      ⟨rfl, hnumber, -⟩, gap, rfl, ⟨hgap, hnonzero⟩, rfl⟩
    rw [String.toList_ofList]
    exact ⟨⟨spaces, number, gap, hspaces, hnumber, hgap, hline⟩, hdigits, hnonzero⟩
  · rintro ⟨⟨spaces, number, gap, hspaces, hnumber, hgap, hline⟩, hdigits, hnonzero⟩
    -- Each run ends where the next part begins: at a space, or at a digit behind the spaces.
    have hdigitsEnd (r : List Char) := isDecimalDigit_of_head?_space (hspaces.head?_append r)
    have hnumberEnd (r : List Char) := isDecimalDigit_of_head?_space (hgap.head?_append r)
    exact ⟨_, hline, id.toList, _, ⟨rfl, hdigits, hdigitsEnd _⟩, spaces, _,
      ⟨rfl, hspaces, hnumber.head?_append_ne _⟩, number, _, ⟨rfl, hnumber, hnumberEnd _⟩, gap, rfl,
      ⟨hgap, hnonzero⟩, String.ofList_toList⟩

/-- The digits on a line are told from what follows them, whatever plugin the line is for. -/
theorem IsIdLine.id_unique {name name' id id' s : List Char} (h : IsIdLine name id s)
    (h' : IsIdLine name' id' s) (hid : IsDigitRun id) (hid' : IsDigitRun id') : id = id' := by
  obtain ⟨spaces, number, gap, hspaces, -, -, hline⟩ := h
  obtain ⟨spaces', number', gap', hspaces', -, -, hline'⟩ := h'
  rw [hline] at hline'
  exact digits_eq_of_append hid hid' (hspaces.head?_append _) (hspaces'.head?_append _)
    (List.append_cancel_left hline')

/-- A line, with or without its end, that gives a plugin an ID other than zero. -/
structure CarriesId (name id line : List Char) : Prop where
  digits : IsDigitRun id
  nonZero : HasNonZeroDigit id
  line_eq : ∃ s e, IsIdLine name id s ∧ IsLineEnd e ∧ line = s ++ e

/-- The line shows its last character. -/
theorem IsIdLine.getLast?_ne {name id s : List Char} (h : IsIdLine name id s) :
    ∀ c ∈ s.getLast?, c ≠ '\n' ∧ c ≠ '\r' := by
  obtain ⟨spaces, number, gap, -, -, -, rfl⟩ := h
  intro c hc
  have hlast : ".vim".toList.getLast? = some 'm' := by decide
  simp only [List.getLast?_append, hlast, Option.some_or] at hc
  obtain rfl := Option.some.inj hc
  decide

theorem exists_idLine_iff {name id line : List Char} :
    (∃ s e, IsIdLine name id s ∧ IsLineEnd e ∧ line = s ++ e) ↔
      IsIdLine name id (chomp line) :=
  exists_line_iff fun _ h => h.getLast?_ne

/-- No line carries two IDs, not even for two plugins. -/
theorem CarriesId.unique {name name' id id' line : List Char} (h : CarriesId name id line)
    (h' : CarriesId name' id' line) : id = id' := by
  have hline := exists_idLine_iff.mp h.line_eq
  have hline' := exists_idLine_iff.mp h'.line_eq
  exact hline.id_unique hline' h.digits h'.digits

/-- A name that no text before it runs into: its start is neither a space nor the install mark. -/
structure IsPlainName (name : List Char) : Prop where
  no_space : name.head? ≠ some ' '
  no_mark : ¬ ":AutoInstall: ".toList <+: name

theorem IsPlainName.isSpace_head? {name : List Char} (h : IsPlainName name) :
    ∀ c ∈ (name ++ ".vim".toList).head?, isSpace c = false := by
  apply isSpace_of_head?
  cases name with
  | nil => decide
  | cons c cs => exact h.no_space

theorem IsPlainName.ne_autoInstall {name after t : List Char} (h : IsPlainName name)
    (hafter : IsSpaceRun after) : name ++ ".vim".toList ≠
      ":AutoInstall:".toList ++ (after ++ (t ++ ".vim".toList)) := by
  intro heq
  obtain ⟨c, r, rfl⟩ := List.exists_cons_of_ne_nil hafter.ne_nil
  obtain rfl := hafter.spaces c List.mem_cons_self
  have hmark : ":AutoInstall: ".toList = ":AutoInstall:".toList ++ [' '] := by decide
  have hname : name = ":AutoInstall:".toList ++ (' ' :: r ++ t) := by
    apply List.append_cancel_right
    rw [heq]
    simp only [List.append_assoc]
  apply h.no_mark
  rw [hname, hmark]
  exact ⟨r ++ t, by simp⟩

/-- Where a name stands behind a gap, a plain one is told from the gap. -/
theorem IsGapText.name_unique {gap gap' name name' : List Char} (hgap : IsGapText gap)
    (hgap' : IsGapText gap') (hname : IsPlainName name) (hname' : IsPlainName name')
    (h : gap ++ (name ++ ".vim".toList) = gap' ++ (name' ++ ".vim".toList)) : name = name' := by
  have hrest := congrArg (List.dropWhile isSpace) h
  have hmark (t : List Char) : ∀ c ∈ (":AutoInstall:".toList ++ t).head?, isSpace c = false := by
    apply isSpace_of_head?
    rw [show ":AutoInstall:".toList = autoInstall from rfl, head?_autoInstall]
    decide
  rcases hgap with hspaces | ⟨before, after, hbefore, hafter, rfl⟩
  · rw [dropWhile_run hspaces.isSpace hname.isSpace_head?] at hrest
    rcases hgap' with hspaces' | ⟨before', after', hbefore', hafter', rfl⟩
    · rw [dropWhile_run hspaces'.isSpace hname'.isSpace_head?] at hrest
      exact List.append_cancel_right hrest
    · simp only [List.append_assoc] at hrest
      rw [dropWhile_run hbefore'.isSpace (hmark _)] at hrest
      exact absurd hrest (hname.ne_autoInstall hafter')
  · simp only [List.append_assoc] at hrest
    rw [dropWhile_run hbefore.isSpace (hmark _)] at hrest
    rcases hgap' with hspaces' | ⟨before', after', hbefore', hafter', rfl⟩
    · rw [dropWhile_run hspaces'.isSpace hname'.isSpace_head?] at hrest
      exact absurd hrest.symm (hname'.ne_autoInstall hafter)
    · simp only [List.append_assoc] at hrest
      rw [dropWhile_run hbefore'.isSpace (hmark _)] at hrest
      have hnames := congrArg (List.dropWhile isSpace) (List.append_cancel_left hrest)
      rw [dropWhile_run hafter.isSpace hname.isSpace_head?,
        dropWhile_run hafter'.isSpace hname'.isSpace_head?] at hnames
      exact List.append_cancel_right hnames

/-- No line gives an ID to two plugins of plain names. -/
theorem IsIdLine.name_unique {name name' id id' s : List Char} (h : IsIdLine name id s)
    (h' : IsIdLine name' id' s) (hid : IsDigitRun id) (hid' : IsDigitRun id')
    (hname : IsPlainName name) (hname' : IsPlainName name') : name = name' := by
  obtain rfl := h.id_unique h' hid hid'
  obtain ⟨spaces, number, gap, hspaces, hnumber, hgap, hline⟩ := h
  obtain ⟨spaces', number', gap', hspaces', hnumber', hgap', hline'⟩ := h'
  rw [hline] at hline'
  have hbehind := List.append_cancel_left (List.append_cancel_left hline')
  have hnumbers := congrArg (List.dropWhile isSpace) hbehind
  rw [dropWhile_run hspaces.isSpace (isSpace_of_head? (hnumber.head?_append_ne _)),
    dropWhile_run hspaces'.isSpace (isSpace_of_head? (hnumber'.head?_append_ne _))] at hnumbers
  obtain rfl := digits_eq_of_append hnumber hnumber' (hgap.head?_append _) (hgap'.head?_append _)
    hnumbers
  exact hgap.name_unique hgap' hname hname' (List.append_cancel_left hnumbers)

/-- The reader takes an ID from the lines that carry it, whatever characters the name has. -/
theorem scriptId_reads_grammar (name line : String) :
    (∀ id, scriptId? name line = some id ↔
      CarriesId name.toList id.toList line.toList) ∧
    ∀ name' id id', CarriesId name.toList id line.toList → CarriesId name' id' line.toList →
      id = id' := by
  refine ⟨fun id => ?_, fun name' id id' h h' => h.unique h'⟩
  rw [scriptId?_eq_some_iff]
  constructor
  · rintro ⟨hline, hdigits, hnonzero⟩
    exact ⟨hdigits, hnonzero, exists_idLine_iff.mpr hline⟩
  · rintro ⟨hdigits, hnonzero, hline⟩
    exact ⟨exists_idLine_iff.mp hline, hdigits, hnonzero⟩

/-- What looks like the install mark may as well be the start of a name. -/
example : scriptId? ":AutoInstall: a.b" "\" GetLatestVimScripts: 012 1 :AutoInstall: a.b.vim" =
    some "012" := by decide

end PluginRelease.Marker
