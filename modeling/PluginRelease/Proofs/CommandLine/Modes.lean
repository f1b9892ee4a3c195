import Mathlib.Data.List.Basic
import PluginRelease.Build.Arguments
import PluginRelease.Proofs.CommandLine.Rivals
import PluginRelease.Publish.Arguments

/-!
The flags that choose what a tool does: a dry run or not, and which version is printed, if any. The
last of them decides, in long form or in a cluster of letters, and nothing else on the command line
has a say.
-/
namespace PluginRelease
open CommandLine

/-! ## Dry runs -/

/-- What an argument says about a dry run, each time it does: by a long flag, or by the letters of
flags that it begins with. -/
def PublishArguments.dryMarks (arg : Bytes) : List Bool :=
  if arg = Utf8.ofText "--dry-run" then [true]
  else if arg = Utf8.ofText "--no-dry-run" then [false]
  else if arg.head? = some dash then
    ((arg.tail.takeWhile ((Utf8.ofText "nv").contains ·)).filter
      ((Utf8.ofText "n").contains ·)).map fun _ => true
  else []

namespace PublishOption
open PublishArguments

theorem opposed : grammar.Opposed dryRun noDryRun where
  ne := by decide
  rivals_left := rfl
  rivals_right := rfl
  rivals_other k hk := by
    cases k with
    | dryRun => simp at hk
    | noDryRun => simp at hk
    | _ => simp [grammar, rivals]
  flags := by decide

theorem isLong_dryRun : grammar.IsLong dryRun "dry-run" := ⟨by decide, by decide⟩

theorem isLong_noDryRun : grammar.IsLong noDryRun "no-dry-run" := ⟨by decide, by decide⟩

theorem contains_nv (b : UInt8) :
    (Utf8.ofText "nv").contains b = (decide (b = 0x6E) || decide (b = 0x76)) := by
  simp [show Utf8.ofText "nv" = [0x6E, 0x76] by decide]

theorem contains_n (b : UInt8) : (Utf8.ofText "n").contains b = decide (b = 0x6E) := by
  simp [show Utf8.ofText "n" = [0x6E] by decide]

theorem flagLetter?_eq (letter : UInt8) : grammar.flagLetter? letter =
    if letter = 0x6E then some dryRun else if letter = 0x76 then some verbose else none := by
  by_cases hn : letter = 0x6E
  · subst hn
    rfl
  by_cases hv : letter = 0x76
  · subst hv
    rfl
  rw [if_neg hn, if_neg hv]
  cases hflag : grammar.flagLetter? letter with
  | none => rfl
  | some k =>
    obtain ⟨s, hs, hmeaning, c, hshort, hletter⟩ := exists_of_flagLetter? hflag
    have hletters : ∀ s ∈ specs, s.meaning = .flag k →
        s.short.map (Utf8.encode [·]) ∈ [none, some [0x6E], some [0x76]] := by
      cases k <;> decide
    have hmem := hletters s hs hmeaning
    rw [Option.mem_def] at hshort
    simp [hshort, hletter, hn, hv] at hmem

/-- The marks of a cluster are those of the flags that it begins with. -/
theorem marks_of_letters (letters : Bytes) :
    ((flagsIn (grammar.spellShort letters).1).filter (· ∈ [dryRun, noDryRun])).map
        (decide <| · = dryRun) =
      ((letters.takeWhile ((Utf8.ofText "nv").contains ·)).filter
        ((Utf8.ofText "n").contains ·)).map fun _ => true := by
  have hrun : letters.takeWhile (grammar.flagLetter? · |>.isSome) =
      letters.takeWhile ((Utf8.ofText "nv").contains ·) := by
    congr 1
    funext c
    rw [flagLetter?_eq, contains_nv]
    grind
  rw [flagsIn_spellShort, hrun]
  simp only [contains_n]
  generalize letters.takeWhile ((Utf8.ofText "nv").contains ·) = run
  induction run with
  | nil => rfl
  | cons c run ih =>
    by_cases hn : c = 0x6E
    · subst hn
      simpa [flagLetter?_eq] using ih
    · by_cases hv : c = 0x76
      · subst hv
        simpa [flagLetter?_eq] using ih
      · simpa [flagLetter?_eq, hn, hv] using ih

/-- The marks of an argument are what the rules for reading it find. -/
theorem marksOf_eq (arg : Bytes) :
    grammar.marksOf dryRun noDryRun (decide <| · = dryRun) arg = dryMarks arg := by
  by_cases hdry : arg = Utf8.ofText "--dry-run"
  · subst hdry
    rfl
  by_cases hno : arg = Utf8.ofText "--no-dry-run"
  · subst hno
    rfl
  rw [dryMarks, if_neg hdry, if_neg hno, Grammar.marksOf, Grammar.flagsOf]
  have hfits := fits_ofArgument arg
  cases hshape : Shape.ofArgument arg with
  | word =>
    rw [hshape] at hfits
    rcases hfits with hr | hr
    · rw [hr]
      rfl
    · rw [if_neg hr]
      rfl
  | finish =>
    rw [hshape] at hfits
    rw [show arg = _ from hfits]
    rfl
  | long name value =>
    rw [hshape] at hfits
    obtain ⟨r, hr, -⟩ := hfits
    have hnone : ∀ k ∈ flagsIn (grammar.spellLong name value).1, k ∉ [dryRun, noDryRun] := by
      intro k hk hpair
      simp only [List.mem_cons, List.not_mem_nil, or_false] at hpair
      rcases hpair with rfl | rfl
      · exact hdry (isLong_dryRun.eq_of_mem hshape hk)
      · exact hno (isLong_noDryRun.eq_of_mem hshape hk)
    dsimp only
    rw [hr, List.filter_eq_nil_iff.mpr (by simpa using hnone)]
    rfl
  | short letters =>
    rw [hshape] at hfits
    rw [hfits.1]
    exact marks_of_letters letters

end PublishOption

/-! ## Printed versions -/

/-- What an argument asks to be printed. -/
def BuildArguments.printMark? (arg : Bytes) : Option BuildCommand :=
  if arg = Utf8.ofText "--print-version" then some .printVersion
  else if arg = Utf8.ofText "--print-saved-version" then some .printSavedVersion
  else none

namespace BuildOption
open BuildArguments

theorem opposed : grammar.Opposed printVersion printSavedVersion where
  ne := by decide
  rivals_left := rfl
  rivals_right := rfl
  rivals_other k hk := by
    cases k with
    | printVersion => simp at hk
    | printSavedVersion => simp at hk
    | _ => simp [grammar, rivals]
  flags := by decide

theorem isLong_printVersion : grammar.IsLong printVersion "print-version" :=
  ⟨by decide, by decide⟩

theorem isLong_printSavedVersion : grammar.IsLong printSavedVersion "print-saved-version" :=
  ⟨by decide, by decide⟩

/-- Neither flag has a letter. -/
theorem not_mem_spellShort (letters : Bytes) :
    ∀ k ∈ flagsIn (grammar.spellShort letters).1, k ∉ [printVersion, printSavedVersion] := by
  intro k hk hpair
  rw [flagsIn_spellShort, List.mem_filterMap] at hk
  obtain ⟨c, -, hc⟩ := hk
  obtain ⟨s, hs, hmeaning, c, hshort, -⟩ := exists_of_flagLetter? hc
  have hnone : ∀ s ∈ specs, ∀ k ∈ [printVersion, printSavedVersion], s.meaning = .flag k →
      s.short = none := by decide
  exact nomatch hshort.symm.trans (hnone s hs k hpair hmeaning)

def commandFor (k : BuildOption) : BuildCommand :=
  if k = printVersion then .printVersion else .printSavedVersion

/-- The mark of an argument is what the rules for reading it find. -/
theorem marksOf_eq (arg : Bytes) :
    grammar.marksOf printVersion printSavedVersion commandFor arg = (printMark? arg).toList := by
  by_cases hversion : arg = Utf8.ofText "--print-version"
  · subst hversion
    rfl
  by_cases hsaved : arg = Utf8.ofText "--print-saved-version"
  · subst hsaved
    rfl
  rw [printMark?, if_neg hversion, if_neg hsaved, Grammar.marksOf, Option.toList_none,
    List.map_eq_nil_iff, List.filter_eq_nil_iff]
  intro k hk hpair
  have hpair := of_decide_eq_true hpair
  unfold Grammar.flagsOf at hk
  split at hk
  next name value hshape =>
    simp only [List.mem_cons, List.not_mem_nil, or_false] at hpair
    rcases hpair with rfl | rfl
    · exact hversion (isLong_printVersion.eq_of_mem hshape hk)
    · exact hsaved (isLong_printSavedVersion.eq_of_mem hshape hk)
  next letters _ => exact not_mem_spellShort letters k hk hpair
  next => cases hk

end BuildOption

/-! ## The last flag wins -/

theorem exists_of_map {ε α β : Type} {f : α → β} {x : Except ε α} {b : β} (h : x.map f = .ok b) :
    ∃ a, x = .ok a ∧ f a = b := by
  cases x with
  | error e => cases h
  | ok a => exact ⟨a, rfl, Except.ok.inj h⟩

/-- The arguments of a command line before those that can be nothing but operands. -/
def beforeOperands (args : List Bytes) : List Bytes := args.takeWhile (· ≠ Utf8.ofText "--")

/-- Whether a run is dry, and which version it prints, is what the last flag before a lone `--` says
that says anything about it, and is left open if none does. No two flags that contradict each other
are in force after reading, so that it does not matter which of them is looked at first. -/
theorem last_mode_flag_wins (args : List Bytes) :
    (∀ p, PublishArguments.read args = .ok p →
      p.overrides.dry = ((beforeOperands args).flatMap PublishArguments.dryMarks).getLast?) ∧
    (∀ g, PublishOption.grammar.read args = .ok g →
      ¬ (g.has .dryRun = true ∧ g.has .noDryRun = true) ∧
      PublishArguments.dryOf g =
        if g.has .noDryRun then some false else if g.has .dryRun then some true else none) ∧
    (∀ b, BuildArguments.read args = .ok b →
      b.command =
        ((beforeOperands args).filterMap BuildArguments.printMark?).getLast?.getD .write) ∧
    (∀ g, BuildOption.grammar.read args = .ok g →
      ¬ (g.has .printVersion = true ∧ g.has .printSavedVersion = true) ∧
      BuildArguments.commandOf g =
        if g.has .printSavedVersion then .printSavedVersion
        else if g.has .printVersion then .printVersion else .write) := by
  refine ⟨fun p hp => ?_, fun g hg => ?_, fun b hb => ?_, fun g hg => ?_⟩
  · obtain ⟨g, hg, rfl⟩ := exists_of_map hp
    have hlast := getLast?_marksOf PublishOption.opposed hg (decide <| · = .dryRun)
    rw [funext PublishOption.marksOf_eq] at hlast
    exact hlast.symm
  · have hboth := not_both_of_read PublishOption.opposed hg
    refine ⟨hboth, ?_⟩
    rw [PublishArguments.dryOf]
    grind
  · obtain ⟨g, hg, rfl⟩ := exists_of_map hb
    have hlast := getLast?_marksOf BuildOption.opposed hg BuildOption.commandFor
    rw [funext BuildOption.marksOf_eq, ← List.filterMap_eq_flatMap_toList] at hlast
    rw [beforeOperands, hlast]
    show BuildArguments.commandOf g = _
    rw [BuildArguments.commandOf]
    split
    · rfl
    · split <;> rfl
  · have hboth := not_both_of_read BuildOption.opposed hg
    refine ⟨hboth, ?_⟩
    rw [BuildArguments.commandOf]
    grind

/-- Flags that contradict each other several times, with other arguments between them. -/
theorem last_mode_flag_wins_of_alternation :
    let publish := ["-n", "a.yml", "--no-dry-run", "--id", "7", "-vn", "--", "--no-dry-run"].map
      Utf8.ofText
    let build := ["--print-version", "-n", "a", "--print-saved-version", "--print-version",
      "a.vim"].map Utf8.ofText
    (∃ p g, PublishArguments.read publish = .ok p ∧ p.overrides.dry = some true ∧
      PublishOption.grammar.read publish = .ok g ∧ g.has .noDryRun = false) ∧
    ∃ b g, BuildArguments.read build = .ok b ∧ b.command = .printVersion ∧
      BuildOption.grammar.read build = .ok g ∧ g.has .printSavedVersion = false := by
  intro publish build
  have hpublish : (PublishOption.grammar.read publish).toOption.any (·.has .dryRun) = true := by
    decide +kernel
  have hbuild : (BuildOption.grammar.read build).toOption.any (·.has .printVersion) = true := by
    decide +kernel
  obtain ⟨g, hg, hdryRun⟩ := Option.any_eq_true _ _ |>.mp hpublish
  obtain ⟨g', hg', hversion⟩ := Option.any_eq_true _ _ |>.mp hbuild
  have hg := eq_ok_of_toOption hg
  have hg' := eq_ok_of_toOption hg'
  obtain ⟨p, hp⟩ : ∃ p, PublishArguments.read publish = .ok p :=
    ⟨_, congrArg (Except.map PublishArguments.ofGiven) hg⟩
  obtain ⟨b, hb⟩ : ∃ b, BuildArguments.read build = .ok b :=
    ⟨_, congrArg (Except.map BuildArguments.ofGiven) hg'⟩
  obtain ⟨hdry, hdryOf, -, -⟩ := last_mode_flag_wins publish
  obtain ⟨-, -, hcommand, hcommandOf⟩ := last_mode_flag_wins build
  have hnoDry : g.has .noDryRun = false :=
    Bool.eq_false_iff.mpr fun hno => (hdryOf g hg).1 ⟨hdryRun, hno⟩
  have hnoSaved : g'.has .printSavedVersion = false :=
    Bool.eq_false_iff.mpr fun hsaved => (hcommandOf g' hg').1 ⟨hversion, hsaved⟩
  exact ⟨⟨p, g, hp, hdry p hp, hg, hnoDry⟩, b, g', hb, hcommand b hb, hg', hnoSaved⟩

end PluginRelease
