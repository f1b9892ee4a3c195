import PluginRelease.Proofs.Marker.ScriptId
import PluginRelease.Proofs.Marker.Version
import PluginRelease.Proofs.Text.Utf8

/-!
The search for a marker. It takes the source files in order and the lines of each in order, up to
the first file that cannot be read or has a line that is accepted. Nothing behind that place has a
part in the result.
-/
namespace PluginRelease.Marker
open Text

/-- A file that the search goes past: it can be read, and none of its lines is accepted. -/
def Passes (w : Workspace) (parse : String → Option String) (p : Path) : Prop :=
  ∃ ls, sourceLines w p = .ok ls ∧ ∀ line ∈ ls, parse line = none

/-- What the search comes to at a file that it does not go past. -/
inductive EndsWith (w : Workspace) (parse : String → Option String) (p : Path) :
    Except Failure (Option String) → Prop
  | unreadable {e : SystemFault} (hread : w.read p = .error e) :
      EndsWith w parse p (.error
        (.plain ("Failed to read source file " ++ p.text) (some e.message) none))
  | accepted {before after : List String} {line found : String}
      (hlines : sourceLines w p = .ok (before ++ line :: after))
      (hbefore : ∀ l ∈ before, parse l = none) (hline : parse line = some found) :
      EndsWith w parse p (.ok (some found))

/-- A search of files that is settled by the first one it does not go past. -/
structure SearchesInOrder (parse : String → Option String)
    (find : Workspace → List Path → Except Failure (Option String)) : Prop where
  /-- There is such a file, or the search goes past all of them. -/
  cases_of_files : ∀ w files, (∀ p ∈ files, Passes w parse p) ∨
    ∃ before p after r, files = before ++ p :: after ∧ (∀ q ∈ before, Passes w parse q) ∧
      EndsWith w parse p r
  eq_none : ∀ w files, (∀ p ∈ files, Passes w parse p) → find w files = .ok none
  eq_of_endsWith : ∀ w before p after r, (∀ q ∈ before, Passes w parse q) →
    EndsWith w parse p r → find w (before ++ p :: after) = r
  /-- Other files, and other content of files, behind the place where it ends. -/
  eq_of_agreement : ∀ w t before p after after' r,
    (∀ q ∈ before ++ [p], t.read q = w.read q) → (∀ q ∈ before, Passes w parse q) →
      EndsWith w parse p r → find t (before ++ p :: after') = find w (before ++ p :: after)
  /-- A file without an accepted line, wherever it stands. -/
  eq_of_passes : ∀ w before p after, Passes w parse p →
    find w (before ++ p :: after) = find w (before ++ after)

/-! ## One file -/

section File
variable {w t : Workspace} {parse : String → Option String} {p : Path}
  {r : Except Failure (Option String)}

/-- The lines of a source file that holds a text. -/
theorem sourceLines_of_read {s : List Char} (h : w.read p = .ok (Utf8.encode s)) :
    sourceLines w p = .ok ((lines s).map String.ofList) := by
  unfold sourceLines
  rw [h]
  simp only [Failure.ofSystem, bind, Except.bind, Utf8.decodeLossy_encode]
  rfl

theorem sourceLines_of_error {e : SystemFault} (h : w.read p = .error e) :
    sourceLines w p = .error
      (.plain ("Failed to read source file " ++ p.text) (some e.message) none) := by
  unfold sourceLines
  rw [h]
  rfl

theorem sourceLines_congr (h : t.read p = w.read p) : sourceLines t p = sourceLines w p := by
  unfold sourceLines
  rw [h]

theorem Passes.congr (hp : Passes w parse p) (h : t.read p = w.read p) : Passes t parse p := by
  obtain ⟨ls, hls, hnone⟩ := hp
  exact ⟨ls, (sourceLines_congr h).trans hls, hnone⟩

theorem EndsWith.congr (hr : EndsWith w parse p r) (h : t.read p = w.read p) :
    EndsWith t parse p r := by
  cases hr with
  | unreadable hread => exact .unreadable (h.trans hread)
  | accepted hlines hbefore hline =>
    exact .accepted ((sourceLines_congr h).trans hlines) hbefore hline

theorem passes_or_endsWith (w : Workspace) (parse : String → Option String) (p : Path) :
    Passes w parse p ∨ ∃ r, EndsWith w parse p r := by
  cases hread : w.read p with
  | error e => exact .inr ⟨_, .unreadable hread⟩
  | ok content =>
    have hlines : sourceLines w p =
        .ok ((lines (Utf8.decodeLossy content)).map String.ofList) := by
      unfold sourceLines
      rw [hread]
      rfl
    cases hfirst : ((lines (Utf8.decodeLossy content)).map String.ofList).findSome? parse with
    | none => exact .inl ⟨_, hlines, List.findSome?_eq_none_iff.mp hfirst⟩
    | some found =>
      obtain ⟨before, line, after, hsplit, hline, hbefore⟩ :=
        List.findSome?_eq_some_iff.mp hfirst
      rw [hsplit] at hlines
      exact .inr ⟨_, .accepted hlines hbefore hline⟩

/-! ## The search goes on, or ends -/

theorem findFirst_of_passes (h : Passes w parse p) (ps : List Path) :
    findFirst w parse (p :: ps) = findFirst w parse ps := by
  obtain ⟨ls, hls, hnone⟩ := h
  have hfirst : ls.findSome? parse = none := List.findSome?_eq_none_iff.mpr hnone
  rw [findFirst, hls]
  simp only [bind, Except.bind, hfirst]

theorem findFirst_of_endsWith (h : EndsWith w parse p r) (ps : List Path) :
    findFirst w parse (p :: ps) = r := by
  rw [findFirst]
  cases h with
  | unreadable hread =>
    rw [sourceLines_of_error hread]
    rfl
  | @accepted before after line found hlines hbefore hline =>
    have hfirst : (before ++ line :: after).findSome? parse = some found :=
      List.findSome?_eq_some_iff.mpr ⟨before, line, after, rfl, hline, hbefore⟩
    rw [hlines]
    simp only [bind, Except.bind, hfirst]
    rfl

end File

/-! ## All files -/

section Files
variable {w : Workspace} {parse : String → Option String} {before files : List Path} {p : Path}
  {r : Except Failure (Option String)}

theorem findFirst_append (h : ∀ q ∈ before, Passes w parse q) (ps : List Path) :
    findFirst w parse (before ++ ps) = findFirst w parse ps := by
  induction before with
  | nil => rfl
  | cons q qs ih =>
    rw [List.cons_append, findFirst_of_passes (h q List.mem_cons_self)]
    exact ih fun s hs => h s (List.mem_cons_of_mem q hs)

theorem findFirst_append_cons (hbefore : ∀ q ∈ before, Passes w parse q)
    (hr : EndsWith w parse p r) (after : List Path) :
    findFirst w parse (before ++ p :: after) = r := by
  rw [findFirst_append hbefore, findFirst_of_endsWith hr]

theorem findFirst_skip (hp : Passes w parse p) (before after : List Path) :
    findFirst w parse (before ++ p :: after) = findFirst w parse (before ++ after) := by
  induction before with
  | nil => exact findFirst_of_passes hp after
  | cons q qs ih =>
    rw [List.cons_append, List.cons_append]
    rcases passes_or_endsWith w parse q with hq | ⟨r, hr⟩
    · rw [findFirst_of_passes hq, findFirst_of_passes hq, ih]
    · rw [findFirst_of_endsWith hr, findFirst_of_endsWith hr]

theorem exists_first (w : Workspace) (parse : String → Option String) (files : List Path) :
    (∀ p ∈ files, Passes w parse p) ∨
      ∃ before p after r, files = before ++ p :: after ∧ (∀ q ∈ before, Passes w parse q) ∧
        EndsWith w parse p r := by
  induction files with
  | nil => exact .inl nofun
  | cons q qs ih =>
    rcases passes_or_endsWith w parse q with hq | ⟨r, hr⟩
    · rcases ih with hall | ⟨before, p, after, r, rfl, hbefore, hr⟩
      · exact .inl (List.forall_mem_cons.mpr ⟨hq, hall⟩)
      · exact .inr ⟨q :: before, p, after, r, rfl, List.forall_mem_cons.mpr ⟨hq, hbefore⟩, hr⟩
    · exact .inr ⟨[], q, qs, r, rfl, nofun, hr⟩

theorem findFirst_of_forall (h : ∀ p ∈ files, Passes w parse p) :
    findFirst w parse files = .ok none := by
  have hall := findFirst_append h []
  rwa [List.append_nil] at hall

/-- A search that finds something, or fails, ends at one of the files. -/
theorem exists_end (h : findFirst w parse files = r) (hr : r ≠ .ok none) :
    ∃ before p after, files = before ++ p :: after ∧ EndsWith w parse p r := by
  rcases exists_first w parse files with hall | ⟨before, p, after, s, rfl, hbefore, hs⟩
  · rw [findFirst_of_forall hall] at h
    exact absurd h.symm hr
  · rw [findFirst_append_cons hbefore hs] at h
    rw [h] at hs
    exact ⟨before, p, after, rfl, hs⟩

theorem searchesInOrder_findFirst (parse : String → Option String) :
    SearchesInOrder parse fun w files => findFirst w parse files where
  cases_of_files w files := exists_first w parse files
  eq_none w files h := findFirst_of_forall h
  eq_of_endsWith w before p after r hbefore hr := findFirst_append_cons hbefore hr after
  eq_of_agreement w t before p after after' r hagree hbefore hr := by
    have hp : t.read p = w.read p := hagree p (by simp)
    have hbefore' : ∀ q ∈ before, Passes t parse q :=
      fun q hq => (hbefore q hq).congr (hagree q (List.mem_append_left _ hq))
    rw [findFirst_append_cons hbefore hr, findFirst_append_cons hbefore' (hr.congr hp)]
  eq_of_passes w before p after hp := findFirst_skip hp before after

end Files

/-! ## Lines that are not accepted -/

/-- An ID of zeros is none, not even for another plugin. -/
theorem scriptId?_of_zeros {name line : String} {other id : List Char} (hid : IsDigitRun id)
    (hzero : ¬ HasNonZeroDigit id) (hline : IsIdLine other id (chomp line.toList)) :
    scriptId? name line = none := by
  cases hfound : scriptId? name line with
  | none => rfl
  | some found =>
    obtain ⟨hfoundLine, hdigits, hnonzero⟩ := scriptId?_eq_some_iff.mp hfound
    rw [hfoundLine.id_unique hline hdigits hid] at hnonzero
    exact absurd hnonzero hzero

theorem scriptId?_of_other {name line : String} {other id : List Char}
    (hline : CarriesId other id line.toList) (hne : other ≠ name.toList)
    (hother : IsPlainName other) (hname : IsPlainName name.toList) :
    scriptId? name line = none := by
  cases hfound : scriptId? name line with
  | none => rfl
  | some found =>
    obtain ⟨hfoundLine, hdigits, -⟩ := scriptId?_eq_some_iff.mp hfound
    have hotherLine := exists_idLine_iff.mp hline.line_eq
    exact absurd (hotherLine.name_unique hfoundLine hline.digits hdigits hother hname) hne

theorem version?_of_other {name line : String} {other number : List Char}
    (hline : SetsVersion other number line.toList) (hne : other ≠ name.toList) :
    version? name line = none := by
  cases hfound : version? name line with
  | none => rfl
  | some found =>
    obtain ⟨number', hset, -⟩ := setsVersion_of_version? hfound
    exact absurd (hline.isVersionLine.name_unique hset.isVersionLine hline.digits hset.digits) hne

/-- Both searches are settled by the first file that cannot be read or has an accepted line, with
the failure to read it or with the first such line. Neither accepts, and so stops at, a line for
another plugin, an ID of zeros or a version of more than 64 bits. -/
theorem search_ends_at_first (name : String) :
    SearchesInOrder (scriptId? name) (fun w files => findScriptId w name files) ∧
    SearchesInOrder (version? name) (fun w files => findVersion w name files) ∧
    (∀ (line : String) other id, IsDigitRun id → ¬ HasNonZeroDigit id →
      (∃ s e, IsIdLine other id s ∧ IsLineEnd e ∧ line.toList = s ++ e) →
        scriptId? name line = none) ∧
    (∀ (line : String) other id, CarriesId other id line.toList → other ≠ name.toList →
      IsPlainName other → IsPlainName name.toList → scriptId? name line = none) ∧
    ∀ (line : String) other number, SetsVersion other number line.toList →
      other ≠ name.toList ∨ 2 ^ 64 ≤ decimalValue number → version? name line = none := by
  refine ⟨searchesInOrder_findFirst _, searchesInOrder_findFirst _, ?_, ?_, ?_⟩
  · intro line other id hid hzero hline
    exact scriptId?_of_zeros hid hzero (exists_idLine_iff.mp hline)
  · intro line other id hline hne hother hname
    exact scriptId?_of_other hline hne hother hname
  · intro line other number hline hbad
    by_cases hother : other = name.toList
    · rw [hother] at hline
      rcases hbad with hne | hlarge
      · exact absurd hother hne
      · exact version?_eq_none hline (.inr hlarge)
    · exact version?_of_other hline hother

/-- A file of zeros and other plugins, one with the ID, and one that is missing or that has
another ID. -/
theorem search_ends_at_first_of_missing_file :
    let zeros := "\" GetLatestVimScripts: 00 1 a.vim\n\" GetLatestVimScripts: 12 1 b.vim\n".toList
    let source := "let loaded_a = 105\n\" GetLatestVimScripts: 11 1 a.vim\n".toList
    let other := "\" GetLatestVimScripts: 13 1 a.vim".toList
    let w : Workspace := ⟨[([Utf8.ofText "z.vim"], .file (Utf8.encode zeros)),
      ([Utf8.ofText "a.vim"], .file (Utf8.encode source))], []⟩
    let t := w.insert [Utf8.ofText "c.vim"] (.file (Utf8.encode other))
    let files : List Path := ["z.vim", "a.vim", "c.vim"]
    w.read "c.vim" = .error .notFound ∧ findScriptId w "a" files = .ok (some "11") ∧
      findScriptId t "a" files = .ok (some "11") := by
  intro zeros source other w t files
  have hzeros : sourceLines w "z.vim" = .ok ((lines zeros).map String.ofList) :=
    sourceLines_of_read rfl
  have hsplit : (lines source).map String.ofList =
      ["let loaded_a = 105"] ++ ["\" GetLatestVimScripts: 11 1 a.vim"] := by decide
  have hsource : sourceLines w "a.vim" =
      .ok (["let loaded_a = 105"] ++ ["\" GetLatestVimScripts: 11 1 a.vim"]) := by
    rw [← hsplit]
    exact sourceLines_of_read rfl
  have hpasses : ∀ q ∈ [("z.vim" : Path)], Passes w (scriptId? "a") q :=
    List.forall_mem_singleton.mpr ⟨_, hzeros, by decide⟩
  have hends : EndsWith w (scriptId? "a") "a.vim" (.ok (some "11")) :=
    .accepted hsource (by decide) (by decide)
  have hagree : ∀ q ∈ [("z.vim" : Path)] ++ [("a.vim" : Path)], t.read q = w.read q :=
    List.forall_mem_cons.mpr ⟨rfl, List.forall_mem_singleton.mpr rfl⟩
  obtain ⟨hsearch, -⟩ := search_ends_at_first "a"
  have hfound : findScriptId w "a" files = .ok (some "11") :=
    hsearch.eq_of_endsWith w _ _ ["c.vim"] _ hpasses hends
  have hsame := hsearch.eq_of_agreement w t _ _ ["c.vim"] ["c.vim"] _ hagree hpasses hends
  exact ⟨rfl, hfound, hsame.trans hfound⟩

end PluginRelease.Marker
