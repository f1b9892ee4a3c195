import PluginRelease.Proofs.Workspace.Path

/-!
Paths of siblings. A name put in the place of the last name of a path leads to the same folder, also
where the path is seen from another folder than the current one.
-/
namespace PluginRelease

namespace Path
open Text
variable {p : Path} {name x : Bytes} {folders : List Bytes}

/-- The piece that a start stands for. -/
def Start.pieces : Start → List Bytes
  | .root => [[]]
  | .dot => [[point]]
  | .name => []

theorem splitOn_eq_parts (h : p.bytes ≠ []) :
    splitOn slash p.bytes = p.parts.1.pieces ++ p.parts.2 := by
  have hne : splitOn slash p.bytes ≠ [[]] := by
    intro hsplit
    have hjoin := joinWith_splitOn slash p.bytes
    rw [hsplit] at hjoin
    exact h hjoin.symm
  unfold parts
  split
  · next hsplit => exact absurd hsplit (splitOn_ne_nil _ _)
  · next hsplit => exact absurd hsplit hne
  · next hsplit => exact hsplit
  · next first ps hfirst hsplit =>
    rw [hsplit]
    split
    · next hdot =>
      rw [hdot]
      rfl
    · rfl

/-- A path that starts with a name starts with no empty piece. -/
theorem head?_parts_of_name (h : p.parts.1 = .name) (hne : p.bytes ≠ []) :
    p.parts.2.head? ≠ some [] := by
  intro hhead
  have hsplit := splitOn_eq_parts hne
  obtain ⟨ps, hps⟩ := List.head?_eq_some_iff.mp hhead
  rw [h, hps] at hsplit
  change splitOn slash p.bytes = [] :: ps at hsplit
  unfold parts at h hps
  rw [hsplit] at h hps
  cases ps with
  | nil => cases hps
  | cons q qs => cases h

theorem isAbsolute_iff : p.isAbsolute = true ↔
    ∃ q qs, splitOn slash p.bytes = [] :: q :: qs := by
  unfold isAbsolute
  cases p.bytes with
  | nil => simp [splitOn]
  | cons c cs =>
    rw [splitOn, List.head?_cons, beq_iff_eq, Option.some.injEq]
    split
    · next hc =>
      obtain ⟨q, qs, hq⟩ := List.exists_cons_of_ne_nil (splitOn_ne_nil slash cs)
      simp [hc, hq]
    · next hc =>
      cases hq : splitOn slash cs with
      | nil => exact absurd hq (splitOn_ne_nil slash cs)
      | cons q qs => simp [hc]

/-- A path with a last name ends in it, but for pieces that name nothing. -/
theorem exists_of_fileName? (h : p.fileName? = some name) : ∃ folders trailing,
    p.named = folders ++ [name] ∧ p.parts.2 = folders ++ name :: trailing ∧
    (∀ s ∈ trailing, isSilent s = true) ∧ isSilent name = false ∧ name ≠ [point, point] := by
  obtain ⟨hlast, hparent⟩ := Option.filter_eq_some_iff.mp h
  obtain ⟨folders, hnamed⟩ := List.getLast?_eq_some_iff.mp hlast
  obtain ⟨trailing, hparts, htrailing⟩ := exists_dropEndWhile_append isSilent p.parts.2
  refine ⟨folders, trailing, hnamed, ?_, htrailing, getLast?_dropEndWhile hlast,
    of_decide_eq_true hparent⟩
  rw [named] at hnamed
  rw [hnamed, List.append_assoc] at hparts
  exact hparts

theorem isAbsolute_mk (hx : slash ∉ x) : isAbsolute ⟨x⟩ = false := by
  unfold isAbsolute
  cases x with
  | nil => rfl
  | cons c cs =>
    rw [List.mem_cons, not_or] at hx
    simp [Ne.symm hx.1]

/-- A name behind a path that does not end in a slash is one more piece. -/
theorem splitOn_join {base : Path} {ps : List Bytes} (hne : ps ≠ [])
    (hps : ∀ p ∈ ps, slash ∉ p) (hlast : ps.getLast? ≠ some [])
    (hbase : base.bytes = joinWith [slash] ps) (hx : slash ∉ x) :
    splitOn slash (base.join ⟨x⟩).bytes = ps ++ [x] := by
  have hsplit := splitOn_joinWith hne hps
  rw [← hbase] at hsplit
  have htext : base.bytes ≠ [] := by
    intro hempty
    rw [hempty] at hsplit
    exact hlast (by rw [← hsplit]; rfl)
  obtain ⟨s, hjoin, hs⟩ := exists_bytes_join htext (isAbsolute_mk hx)
  rw [hjoin, splitOn_append_sep, splitOn_of_not_mem hx]
  rcases hs with hs | hs
  · rw [← hs, hsplit]
  · rw [hs, splitOn_append_sep] at hsplit
    rw [← hsplit] at hlast
    exact absurd List.getLast?_concat hlast

/-- A folder that is put together from pieces, with a name behind it, is cut into these pieces. -/
theorem splitOn_assemble_join (start : Start) (hfolders : ∀ f ∈ folders, slash ∉ f)
    (hlast : folders.getLast? ≠ some []) (hx : slash ∉ x) :
    splitOn slash ((assemble start folders).join ⟨x⟩).bytes =
      start.pieces ++ folders ++ [x] := by
  have hdot : slash ≠ point := by decide
  cases folders with
  | nil =>
    cases start with
    | root => simp [join, assemble, isAbsolute_mk hx, joinWith, splitOn, Start.pieces,
        splitOn_of_not_mem hx]
    | dot =>
      apply splitOn_join (by simp [Start.pieces]) (by simp [Start.pieces, hdot])
        (by simp [Start.pieces]) _ hx
      simp [assemble, joinWith, Start.pieces]
    | name => simp [join, assemble, isAbsolute_mk hx, joinWith, Start.pieces,
        splitOn_of_not_mem hx]
  | cons f fs =>
    cases start with
    | root =>
      apply splitOn_join (by simp [Start.pieces]) (by simpa [Start.pieces] using hfolders)
        (by simpa [Start.pieces] using hlast) _ hx
      simp [assemble, joinWith, Start.pieces]
    | dot =>
      apply splitOn_join (by simp [Start.pieces]) (by simpa [Start.pieces, hdot] using hfolders)
        (by simpa [Start.pieces] using hlast) _ hx
      simp [assemble, joinWith, Start.pieces]
    | name =>
      apply splitOn_join (by simp) hfolders hlast _ hx
      simp [assemble]

/-- A name in the place of the last name of a path. -/
def sibling (p : Path) (x : Bytes) : Path := (p.parent?.getD ⟨[]⟩).join ⟨x⟩

theorem bytes_ne_nil_of_fileName? (h : p.fileName? = some name) : p.bytes ≠ [] := by
  obtain ⟨above, trailing, -, hparts, -⟩ := exists_of_fileName? h
  intro hempty
  have hnil : p.parts.2 = [] := by simp [parts, hempty, splitOn]
  simp [hnil] at hparts

theorem parent?_of_named {above : List Bytes} (h : p.named = above ++ [name]) :
    p.parent? = some (assemble p.parts.1 (dropEndWhile isSilent above)) := by
  unfold parent?
  rw [h]
  split
  · next hempty _ => simp at hempty
  · next hempty _ => simp at hempty
  · rw [List.dropLast_concat]

theorem splitOn_sibling {above trailing : List Bytes} (hnamed : p.named = above ++ [name])
    (hparts : p.parts.2 = above ++ name :: trailing) (hne : p.bytes ≠ []) (hx : slash ∉ x) :
    splitOn slash (p.sibling x).bytes =
      p.parts.1.pieces ++ dropEndWhile isSilent above ++ [x] := by
  rw [sibling, parent?_of_named hnamed, Option.getD_some]
  apply splitOn_assemble_join _ _ _ hx
  · intro f hf hslash
    have hpiece : f ∈ splitOn slash p.bytes := by
      obtain ⟨silent, habove, -⟩ := exists_dropEndWhile_append isSilent above
      rw [splitOn_eq_parts hne, hparts, habove]
      simp [hf]
    exact (mem_of_mem_splitOn hpiece hslash).2 rfl
  · intro hlast
    exact absurd (getLast?_dropEndWhile hlast) (by decide)

theorem isAbsolute_iff_root {q : Path} {start : Start} {ps : List Bytes}
    (hsplit : splitOn slash q.bytes = start.pieces ++ ps) (hne : ps ≠ [])
    (hname : start = .name → ∀ r rs, ps ≠ [] :: r :: rs) : q.isAbsolute = true ↔ start = .root := by
  rw [isAbsolute_iff, hsplit]
  cases start with
  | root =>
    obtain ⟨r, rs, rfl⟩ := List.exists_cons_of_ne_nil hne
    simp [Start.pieces]
  | dot => simp [Start.pieces]
  | name => simpa [Start.pieces] using hname rfl

theorem isAbsolute_sibling (h : p.fileName? = some name) (hx : slash ∉ x) :
    (p.sibling x).isAbsolute = p.isAbsolute := by
  obtain ⟨above, trailing, hnamed, hparts, -, -, -⟩ := exists_of_fileName? h
  obtain ⟨silent, habove, -⟩ := exists_dropEndWhile_append isSilent above
  have hne := bytes_ne_nil_of_fileName? h
  have hsplit := splitOn_sibling hnamed hparts hne hx
  rw [List.append_assoc] at hsplit
  rw [Bool.eq_iff_iff, isAbsolute_iff_root hsplit (by simp),
    isAbsolute_iff_root (splitOn_eq_parts hne) (by simp [hparts])]
  · intro hstart r rs hps
    exact head?_parts_of_name hstart hne (by rw [hps]; rfl)
  · intro hstart r rs hps
    apply head?_parts_of_name hstart hne
    cases hfolders : dropEndWhile isSilent above with
    | nil => simp [hfolders] at hps
    | cons f fs =>
      rw [hfolders] at hps habove
      rw [hparts, habove, (List.cons.inj hps).1]
      rfl

/-- A path and that of a sibling have their first pieces in common. -/
theorem exists_splitOn_sibling (h : p.fileName? = some name) (hx : slash ∉ x) :
    ∃ folders silent trailing, (∀ s ∈ silent, isSilent s = true) ∧
      (∀ s ∈ trailing, isSilent s = true) ∧
      splitOn slash p.bytes = folders ++ silent ++ name :: trailing ∧
      splitOn slash (p.sibling x).bytes = folders ++ [x] := by
  obtain ⟨above, trailing, hnamed, hparts, htrailing, -, -⟩ := exists_of_fileName? h
  obtain ⟨silent, habove, hsilent⟩ := exists_dropEndWhile_append isSilent above
  have hne := bytes_ne_nil_of_fileName? h
  refine ⟨p.parts.1.pieces ++ dropEndWhile isSilent above, silent, trailing, hsilent, htrailing,
    ?_, splitOn_sibling hnamed hparts hne hx⟩
  rw [splitOn_eq_parts hne, hparts]
  simp [← habove]

end Path
end PluginRelease
