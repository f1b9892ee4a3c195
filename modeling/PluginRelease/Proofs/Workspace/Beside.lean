import PluginRelease.Proofs.Failure
import PluginRelease.Proofs.Workspace.Join
import PluginRelease.Proofs.Workspace.Sibling

/-!
Places of siblings. A path with another last name leads to the same folder, and behind a folder it
leads to where it leads when seen from there.
-/
namespace PluginRelease

/-- A name that stands for a place of its own in a folder. -/
structure Path.IsPlain (x : Bytes) : Prop where
  slash : Path.slash ∉ x
  nul : 0 ∉ x
  silent : Path.isSilent x = false
  parent : x ≠ [Path.point, Path.point]

namespace Workspace
open Text PluginRelease.Path
variable {w : Workspace} {k l m : Location} {p q base : Path} {x name : Bytes}
  {ps : List Bytes} {outcome : Except SystemFault Location}

/-- A search ends at a place, unless a text on the way is too long for the system. -/
def EndsAt (outcome : Except SystemFault Location) (l : Location) : Prop :=
  outcome = .ok l ∨ outcome = .error .nameTooLong

theorem EndsAt.eq (h : EndsAt outcome l) (hm : outcome = .ok m) : m = l := by
  rcases h with h | h <;> cases hm.symm.trans h
  rfl

theorem EndsAt.bind {next : Location → Except SystemFault Location} (h : EndsAt outcome l)
    (hnext : next l = .ok k) : EndsAt (outcome >>= next) k := by
  rcases h with rfl | rfl
  · exact .inl hnext
  · exact .inr rfl

def LeadsTo (w : Workspace) (p : Path) (l : Location) : Prop := EndsAt (w.locate p) l

/-! ## Walks -/

theorem eq_of_stepInto_silent (hs : isSilent x = true) (h : w.stepInto l x = .ok m) : m = l := by
  obtain ⟨-, -, h⟩ := exists_of_bind h
  split at h
  · cases h
  · exact (Except.ok.inj h).symm

theorem stepInto_plain (hx : IsPlain x) (hl : w.stand l = .ok ()) :
    EndsAt (w.stepInto l x) (l ++ [x]) := by
  have hstep : w.stepInto l x =
      if 255 < x.length then .error .nameTooLong else .ok (l ++ [x]) := by
    unfold stepInto
    rw [hl, hx.silent, if_neg hx.parent]
    rfl
  rw [hstep]
  split
  · exact .inr rfl
  · exact .inl rfl

theorem eq_of_walk_silent (hs : ∀ s ∈ ps, isSilent s = true) (h : w.walk l ps = .ok m) :
    m = l := by
  induction ps generalizing l with
  | nil => exact (Except.ok.inj h).symm
  | cons s ps ih =>
    obtain ⟨k, hk, h⟩ := exists_of_bind h
    rw [ih (fun t ht => hs t (.tail _ ht)) h, eq_of_stepInto_silent (hs s (.head _)) hk]

/-- A walk along a path comes through the folder that a sibling of its last name is looked up in. -/
theorem exists_walk_sibling (hname : p.fileName? = some name) (hplain : IsPlain name)
    (hx : IsPlain x) (h : w.walk l (splitOn slash p.bytes) = .ok m) : ∃ folder,
      m = folder ++ [name] ∧
        EndsAt (w.walk l (splitOn slash (p.sibling x).bytes)) (folder ++ [x]) := by
  obtain ⟨folders, silent, trailing, hsilent, htrailing, hp, hsibling⟩ :=
    exists_splitOn_sibling hname hx.slash
  rw [hp, List.append_assoc, walk_append] at h
  obtain ⟨folder, hfolder, hbelow⟩ := exists_of_bind h
  rw [walk_append] at hbelow
  obtain ⟨k, hk, hlast⟩ := exists_of_bind hbelow
  rw [eq_of_walk_silent hsilent hk] at hlast
  obtain ⟨n, hstep, hend⟩ := exists_of_bind hlast
  have hstand := stand_of_stepInto hstep
  refine ⟨folder, ?_, ?_⟩
  · rw [eq_of_walk_silent htrailing hend]
    exact (stepInto_plain hplain hstand).eq hstep
  · rw [hsibling, walk_append, hfolder]
    exact (stepInto_plain hx hstand).bind rfl

/-! ## Paths -/

theorem leadsTo_iff : w.LeadsTo p l ↔ 0 ∉ p.bytes ∧ p.bytes ≠ [] ∧
    (4095 < p.bytes.length ∨
      EndsAt (w.walk (w.origin p) (splitOn slash p.bytes)) l) := by
  unfold LeadsTo
  rw [locate_eq]
  by_cases hnul : 0 ∈ p.bytes
  · simp [EndsAt, hnul]
  · by_cases hempty : p.bytes = []
    · simp [EndsAt, hempty]
    · by_cases hlong : 4095 < p.bytes.length
      · simp [EndsAt, hnul, hempty, hlong]
      · simp [hnul, hempty, hlong]

theorem isPlain_of_locate (hname : p.fileName? = some name) (h : w.locate p = .ok l) :
    IsPlain name := by
  obtain ⟨above, trailing, -, hparts, -, hsilent, hparent⟩ := exists_of_fileName? hname
  obtain ⟨htext, -⟩ := locate_eq_ok_iff.mp h
  have hpiece : name ∈ splitOn slash p.bytes := by
    rw [splitOn_eq_parts (bytes_ne_nil_of_fileName? hname), hparts]
    simp
  exact ⟨fun hc => (mem_of_mem_splitOn hpiece hc).2 rfl,
    fun hc => htext.nul (mem_of_mem_splitOn hpiece hc).1, hsilent, hparent⟩

theorem exists_folder_of_locate (hname : p.fileName? = some name) (h : w.locate p = .ok m) :
    ∃ folder, m = folder ++ [name] := by
  have hplain := isPlain_of_locate hname h
  obtain ⟨folder, hm, -⟩ :=
    exists_walk_sibling hname hplain hplain (locate_eq_ok_iff.mp h).2
  exact ⟨folder, hm⟩

/-- A sibling lies in the folder of its path. -/
theorem leadsTo_sibling (hname : p.fileName? = some name) (hx : IsPlain x)
    (h : w.locate p = .ok (l ++ [name])) : w.LeadsTo (p.sibling x) (l ++ [x]) := by
  obtain ⟨htext, hwalk⟩ := locate_eq_ok_iff.mp h
  obtain ⟨folder, hm, hends⟩ :=
    exists_walk_sibling hname (isPlain_of_locate hname h) hx hwalk
  obtain rfl := List.append_cancel_right hm
  obtain ⟨folders, silent, trailing, -, -, hp, hsibling⟩ := exists_splitOn_sibling hname hx.slash
  refine leadsTo_iff.mpr ⟨?_, ?_, .inr ?_⟩
  · intro hnul
    rw [← joinWith_splitOn slash (p.sibling x).bytes, hsibling] at hnul
    rcases mem_joinWith hnul with hslash | ⟨piece, hpiece, hnul⟩
    · exact absurd hslash (by decide)
    · rcases List.mem_append.mp hpiece with hpiece | hpiece
      · exact htext.nul (mem_of_mem_splitOn (by rw [hp]; simp [hpiece]) hnul).1
      · rw [List.mem_singleton.mp hpiece] at hnul
        exact hx.nul hnul
  · intro hempty
    rw [hempty] at hsibling
    have hlast := congrArg List.getLast? hsibling
    rw [List.getLast?_concat] at hlast
    have hsilent := hx.silent
    rw [← Option.some.inj hlast] at hsilent
    cases hsilent
  · rw [origin, isAbsolute_sibling hname hx.slash]
    exact hends

theorem walk_from (w : Workspace) (here l : Location) (ps : List Bytes) :
    walk { w with here } l ps = w.walk l ps := by
  induction ps generalizing l with
  | nil => rfl
  | cons s ps ih =>
    rw [walk, walk, funext ih]
    rfl

/-- A relative path behind a folder leads to where it leads when seen from that folder. -/
theorem leadsTo_join (hq : q.isAbsolute = false) (hbase : w.locate base = .ok k)
    (h : LeadsTo { w with here := k } q l) : w.LeadsTo (base.join q) l := by
  obtain ⟨htext, hwalk⟩ := locate_eq_ok_iff.mp hbase
  obtain ⟨hnul, -, hends⟩ := leadsTo_iff.mp h
  have hne : base.bytes ≠ [] := htext.ne_nil
  obtain ⟨s, hjoin, hs⟩ := exists_bytes_join hne hq
  have hfolder : w.walk (w.origin base) (splitOn slash s) = .ok k := by
    rcases hs with hs | hs
    · rwa [hs] at hwalk
    · rw [hs, splitOn_append_sep, walk_append] at hwalk
      obtain ⟨m, hm, hslash⟩ := exists_of_bind hwalk
      rwa [eq_of_walk_silent (by simp [splitOn, isSilent]) hslash]
  refine leadsTo_iff.mpr ⟨?_, ?_, ?_⟩
  · rw [hjoin]
    have hbase := htext.nul
    have hzero : 0 ≠ slash := by decide
    rcases hs with hs | hs <;> simp_all
  · intro hempty
    simp [hempty] at hjoin
  · rw [origin_join hq hne, hjoin, splitOn_append_sep, walk_append, hfolder]
    rcases hends with hlong | hends
    · left
      rw [List.length_append, List.length_cons]
      omega
    · right
      rw [walk_from, origin, hq] at hends
      exact hends

/-- A path leads to the same place behind the current folder, and an absolute one behind any. -/
theorem leadsTo_join_here (h : w.LeadsTo p l)
    (hbase : p.isAbsolute = true ∨ base.bytes = [] ∨ w.locate base = .ok w.here) :
    w.LeadsTo (base.join p) l := by
  cases hp : p.isAbsolute with
  | true => rwa [Path.join, if_pos hp]
  | false =>
    rcases hbase with habsolute | hempty | hhere
    · rw [hp] at habsolute
      cases habsolute
    · have hjoin : base.join p = p := by simp [Path.join, hempty]
      rwa [hjoin]
    · exact leadsTo_join hp hhere h

end Workspace
end PluginRelease
