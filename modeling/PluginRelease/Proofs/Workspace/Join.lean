import PluginRelease.Proofs.Workspace.Path
import PluginRelease.Proofs.Workspace.Write

/-!
Paths that are joined. A relative path behind another one is walked from the place where that
one leads.
-/
namespace PluginRelease

namespace Workspace
open Text PluginRelease.Path
variable {w : Workspace} {k l : Location} {base p : Path}

theorem walk_append (w : Workspace) (l : Location) (ps qs : List Bytes) :
    w.walk l (ps ++ qs) = w.walk l ps >>= fun k => w.walk k qs := by
  induction ps generalizing l with
  | nil => rfl
  | cons p ps ih =>
    rw [List.cons_append, walk, walk]
    cases w.stepInto l p with
    | error e => rfl
    | ok k => exact ih k

theorem stepInto_silent (hl : w.stand l = .ok ()) : w.stepInto l [] = .ok l := by
  unfold stepInto
  rw [hl]
  rfl

theorem stand_of_stepInto {piece : Bytes} (h : w.stepInto l piece = .ok k) :
    w.stand l = .ok () := by
  unfold stepInto at h
  cases hstand : w.stand l with
  | error e =>
    rw [hstand] at h
    cases h
  | ok u => rfl

/-- A path is walked from its first piece on, so it starts in a folder. -/
theorem stand_of_walk {s : Bytes} (h : w.walk l (splitOn slash s) = .ok k) :
    w.stand l = .ok () := by
  cases hs : splitOn slash s with
  | nil => exact absurd hs (splitOn_ne_nil slash s)
  | cons piece rest =>
    rw [hs, walk] at h
    cases hstep : w.stepInto l piece with
    | error e =>
      rw [hstep] at h
      cases h
    | ok m => exact stand_of_stepInto hstep

/-- Where the walk along a path begins. -/
def origin (w : Workspace) (p : Path) : Location := if p.isAbsolute then [] else w.here

/-- Bytes that the system takes for a path. -/
structure IsPathBytes (s : Bytes) : Prop where
  nul : 0 ∉ s
  ne_nil : s ≠ []
  length : s.length ≤ 4095

/-- A path is looked up by a walk from where it begins, if its bytes can be those of a path. -/
theorem locate_eq (w : Workspace) (p : Path) : w.locate p =
    if p.bytes.contains 0 then .error .nulInPath
    else if p.bytes.isEmpty then .error .notFound
    else if 4095 < p.bytes.length then .error .nameTooLong
    else w.walk (w.origin p) (splitOn slash p.bytes) := by
  have hroot (ps : List Bytes) : w.walk [] ([] :: ps) = w.walk [] ps := by
    rw [walk, stepInto_silent rfl]
    rfl
  have hwalk : (if p.isAbsolute then w.walk [] (splitOn slash p.bytes).tail
      else w.walk w.here (splitOn slash p.bytes)) =
      w.walk (w.origin p) (splitOn slash p.bytes) := by
    unfold origin
    split
    · next habsolute =>
      obtain ⟨s, hs⟩ := List.head?_eq_some_iff.mp (beq_iff_eq.mp habsolute)
      rw [hs, splitOn, if_pos rfl, List.tail_cons, hroot]
    · rfl
  rw [← hwalk]
  rfl

theorem locate_eq_ok_iff : w.locate p = .ok l ↔
    IsPathBytes p.bytes ∧ w.walk (w.origin p) (splitOn slash p.bytes) = .ok l := by
  rw [locate_eq]
  constructor
  · intro h
    split at h
    · cases h
    · next hnul =>
      split at h
      · cases h
      · next hempty =>
        split at h
        · cases h
        · next hlong => exact ⟨⟨by simpa using hnul, by simpa using hempty, by omega⟩, h⟩
  · rintro ⟨htext, h⟩
    have hlong : ¬ 4095 < p.bytes.length := Nat.not_lt.mpr htext.length
    rw [if_neg (by simpa using htext.nul), if_neg (by simpa using htext.ne_nil), if_neg hlong]
    exact h

theorem IsPathBytes.of_infix {s t : Bytes} (h : IsPathBytes s) (hts : t <:+: s) (ht : t ≠ []) :
    IsPathBytes t where
  nul hnul := h.nul (hts.subset hnul)
  ne_nil := ht
  length := by
    obtain ⟨a, b, rfl⟩ := hts
    have hlength := h.length
    simp only [List.length_append] at hlength ⊢
    omega

theorem origin_join (hp : p.isAbsolute = false) (hbase : base.bytes ≠ []) :
    w.origin (base.join p) = w.origin base := by
  obtain ⟨s, hjoin, hs⟩ := Path.exists_bytes_join hbase hp
  have hhead : (base.join p).bytes.head? = base.bytes.head? := by
    rw [hjoin]
    rcases hs with hs | hs <;> rw [hs] at hbase ⊢ <;> cases s <;> simp_all
  unfold origin Path.isAbsolute
  rw [hhead]

/-- A relative path that is joined to another is walked from where that one leads. -/
theorem exists_locate_of_join (hp : p.isAbsolute = false) (hbase : base.bytes ≠ [])
    (h : w.locate (base.join p) = .ok l) :
    ∃ k, w.locate base = .ok k ∧ w.walk k (splitOn slash p.bytes) = .ok l := by
  obtain ⟨s, hjoin, hs⟩ := Path.exists_bytes_join hbase hp
  obtain ⟨htext, hwalk⟩ := locate_eq_ok_iff.mp h
  rw [origin_join hp hbase, hjoin, splitOn_append_sep, walk_append] at hwalk
  cases hk : w.walk (w.origin base) (splitOn slash s) with
  | error e =>
    rw [hk] at hwalk
    cases hwalk
  | ok k =>
    rw [hk] at hwalk
    refine ⟨k, locate_eq_ok_iff.mpr ?_, hwalk⟩
    rw [hjoin] at htext
    rcases hs with hs | hs
    · rw [hs] at hbase ⊢
      exact ⟨htext.of_infix (List.prefix_append _ _).isInfix hbase, hk⟩
    · rw [hs] at hbase ⊢
      refine ⟨htext.of_infix ⟨[], p.bytes, by simp⟩ hbase, ?_⟩
      rw [splitOn_append_sep, walk_append, hk]
      change w.walk k [[]] = .ok k
      rw [walk, stepInto_silent (stand_of_walk hwalk)]
      rfl

theorem eq_here_of_locate_dot (h : w.locate "." = .ok k) : k = w.here := by
  obtain ⟨-, hwalk⟩ := locate_eq_ok_iff.mp h
  change w.walk w.here [[point]] = .ok k at hwalk
  have hstand : w.stand w.here = .ok () := stand_of_walk (s := [point]) hwalk
  rw [walk, stepInto, hstand] at hwalk
  exact (Except.ok.inj hwalk).symm

/-- Joining to a path that leads nowhere but to the current folder changes nothing. -/
theorem locate_of_join_here (hbase : ∀ k, w.locate base = .ok k → k = w.here)
    (hne : p.bytes ≠ []) (h : w.locate (base.join p) = .ok l) : w.locate p = .ok l := by
  by_cases hempty : base.bytes = []
  · have hjoin : base.join p = p := by simp [Path.join, hempty]
    rwa [hjoin] at h
  · cases hp : p.isAbsolute with
    | true => rwa [Path.join, if_pos hp] at h
    | false =>
      obtain ⟨k, hk, hwalk⟩ := exists_locate_of_join hp hempty h
      obtain rfl := hbase k hk
      obtain ⟨s, hjoin, -⟩ := Path.exists_bytes_join hempty hp
      have htext := (locate_eq_ok_iff.mp h).1
      rw [hjoin] at htext
      rw [locate_eq_ok_iff, origin, hp, if_neg (by decide)]
      exact ⟨htext.of_infix ⟨s ++ [slash], [], by simp⟩ hne, hwalk⟩

end Workspace
end PluginRelease
