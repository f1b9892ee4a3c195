import PluginRelease.Workspace.Tree

/-!
Writing a file touches no other place. A path that led somewhere before leads to the same
place afterwards, since no file was stood in on the way.
-/
namespace PluginRelease.Workspace
variable {w t : Workspace} {l k : Location} {content : Bytes} {p : Path}

/-- A place where a file may be written. -/
def IsFileOrFree (w : Workspace) (l : Location) : Prop :=
  w.find? l = none ∨ ∃ c, w.find? l = some (.file c)

theorem IsFileOrFree.ne_nil (h : w.IsFileOrFree l) : l ≠ [] := by
  rintro rfl
  rcases h with h | ⟨c, h⟩ <;> cases h

theorem IsFileOrFree.ne_of_stand (h : w.IsFileOrFree l) (hk : w.stand k = .ok ()) : k ≠ l := by
  rintro rfl
  unfold stand at hk
  rcases h with h | ⟨c, h⟩ <;> simp [h] at hk

/-- Two workspaces that differ at most in the file at one place. -/
structure SameBut (l : Location) (w t : Workspace) : Prop where
  here : t.here = w.here
  before : w.IsFileOrFree l
  after : t.IsFileOrFree l
  frame : ∀ k, k ≠ l → t.find? k = w.find? k

theorem sameBut_insert (hl : w.IsFileOrFree l) (content : Bytes) :
    SameBut l w (w.insert l (.file content)) where
  here := rfl
  before := hl
  after := .inr ⟨content, find?_insert_self w _ hl.ne_nil⟩
  frame _ hk := find?_insert_of_ne w _ hk

namespace SameBut

theorem symm (h : SameBut l w t) : SameBut l t w :=
  ⟨h.here.symm, h.after, h.before, fun k hk => (h.frame k hk).symm⟩

theorem stand (h : SameBut l w t) (hk : w.stand k = .ok ()) : t.stand k = .ok () := by
  have hne := h.before.ne_of_stand hk
  unfold Workspace.stand at hk ⊢
  rwa [h.frame k hne]

theorem stepInto (h : SameBut l w t) {piece : Bytes} {m : Location}
    (hk : w.stepInto k piece = .ok m) : t.stepInto k piece = .ok m := by
  unfold Workspace.stepInto at hk ⊢
  cases hstand : w.stand k with
  | error f =>
    rw [hstand] at hk
    cases hk
  | ok u =>
    rw [hstand] at hk
    rwa [h.stand hstand]

theorem walk (h : SameBut l w t) {pieces : List Bytes} {m : Location}
    (hk : w.walk k pieces = .ok m) : t.walk k pieces = .ok m := by
  induction pieces generalizing k with
  | nil => exact hk
  | cons piece rest ih =>
    unfold Workspace.walk at hk ⊢
    cases hstep : w.stepInto k piece with
    | error f =>
      rw [hstep] at hk
      cases hk
    | ok n =>
      rw [hstep] at hk
      rw [h.stepInto hstep]
      exact ih hk

theorem locate (h : SameBut l w t) {m : Location} (hm : w.locate p = .ok m) :
    t.locate p = .ok m := by
  unfold Workspace.locate at hm ⊢
  rw [h.here]
  split at hm
  · cases hm
  · next hnul =>
    rw [if_neg hnul]
    split at hm
    · cases hm
    · next hempty =>
      rw [if_neg hempty]
      split at hm
      · cases hm
      · next hlong =>
        rw [if_neg hlong]
        split at hm
        · next habsolute =>
          rw [if_pos habsolute]
          exact h.walk hm
        · next hrelative =>
          rw [if_neg hrelative]
          exact h.walk hm

end SameBut

theorem locate_insert (hl : w.IsFileOrFree l) {m : Location} (hm : w.locate p = .ok m)
    (content : Bytes) : (w.insert l (.file content)).locate p = .ok m :=
  (sameBut_insert hl content).locate hm

/-- Nothing is written to a path that ends in a slash. -/
theorem write_ne_ok_of_slash (h : p.bytes.getLast? = some Path.slash) :
    w.write p content ≠ .ok t := by
  intro hwrite
  unfold write at hwrite
  rw [if_pos (by simp [h])] at hwrite
  dsimp only at hwrite
  split at hwrite
  · cases hfolder : w.locate ⟨Text.dropEndWhile (· == Path.slash) p.bytes⟩ <;>
      simp [hfolder, bind, Except.bind] at hwrite
  · cases hwrite

/-- What a successful write does. -/
theorem write_eq (h : w.write p content = .ok t) :
    ∃ l, w.locate p = .ok l ∧ w.IsFileOrFree l ∧ t = w.insert l (.file content) := by
  have hslash : ¬ (p.bytes.getLast? == some Path.slash) = true := by
    intro hslash
    exact write_ne_ok_of_slash (beq_iff_eq.mp hslash) h
  unfold write at h
  rw [if_neg hslash] at h
  cases hlocate : w.locate p with
  | error f => simp [hlocate, bind, Except.bind] at h
  | ok l =>
    simp only [hlocate, bind, Except.bind] at h
    split at h
    · next hfree =>
      cases h
      exact ⟨l, rfl, .inl hfree, rfl⟩
    · next c hfile =>
      cases h
      exact ⟨l, rfl, .inr ⟨c, hfile⟩, rfl⟩
    · cases h

theorem entry_of_find? {e : Entry} (hl : w.locate p = .ok l) (he : w.find? l = some e) :
    w.entry p = .ok (l, e) := by
  unfold entry
  rw [hl]
  simp only [bind, Except.bind, he]
  rfl

theorem locate_of_entry {e : Entry} (h : w.entry p = .ok (l, e)) :
    w.locate p = .ok l ∧ w.find? l = some e := by
  unfold entry at h
  cases hlocate : w.locate p with
  | error f =>
    rw [hlocate] at h
    cases h
  | ok k =>
    rw [hlocate] at h
    simp only [bind, Except.bind] at h
    cases hfind : w.find? k with
    | none =>
      rw [hfind] at h
      cases h
    | some d =>
      rw [hfind] at h
      cases h
      exact ⟨rfl, hfind⟩

/-- What can be read is a file somewhere. -/
theorem exists_of_read (h : w.read p = .ok content) :
    ∃ l, w.locate p = .ok l ∧ w.find? l = some (.file content) := by
  unfold Workspace.read at h
  cases hentry : w.entry p with
  | error f =>
    rw [hentry] at h
    cases h
  | ok place =>
    obtain ⟨l, e⟩ := place
    rw [hentry] at h
    cases e with
    | file c =>
      cases h
      exact ⟨l, locate_of_entry hentry⟩
    | folder => cases h
    | repository history => cases h

theorem isFile_of_find? (hl : w.locate p = .ok l) (hf : w.find? l = some (.file content)) :
    w.isFile p = true := by
  unfold isFile
  rw [entry_of_find? hl hf]

theorem read_of_find? (hl : w.locate p = .ok l) (hf : w.find? l = some (.file content)) :
    w.read p = .ok content := by
  unfold Workspace.read
  rw [entry_of_find? hl hf]
  rfl

/-- Files are what can be read. -/
theorem isFile_iff : w.isFile p = true ↔ ∃ content, w.read p = .ok content := by
  constructor
  · intro h
    unfold isFile at h
    split at h
    · next l content hentry =>
      obtain ⟨hlocate, hfind⟩ := locate_of_entry hentry
      exact ⟨content, read_of_find? hlocate hfind⟩
    · cases h
  · rintro ⟨content, hread⟩
    obtain ⟨l, hlocate, hfind⟩ := exists_of_read hread
    exact isFile_of_find? hlocate hfind

namespace SameBut

theorem entry (h : SameBut l w t) {e : Entry} (hk : k ≠ l) (he : w.entry p = .ok (k, e)) :
    t.entry p = .ok (k, e) := by
  obtain ⟨hlocate, hfind⟩ := locate_of_entry he
  exact entry_of_find? (h.locate hlocate) ((h.frame k hk).trans hfind)

/-- What can be read elsewhere can still be read. -/
theorem read (h : SameBut l w t) (hp : w.locate p ≠ .ok l) (hread : w.read p = .ok content) :
    t.read p = .ok content := by
  obtain ⟨k, hlocate, hfind⟩ := exists_of_read hread
  have hk : k ≠ l := by
    rintro rfl
    exact hp hlocate
  exact read_of_find? (h.locate hlocate) ((h.frame k hk).trans hfind)

theorem isFile (h : SameBut l w t) (hp : w.locate p ≠ .ok l) (hfile : w.isFile p = true) :
    t.isFile p = true := by
  obtain ⟨content, hread⟩ := isFile_iff.mp hfile
  exact isFile_iff.mpr ⟨content, h.read hp hread⟩

theorem isFolder (h : SameBut l w t) (hp : w.isFolder p = true) : t.isFolder p = true := by
  unfold Workspace.isFolder at hp ⊢
  cases hentry : w.entry p with
  | error f =>
    rw [hentry] at hp
    cases hp
  | ok place =>
    obtain ⟨k, e⟩ := place
    rw [hentry] at hp
    have hk : k ≠ l := by
      rintro rfl
      obtain ⟨-, hfind⟩ := locate_of_entry hentry
      rcases h.before with hfree | ⟨c, hfile⟩
      · rw [hfree] at hfind
        cases hfind
      · rw [hfile] at hfind
        obtain rfl := Option.some.inj hfind
        cases hp
    rw [h.entry hk hentry]
    exact hp

end SameBut

/-- A path that led to a file still does after a file was written. -/
theorem isFile_insert {old : Bytes} (hl : w.IsFileOrFree l) (hk : w.locate p = .ok k)
    (hold : w.find? k = some (.file old)) : (w.insert l (.file content)).isFile p = true := by
  have hkept := locate_insert hl hk content
  by_cases hkl : k = l
  · rw [hkl] at hkept
    exact isFile_of_find? hkept (find?_insert_self w _ hl.ne_nil)
  · apply isFile_of_find? hkept
    rw [find?_insert_of_ne w _ hkl]
    exact hold

/-- The only difference between two workspaces is that a path now leads to this file. -/
structure Rewritten (w t : Workspace) (p : Path) (content : Bytes) : Prop where
  here : t.here = w.here
  read : t.read p = .ok content
  frame : ∃ l, w.locate p = .ok l ∧ t.find? l = some (.file content) ∧
    ∀ k, k ≠ l → t.find? k = w.find? k

theorem rewritten_of_write (h : w.write p content = .ok t) : Rewritten w t p content := by
  obtain ⟨l, hlocate, hl, rfl⟩ := write_eq h
  have hself := find?_insert_self w (.file content) hl.ne_nil
  exact ⟨rfl, read_of_find? (locate_insert hl hlocate _) hself, l, hlocate, hself,
    fun k hk => find?_insert_of_ne w (.file content) hk⟩

/-! ## Writing twice -/

end PluginRelease.Workspace
