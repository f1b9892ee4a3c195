import PluginRelease.Html.Draft.Basic

/-!
How the nodes of a draft hang together. The children of a node and the parents of its children tell
the same, whatever is added, taken out or put elsewhere.
-/
namespace PluginRelease.Html.Draft
variable {d e : Draft} {i j k p q : Nat} {c : Content} {place : Place}

/-- Children and parents tell the same, and no text has children. -/
structure Linked (d : Draft) : Prop where
  mem_children_iff : ∀ p i, i ∈ (d.children p).toList ↔ d.parent? i = some p
  nodup : ∀ p, (d.children p).toList.Nodup
  holds : ∀ i p s, d.parent? i = some p → d.content? p ≠ some (.text s)

/-! ## Entries in range -/

theorem content?_eq_none_iff : d.content? i = none ↔ d.entries.size ≤ i := by
  rw [content?, Option.map_eq_none_iff, Array.getElem?_eq_none_iff]

theorem lt_of_content? (h : d.content? i = some c) : i < d.entries.size := by
  rw [← Nat.not_le, ← content?_eq_none_iff, h]
  exact Option.some_ne_none c

theorem lt_of_parent? (h : d.parent? i = some p) : i < d.entries.size := by
  obtain ⟨e, he, -⟩ := Option.bind_eq_some_iff.mp h
  exact (Array.getElem?_eq_some_iff.mp he).1

theorem lt_of_inside? (h : d.inside? i = some p) : i < d.entries.size := by
  obtain ⟨e, he, -⟩ := Option.bind_eq_some_iff.mp h
  exact (Array.getElem?_eq_some_iff.mp he).1

theorem parent?_of_le (h : d.entries.size ≤ i) : d.parent? i = none := by
  rw [parent?, Array.getElem?_eq_none h, Option.bind_none]

theorem lt_of_mem_children (h : i ∈ (d.children p).toList) : p < d.entries.size := by
  unfold children at h
  cases he : d.entries[p]? with
  | none => simp [he] at h
  | some e => exact (Array.getElem?_eq_some_iff.mp he).1

theorem Linked.lt_parent (h : Linked d) (hp : d.parent? i = some p) : p < d.entries.size :=
  lt_of_mem_children ((h.mem_children_iff p i).mpr hp)

theorem lt_of_name? {n : ElementName} (h : d.name? i = some n) : i < d.entries.size := by
  unfold name? at h
  cases hc : d.content? i with
  | none => simp [hc] at h
  | some c => exact lt_of_content? hc

theorem name?_eq_some_iff {n : ElementName} :
    d.name? i = some n ↔ ∃ attributes, d.content? i = some (.element n attributes) := by
  unfold name?
  split
  · next hc => simp [hc]
  · next hc =>
    simp only [reduceCtorEq, false_iff, not_exists]
    rintro attributes h
    exact hc n attributes h

/-! ## Drafts with the same entries -/

section
variable (h : e.entries = d.entries)
include h

theorem content?_congr : e.content? = d.content? := by
  funext i
  rw [content?, content?, h]

theorem parent?_congr : e.parent? = d.parent? := by
  funext i
  rw [parent?, parent?, h]

theorem children_congr : e.children = d.children := by
  funext i
  rw [children, children, h]

theorem inside?_congr : e.inside? = d.inside? := by
  funext i
  rw [inside?, inside?, h]

theorem Linked.congr (hd : Linked d) : Linked e where
  mem_children_iff p i := by rw [children_congr h, parent?_congr h, hd.mem_children_iff]
  nodup p := by
    rw [children_congr h]
    exact hd.nodup p
  holds i p s hp := by
    rw [parent?_congr h] at hp
    rw [content?_congr h]
    exact hd.holds i p s hp

end

/-- Two drafts that differ in their entries alone. -/
def Rewired (d e : Draft) : Prop := ∃ entries, e = { d with entries }

theorem Rewired.refl (d : Draft) : Rewired d d := ⟨d.entries, rfl⟩

theorem Rewired.trans {f : Draft} (h : Rewired d e) (h' : Rewired e f) : Rewired d f := by
  obtain ⟨es, rfl⟩ := h
  obtain ⟨fs, rfl⟩ := h'
  exact ⟨fs, rfl⟩

theorem Rewired.add (d : Draft) (c : Content) : Rewired d (d.add c).1 := ⟨_, rfl⟩

theorem Rewired.modify (d : Draft) (i : Nat) (f : Entry → Entry) : Rewired d (d.modify i f) :=
  ⟨_, rfl⟩

theorem Rewired.detach (d : Draft) (i : Nat) : Rewired d (d.detach i) := by
  unfold Draft.detach
  split
  · exact .refl d
  · exact (Rewired.modify _ _ _).trans (.modify _ _ _)

theorem Rewired.attach (d : Draft) (i : Nat) (place : Place) : Rewired d (d.attach i place) := by
  cases place <;> exact (Rewired.modify _ _ _).trans (.modify _ _ _)

theorem Rewired.moveChildren (d : Draft) (i j : Nat) : Rewired d (d.moveChildren i j) := by
  rw [Draft.moveChildren, ← Array.foldl_toList]
  refine List.foldlRecOn _ _ (.refl d) fun e he k _ => ?_
  exact he.trans ((Rewired.detach e k).trans (.attach _ k _))

section
variable (h : Rewired d e)
include h

theorem Rewired.head : e.head = d.head := by
  obtain ⟨_, rfl⟩ := h
  rfl

theorem Rewired.stack : e.stack = d.stack := by
  obtain ⟨_, rfl⟩ := h
  rfl

theorem Rewired.formatting : e.formatting = d.formatting := by
  obtain ⟨_, rfl⟩ := h
  rfl

theorem Rewired.form : e.form = d.form := by
  obtain ⟨_, rfl⟩ := h
  rfl

theorem Rewired.mode : e.mode = d.mode := by
  obtain ⟨_, rfl⟩ := h
  rfl

theorem Rewired.templateModes : e.templateModes = d.templateModes := by
  obtain ⟨_, rfl⟩ := h
  rfl

theorem Rewired.fostering : e.fostering = d.fostering := by
  obtain ⟨_, rfl⟩ := h
  rfl

end

/-! ## New entries -/

@[simp] theorem size_add (d : Draft) (c : Content) :
    (d.add c).1.entries.size = d.entries.size + 1 :=
  Array.size_push _

@[simp] theorem add_snd (d : Draft) (c : Content) : (d.add c).2 = d.entries.size := rfl

theorem content?_add (d : Draft) (c : Content) (i : Nat) :
    (d.add c).1.content? i = if i = d.entries.size then some c else d.content? i := by
  simp only [content?, add, Array.getElem?_push]
  split <;> rfl

/-- A new entry has no links, as if it were not there. -/
theorem read_add {α : Type} (g : Option Entry → α) (hg : g (some ⟨c, none, #[], none⟩) = g none)
    (d : Draft) (i : Nat) : g (d.add c).1.entries[i]? = g d.entries[i]? := by
  rw [add, Array.getElem?_push]
  split
  · next h => rw [h, Array.getElem?_eq_none (Nat.le_refl _), hg]
  · rfl

theorem parent?_add (d : Draft) (c : Content) (i : Nat) :
    (d.add c).1.parent? i = d.parent? i :=
  read_add (Option.bind · Entry.parent) rfl d i

theorem children_add (d : Draft) (c : Content) (i : Nat) :
    (d.add c).1.children i = d.children i :=
  read_add (fun e => (e.map Entry.children).getD #[]) rfl d i

theorem inside?_add (d : Draft) (c : Content) (i : Nat) :
    (d.add c).1.inside? i = d.inside? i :=
  read_add (Option.bind · Entry.inside) rfl d i

theorem Linked.add (h : Linked d) (c : Content) : Linked (d.add c).1 where
  mem_children_iff p i := by rw [children_add, parent?_add, h.mem_children_iff]
  nodup p := by
    rw [children_add]
    exact h.nodup p
  holds i p s hp := by
    rw [parent?_add] at hp
    rw [content?_add, if_neg (Nat.ne_of_lt (h.lt_parent hp))]
    exact h.holds i p s hp

/-! ## Changes of one entry -/

@[simp] theorem size_modify (d : Draft) (i : Nat) (f : Entry → Entry) :
    (d.modify i f).entries.size = d.entries.size :=
  Array.size_modify

theorem getElem?_modify (d : Draft) (i : Nat) (f : Entry → Entry) (j : Nat) :
    (d.modify i f).entries[j]? =
      if i = j then Option.map f d.entries[j]? else d.entries[j]? :=
  Array.getElem?_modify

variable {f : Entry → Entry}

/-- What does not tell an entry from the changed one is as before. -/
theorem read_modify {α : Type} (g : Option Entry → α) (hg : ∀ e, g (some (f e)) = g (some e))
    (d : Draft) (i j : Nat) : g (d.modify i f).entries[j]? = g d.entries[j]? := by
  rw [getElem?_modify]
  split
  · cases d.entries[j]? with
    | none => rfl
    | some e => exact hg e
  · rfl

theorem content?_modify (h : ∀ e, (f e).content = e.content) (d : Draft) (i j : Nat) :
    (d.modify i f).content? j = d.content? j :=
  read_modify (Option.map Entry.content) (fun e => congrArg some (h e)) d i j

theorem parent?_modify (h : ∀ e, (f e).parent = e.parent) (d : Draft) (i j : Nat) :
    (d.modify i f).parent? j = d.parent? j :=
  read_modify (Option.bind · Entry.parent) h d i j

theorem children_modify (h : ∀ e, (f e).children = e.children) (d : Draft) (i j : Nat) :
    (d.modify i f).children j = d.children j :=
  read_modify (fun e => (e.map Entry.children).getD #[]) h d i j

theorem inside?_modify (h : ∀ e, (f e).inside = e.inside) (d : Draft) (i j : Nat) :
    (d.modify i f).inside? j = d.inside? j :=
  read_modify (Option.bind · Entry.inside) h d i j

/-- A node with another parent, or none. -/
def setParent (d : Draft) (i : Nat) (p : Option Nat) : Draft :=
  d.modify i fun e => { e with parent := p }

def setChildren (d : Draft) (p : Nat) (f : Array Nat → Array Nat) : Draft :=
  d.modify p fun e => { e with children := f e.children }

/-- A node with another root of what it holds besides children. -/
def setInside (d : Draft) (i : Nat) (r : Option Nat) : Draft :=
  d.modify i fun e => { e with inside := r }

/-- What a change sets is read of the changed entry alone. -/
theorem read_set {α : Type} (g : Option Entry → α) (v : α) (hg : ∀ e, g (some (f e)) = v)
    (d : Draft) (i j : Nat) : g (d.modify i f).entries[j]? =
      if i = j ∧ j < d.entries.size then v else g d.entries[j]? := by
  rw [getElem?_modify]
  by_cases hi : i = j
  · by_cases hj : j < d.entries.size
    · rw [if_pos hi, if_pos ⟨hi, hj⟩, Array.getElem?_eq_getElem hj]
      exact hg _
    · rw [if_pos hi, if_neg fun h => hj h.2, Array.getElem?_eq_none (Nat.not_lt.mp hj),
        Option.map_none]
  · rw [if_neg hi, if_neg fun h => hi h.1]

theorem parent?_setParent (d : Draft) (i : Nat) (p : Option Nat) (j : Nat) :
    (d.setParent i p).parent? j =
      if i = j ∧ j < d.entries.size then p else d.parent? j :=
  read_set (f := fun e => { e with parent := p }) (Option.bind · Entry.parent) p
    (fun _ => rfl) d i j

theorem children_setChildren (d : Draft) (p : Nat) (f : Array Nat → Array Nat) (q : Nat) :
    (d.setChildren p f).children q =
      if p = q ∧ q < d.entries.size then f (d.children q) else d.children q := by
  rw [children, setChildren, getElem?_modify, children]
  by_cases h : p = q
  · by_cases hq : q < d.entries.size
    · simp [h, hq]
    · simp [h, hq]
  · simp [h]

@[simp] theorem children_setParent (d : Draft) (i : Nat) (p : Option Nat) (q : Nat) :
    (d.setParent i p).children q = d.children q := by
  rw [setParent, children_modify]
  exact fun _ => rfl

@[simp] theorem parent?_setChildren (d : Draft) (p : Nat) (f : Array Nat → Array Nat) (i : Nat) :
    (d.setChildren p f).parent? i = d.parent? i := by
  rw [setChildren, parent?_modify]
  exact fun _ => rfl

@[simp] theorem content?_setParent (d : Draft) (i : Nat) (p : Option Nat) (j : Nat) :
    (d.setParent i p).content? j = d.content? j := by
  rw [setParent, content?_modify]
  exact fun _ => rfl

@[simp] theorem content?_setChildren (d : Draft) (p : Nat) (f : Array Nat → Array Nat) (j : Nat) :
    (d.setChildren p f).content? j = d.content? j := by
  rw [setChildren, content?_modify]
  exact fun _ => rfl

@[simp] theorem inside?_setParent (d : Draft) (i : Nat) (p : Option Nat) (j : Nat) :
    (d.setParent i p).inside? j = d.inside? j := by
  rw [setParent, inside?_modify]
  exact fun _ => rfl

@[simp] theorem inside?_setChildren (d : Draft) (p : Nat) (f : Array Nat → Array Nat) (j : Nat) :
    (d.setChildren p f).inside? j = d.inside? j := by
  rw [setChildren, inside?_modify]
  exact fun _ => rfl

@[simp] theorem size_setParent (d : Draft) (i : Nat) (p : Option Nat) :
    (d.setParent i p).entries.size = d.entries.size :=
  size_modify d i _

@[simp] theorem size_setChildren (d : Draft) (p : Nat) (f : Array Nat → Array Nat) :
    (d.setChildren p f).entries.size = d.entries.size :=
  size_modify d p _

theorem inside?_setInside (d : Draft) (i : Nat) (r : Option Nat) (j : Nat) :
    (d.setInside i r).inside? j =
      if i = j ∧ j < d.entries.size then r else d.inside? j :=
  read_set (f := fun e => { e with inside := r }) (Option.bind · Entry.inside) r
    (fun _ => rfl) d i j

@[simp] theorem content?_setInside (d : Draft) (i : Nat) (r : Option Nat) (j : Nat) :
    (d.setInside i r).content? j = d.content? j := by
  rw [setInside, content?_modify]
  exact fun _ => rfl

@[simp] theorem parent?_setInside (d : Draft) (i : Nat) (r : Option Nat) (j : Nat) :
    (d.setInside i r).parent? j = d.parent? j := by
  rw [setInside, parent?_modify]
  exact fun _ => rfl

@[simp] theorem children_setInside (d : Draft) (i : Nat) (r : Option Nat) (j : Nat) :
    (d.setInside i r).children j = d.children j := by
  rw [setInside, children_modify]
  exact fun _ => rfl

@[simp] theorem size_setInside (d : Draft) (i : Nat) (r : Option Nat) :
    (d.setInside i r).entries.size = d.entries.size :=
  size_modify d i _

theorem Linked.setInside (h : Linked d) (i : Nat) (r : Option Nat) : Linked (d.setInside i r) where
  mem_children_iff p j := by rw [children_setInside, parent?_setInside, h.mem_children_iff]
  nodup p := by
    rw [children_setInside]
    exact h.nodup p
  holds j p s hp := by
    rw [parent?_setInside] at hp
    rw [content?_setInside]
    exact h.holds j p s hp

/-! ## Taking out -/

theorem detach_eq (d : Draft) (i : Nat) : d.detach i = match d.parent? i with
    | none => d
    | some p => (d.setChildren p fun l => l.filter (· ≠ i)).setParent i none := rfl

theorem detach_of_none (h : d.parent? i = none) : d.detach i = d := by
  rw [detach_eq, h]

@[simp] theorem size_detach (d : Draft) (i : Nat) :
    (d.detach i).entries.size = d.entries.size := by
  rw [detach_eq]
  split <;> simp

@[simp] theorem content?_detach (d : Draft) (i j : Nat) :
    (d.detach i).content? j = d.content? j := by
  rw [detach_eq]
  split <;> simp

@[simp] theorem inside?_detach (d : Draft) (i j : Nat) :
    (d.detach i).inside? j = d.inside? j := by
  rw [detach_eq]
  split <;> simp

theorem parent?_detach (d : Draft) (i j : Nat) :
    (d.detach i).parent? j = if j = i then none else d.parent? j := by
  rw [detach_eq]
  split
  · next h =>
    split
    · next hj => rw [hj, h]
    · rfl
  · next p h =>
    rw [parent?_setParent]
    by_cases hj : j = i
    · have hi := lt_of_parent? h
      simp [hj, hi]
    · simp [hj, Ne.symm hj]

theorem Linked.detach (h : Linked d) (i : Nat) : Linked (d.detach i) := by
  cases hi : d.parent? i with
  | none => rwa [detach_of_none hi]
  | some p =>
    have hp := h.lt_parent hi
    have hchildren (q : Nat) : ((d.detach i).children q).toList =
        if p = q then (d.children q).toList.filter (· ≠ i) else (d.children q).toList := by
      rw [detach_eq, hi]
      simp only [children_setParent, children_setChildren]
      by_cases hq : p = q
      · simp [← hq, hp]
      · simp [hq]
    refine ⟨fun q j => ?_, fun q => ?_, fun j q s hj => ?_⟩
    · rw [hchildren, parent?_detach]
      by_cases hq : p = q
      · subst hq
        rw [if_pos rfl, List.mem_filter, h.mem_children_iff]
        by_cases hj : j = i <;> simp [hj]
      · rw [if_neg hq, h.mem_children_iff]
        by_cases hj : j = i
        · simp [hj, hi, hq]
        · simp [hj]
    · rw [hchildren]
      split
      · exact (h.nodup q).filter _
      · exact h.nodup q
    · rw [content?_detach]
      rw [parent?_detach] at hj
      split at hj
      · cases hj
      · exact h.holds j q s hj

/-! ## Putting in -/

def Place.parent : Place → Nat
  | .last p => p
  | .before p _ => p

/-- The children of a node after another was put in. -/
def Place.insert (i : Nat) : Place → Array Nat → Array Nat
  | .last _, l => l.push i
  | .before _ sibling, l => (insertBefore l.toList sibling i).toArray

theorem attach_eq (d : Draft) (i : Nat) (place : Place) :
    d.attach i place =
      (d.setChildren place.parent (place.insert i)).setParent i (some place.parent) := by
  cases place <;> rfl

@[simp] theorem size_attach (d : Draft) (i : Nat) (place : Place) :
    (d.attach i place).entries.size = d.entries.size := by
  rw [attach_eq]
  simp

@[simp] theorem content?_attach (d : Draft) (i : Nat) (place : Place) (j : Nat) :
    (d.attach i place).content? j = d.content? j := by
  rw [attach_eq]
  simp

@[simp] theorem inside?_attach (d : Draft) (i : Nat) (place : Place) (j : Nat) :
    (d.attach i place).inside? j = d.inside? j := by
  rw [attach_eq]
  simp

theorem parent?_attach (hi : i < d.entries.size) (place : Place) (j : Nat) :
    (d.attach i place).parent? j = if j = i then some place.parent else d.parent? j := by
  rw [attach_eq, parent?_setParent]
  by_cases hj : j = i
  · simp [hj, hi]
  · simp [hj, Ne.symm hj]

theorem perm_insertBefore (l : List Nat) (sibling i : Nat) :
    (insertBefore l sibling i).Perm (i :: l) := by
  have hsplit : l.takeWhile (· ≠ sibling) ++ l.dropWhile (· ≠ sibling) = l :=
    List.takeWhile_append_dropWhile
  unfold insertBefore
  exact List.perm_middle.trans (.cons i (.of_eq hsplit))

theorem Place.perm_insert (place : Place) (i : Nat) (l : Array Nat) :
    (place.insert i l).toList.Perm (i :: l.toList) := by
  cases place with
  | last p =>
    rw [Place.insert, Array.toList_push]
    exact List.perm_append_comm
  | before p sibling =>
    rw [Place.insert]
    exact perm_insertBefore l.toList sibling i

theorem Linked.attach (h : Linked d) (hi : i < d.entries.size) (hfree : d.parent? i = none)
    (hp : place.parent < d.entries.size)
    (hholds : ∀ s, d.content? place.parent ≠ some (.text s)) : Linked (d.attach i place) := by
  have hperm (q : Nat) : ((d.attach i place).children q).toList.Perm
      (if place.parent = q then i :: (d.children q).toList else (d.children q).toList) := by
    rw [attach_eq, children_setParent, children_setChildren]
    by_cases hq : place.parent = q
    · rw [if_pos ⟨hq, hq ▸ hp⟩, if_pos hq]
      exact place.perm_insert i _
    · rw [if_neg fun hboth => hq hboth.1, if_neg hq]
  refine ⟨fun q j => ?_, fun q => ?_, fun j q s hj => ?_⟩
  · rw [(hperm q).mem_iff, parent?_attach hi]
    by_cases hq : place.parent = q
    · rw [if_pos hq, List.mem_cons, h.mem_children_iff]
      by_cases hj : j = i
      · simp [hj, hq]
      · simp [hj]
    · rw [if_neg hq, h.mem_children_iff]
      by_cases hj : j = i
      · simp [hj, hfree, hq]
      · simp [hj]
  · rw [(hperm q).nodup_iff]
    split
    · refine List.nodup_cons.mpr ⟨fun hmem => ?_, h.nodup q⟩
      rw [h.mem_children_iff, hfree] at hmem
      cases hmem
    · exact h.nodup q
  · rw [content?_attach]
    rw [parent?_attach hi] at hj
    split at hj
    · exact Option.some.inj hj ▸ hholds s
    · exact h.holds j q s hj

/-! ## Moving all children -/

/-- Moves some nodes to the end of another. -/
def moveAll (d : Draft) (l : List Nat) (target : Nat) : Draft :=
  l.foldl (fun d i => (d.detach i).attach i (.last target)) d

theorem moveChildren_eq (d : Draft) (source target : Nat) :
    d.moveChildren source target = d.moveAll (d.children source).toList target := by
  rw [moveChildren, moveAll, Array.foldl_toList]

/-- What all but the links is, moving leaves as it is. -/
theorem moveAll_fixed {α : Type} (g : Draft → α)
    (hg : ∀ d i, g ((d.detach i).attach i (.last k)) = g d) (l : List Nat) :
    g (d.moveAll l k) = g d := by
  induction l generalizing d with
  | nil => rfl
  | cons i l ih => exact (ih (d := (d.detach i).attach i (.last k))).trans (hg d i)

theorem parent?_moveAll {l : List Nat} (hl : ∀ i ∈ l, i < d.entries.size) (j : Nat) :
    (d.moveAll l k).parent? j = if j ∈ l then some k else d.parent? j := by
  induction l generalizing d with
  | nil => simp [moveAll]
  | cons i l ih =>
    have hi : i < (d.detach i).entries.size := by
      rw [size_detach]
      exact hl i (.head _)
    have hstep (j : Nat) : ((d.detach i).attach i (.last k)).parent? j =
        if j = i then some k else d.parent? j := by
      rw [parent?_attach hi, Place.parent, parent?_detach]
      split <;> rfl
    have hrest := ih (d := (d.detach i).attach i (.last k)) fun j hj => by
      simpa using hl j (.tail _ hj)
    rw [moveAll, List.foldl_cons]
    refine hrest.trans ?_
    rw [hstep]
    by_cases hj : j ∈ l
    · simp [hj]
    · simp [hj]

theorem Linked.moveAll {l : List Nat} (h : Linked d) (hl : ∀ i ∈ l, i < d.entries.size)
    (hk : k < d.entries.size) (hholds : ∀ s, d.content? k ≠ some (.text s)) :
    Linked (d.moveAll l k) := by
  induction l generalizing d with
  | nil => exact h
  | cons i l ih =>
    have hi : i < (d.detach i).entries.size := by
      rw [size_detach]
      exact hl i (.head _)
    have hfree : (d.detach i).parent? i = none := by rw [parent?_detach, if_pos rfl]
    refine ih (d := (d.detach i).attach i (.last k)) ?_ ?_ ?_ ?_
    · exact (h.detach i).attach hi hfree (by simpa [Place.parent] using hk)
        (by simpa [Place.parent] using hholds)
    · intro j hj
      simpa using hl j (.tail _ hj)
    · simpa using hk
    · simpa using hholds

/-! ## What stands below a node -/

/-- A node is another or stands below it. -/
inductive Under (d : Draft) (k : Nat) : Nat → Prop
  | refl : Under d k k
  | step {i p : Nat} : d.parent? i = some p → Under d k p → Under d k i

theorem under_iff : Under d k i ↔ i = k ∨ ∃ p, d.parent? i = some p ∧ Under d k p := by
  constructor
  · rintro (_ | ⟨hp, h⟩)
    · exact .inl rfl
    · exact .inr ⟨_, hp, h⟩
  · rintro (rfl | ⟨p, hp, h⟩)
    · exact .refl
    · exact .step hp h

theorem Under.trans (hij : Under d j i) (hjk : Under d k j) : Under d k i := by
  induction hij with
  | refl => exact hjk
  | step hp _ ih => exact Under.step hp ih

/-- Of two nodes above a third, one is above the other. -/
theorem Under.total (hj : Under d j i) (hk : Under d k i) : Under d j k ∨ Under d k j := by
  induction hj with
  | refl => exact .inr hk
  | step hp hj ih =>
    rcases under_iff.mp hk with rfl | ⟨q, hq, hk⟩
    · exact .inl (.step hp hj)
    · obtain rfl := Option.some.inj (hp.symm.trans hq)
      exact ih hk

theorem under_of_free (hi : d.parent? i = none) : Under d k i ↔ i = k := by
  rw [under_iff, hi]
  simp

theorem under_step (hp : d.parent? i = some p) : Under d k i ↔ i = k ∨ Under d k p := by
  rw [under_iff, hp]
  simp

/-- The first step down to what stands below a node. -/
theorem Under.exists_child (h : Under d k i) (hne : i ≠ k) :
    ∃ c, d.parent? c = some k ∧ Under d c i := by
  induction h with
  | refl => exact absurd rfl hne
  | @step i p hp h ih =>
    by_cases hk : p = k
    · exact ⟨i, hk ▸ hp, .refl⟩
    · obtain ⟨c, hc, hunder⟩ := ih hk
      exact ⟨c, hc, .step hp hunder⟩

/-- Nodes that keep their parents up to a node stand below it as before. -/
theorem Under.congr (h : Under d k i)
    (hsame : ∀ j, j ≠ k → Under d j i → Under d k j → e.parent? j = d.parent? j) :
    Under e k i := by
  induction h with
  | refl => exact .refl
  | @step i p hp h ih =>
    by_cases hk : i = k
    · exact hk ▸ .refl
    · refine .step ((hsame i hk .refl (.step hp h)).trans hp) (ih fun j hj hij => ?_)
      exact hsame j hj ((Under.step hp .refl).trans hij)

end PluginRelease.Html.Draft
