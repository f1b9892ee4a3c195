import Mathlib.Data.List.Nodup
import Mathlib.Data.List.Perm.Subperm
import PluginRelease.Proofs.Html.Draft.Links

/-!
The page of a draft as a list of entries in document order. Below a node stands every entry that the
parents lead from to the node, once.
-/
namespace PluginRelease.Html.Draft
variable {d : Draft} {i j k n m fuel : Nat} {node : Node}

/-- The trees below an entry with the numbers of their entries, in document order. -/
def listing (d : Draft) : Nat → Nat → List (Nat × Node)
  | 0, _ => []
  | fuel + 1, i =>
    match d.content? i with
    | none => []
    | some (.text s) => [(i, .text s.reverse)]
    | some (.element name attributes) =>
      (i, .element name attributes ((d.children i).toList.flatMap (d.tree fuel))) ::
        (d.children i).toList.flatMap (d.listing fuel)
    | some .root => (d.children i).toList.flatMap (d.listing fuel)

/-- The entries of the page. -/
def listed (d : Draft) : List (Nat × Node) := d.listing (d.entries.size + 1) pageRoot

theorem tree_succ (d : Draft) (fuel i : Nat) : d.tree (fuel + 1) i = match d.content? i with
    | none => []
    | some (.text s) => [.text s.reverse]
    | some (.element name attributes) =>
      [.element name attributes ((d.children i).toList.flatMap (d.tree fuel))]
    | some .root => (d.children i).toList.flatMap (d.tree fuel) := by
  rw [tree, content?, children]
  cases d.entries[i]? with
  | none => rfl
  | some e => cases hc : e.content <;> simp [hc]

theorem forest_flatMap (l : List Nat) (f : Nat → List Node) :
    Node.forest (l.flatMap f) = l.flatMap fun i => Node.forest (f i) := by
  induction l with
  | nil => rfl
  | cons i l ih => rw [List.flatMap_cons, List.flatMap_cons, Node.forest_append, ih]

theorem map_snd_listing (d : Draft) (fuel i : Nat) :
    (d.listing fuel i).map (·.2) = Node.forest (d.tree fuel i) := by
  induction fuel generalizing i with
  | zero => rfl
  | succ fuel ih =>
    have hbelow (l : List Nat) :
        (l.flatMap (d.listing fuel)).map (·.2) = Node.forest (l.flatMap (d.tree fuel)) := by
      rw [List.map_flatMap, forest_flatMap]
      simp only [ih]
    rw [listing, tree_succ]
    split
    · rfl
    · rfl
    · simp only [List.map_cons, hbelow, Node.forest, Node.descendants, List.append_nil]
    · exact hbelow _

theorem map_snd_listed (d : Draft) : d.listed.map (·.2) = Node.forest d.page :=
  map_snd_listing d _ _

/-! ## How deep an entry stands -/

/-- An entry stands so many steps below the root of the page. -/
inductive Level (d : Draft) : Nat → Nat → Prop
  | root : Level d pageRoot 0
  | step {i p n : Nat} : d.parent? i = some p → Level d p n → Level d i (n + 1)

section
variable (hroot : d.parent? pageRoot = none)
include hroot

theorem Level.unique (h : Level d i n) (h' : Level d i m) : n = m := by
  induction h generalizing m with
  | root =>
    rcases h' with _ | ⟨hp, -⟩
    · rfl
    · rw [hroot] at hp
      cases hp
  | step hp _ ih =>
    rcases h' with _ | ⟨hp', h'⟩
    · rw [hroot] at hp
      cases hp
    · obtain rfl := Option.some.inj (hp.symm.trans hp')
      rw [ih h']

theorem Level.le_of_under (h : Level d i n) (hu : Under d k i) :
    ∃ m, Level d k m ∧ m ≤ n ∧ (m = n → i = k) := by
  induction hu generalizing n with
  | refl => exact ⟨n, h, Nat.le_refl n, fun _ => rfl⟩
  | step hp _ ih =>
    rcases h with _ | ⟨hp', h⟩
    · rw [hroot] at hp
      cases hp
    · obtain rfl := Option.some.inj (hp.symm.trans hp')
      obtain ⟨m, hm, hle, -⟩ := ih h
      exact ⟨m, hm, by omega, by omega⟩

/-- On the way down to an entry there is one entry at each level. -/
theorem Level.exists_path (h : Level d i n) (hi : i < d.entries.size) (hd : Linked d) :
    ∃ l : List Nat, l.length = n + 1 ∧ l.Nodup ∧
      ∀ j ∈ l, j < d.entries.size ∧ Under d j i := by
  induction h with
  | root => exact ⟨[pageRoot], rfl, by simp, by simpa using ⟨hi, .refl⟩⟩
  | @step i p n hp h ih =>
    obtain ⟨l, hlength, hnodup, hl⟩ := ih (hd.lt_parent hp)
    refine ⟨i :: l, by simp [hlength], List.nodup_cons.mpr ⟨fun hmem => ?_, hnodup⟩, ?_⟩
    · obtain ⟨m, hm, hle, -⟩ := h.le_of_under hroot (hl i hmem).2
      have hsame := hm.unique hroot (.step hp h)
      omega
    · intro j hj
      rcases List.mem_cons.mp hj with rfl | hj
      · exact ⟨hi, .refl⟩
      · exact ⟨(hl j hj).1, .step hp (hl j hj).2⟩

/-- No entry stands deeper than there are entries. -/
theorem Level.lt_size (h : Level d i n) (hi : i < d.entries.size) (hd : Linked d) :
    n < d.entries.size := by
  obtain ⟨l, hlength, hnodup, hl⟩ := h.exists_path hroot hi hd
  have hsub : l ⊆ List.range d.entries.size := fun j hj => List.mem_range.mpr (hl j hj).1
  have hle := (hnodup.subperm hsub).length_le
  rw [List.length_range] at hle
  omega

end

/-! ## Everything once -/

/-- A node is what an entry has become. -/
def Shows (d : Draft) (i : Nat) : Node → Prop
  | .element name attributes _ => d.content? i = some (.element name attributes)
  | .text s => d.content? i = some (.text s.reverse)

/-- Some entries with their nodes are all that stands below one entry, in document order. -/
structure IsBelow (d : Draft) (k : Nat) (node : Node) (l : List (Nat × Node)) : Prop where
  nodes : l.map (·.2) = node.descendants
  once : (l.map (·.1)).Nodup
  mem_iff : ∀ i, i ∈ l.map (·.1) ↔ i ≠ k ∧ Under d k i
  shows : ∀ e ∈ l, d.Shows e.1 e.2

/-- What is to be known of the root of the page. -/
structure Rooted (d : Draft) : Prop where
  linked : Linked d
  content : d.content? pageRoot = some .root
  free : ∀ i, d.content? i = some .root → d.parent? i = none

namespace Rooted
variable (h : Rooted d)
include h

theorem root_free : d.parent? pageRoot = none := h.free _ h.content

/-- An entry below the root is no root. -/
theorem not_root_of_parent? (hp : d.parent? i = some j) : d.content? i ≠ some .root := by
  intro hi
  rw [h.free i hi] at hp
  cases hp

theorem child_iff : j ∈ (d.children i).toList ↔ d.parent? j = some i :=
  h.linked.mem_children_iff i j

/-- Below the children of an entry stands each entry once. -/
theorem nodup_below (hi : Level d i n)
    (hc : ∀ c ∈ (d.children i).toList, ((d.listing fuel c).map (·.1)).Nodup ∧
      ∀ a, a ∈ (d.listing fuel c).map (·.1) ↔ Under d c a) :
    (((d.children i).toList.flatMap (d.listing fuel)).map (·.1)).Nodup := by
  rw [List.map_flatMap, List.nodup_flatMap]
  refine ⟨fun c hmem => (hc c hmem).1, ?_⟩
  have hpairs := (h.linked.nodup i).pairwise_of_forall_ne
    (r := fun b c => List.Disjoint ((d.listing fuel b).map (·.1)) ((d.listing fuel c).map (·.1)))
  refine hpairs fun b hb c hcmem hne a hab hac => ?_
  have hab := ((hc b hb).2 a).mp hab
  have hac := ((hc c hcmem).2 a).mp hac
  have hbi : Level d b (n + 1) := .step (h.child_iff.mp hb) hi
  have hci : Level d c (n + 1) := .step (h.child_iff.mp hcmem) hi
  rcases hab.total hac with hbc | hcb
  · obtain ⟨m, hm, -, hsame⟩ := hci.le_of_under h.root_free hbc
    exact hne (hsame (hm.unique h.root_free hbi)).symm
  · obtain ⟨m, hm, -, hsame⟩ := hbi.le_of_under h.root_free hcb
    exact hne (hsame (hm.unique h.root_free hci))

theorem mem_below_iff (hi : Level d i n)
    (hc : ∀ c ∈ (d.children i).toList, ∀ a, a ∈ (d.listing fuel c).map (·.1) ↔ Under d c a)
    (a : Nat) : a ∈ ((d.children i).toList.flatMap (d.listing fuel)).map (·.1) ↔
      a ≠ i ∧ Under d i a := by
  rw [List.map_flatMap, List.mem_flatMap]
  constructor
  · rintro ⟨c, hmem, ha⟩
    have hca := (hc c hmem a).mp ha
    have hp := h.child_iff.mp hmem
    refine ⟨?_, hca.trans (.step hp .refl)⟩
    rintro rfl
    obtain ⟨m, hm, hle, -⟩ := hi.le_of_under h.root_free hca
    have hsame := hm.unique h.root_free (.step hp hi)
    omega
  · rintro ⟨hne, ha⟩
    obtain ⟨c, hp, hca⟩ := ha.exists_child hne
    exact ⟨c, h.child_iff.mpr hp, (hc c (h.child_iff.mpr hp) a).mpr hca⟩

/-- Nothing stands below a text. -/
theorem eq_of_under_text {s : List Char} (htext : d.content? i = some (.text s))
    (hk : Under d i k) : k = i := by
  cases Nat.decEq k i with
  | isTrue hki => exact hki
  | isFalse hki =>
    obtain ⟨c, hp, -⟩ := hk.exists_child hki
    exact absurd htext (h.linked.holds c i s hp)

theorem listing_of_level (hi : Level d i n) (hlt : i < d.entries.size)
    (hroot : d.content? i ≠ some .root) (hfuel : d.entries.size < fuel + n) :
    ((d.listing fuel i).map (·.1)).Nodup ∧
      ∀ a, a ∈ (d.listing fuel i).map (·.1) ↔ Under d i a := by
  induction fuel generalizing i n with
  | zero =>
    have hdeep := hi.lt_size h.root_free hlt h.linked
    omega
  | succ fuel ih =>
    have hchild (c : Nat) (hc : c ∈ (d.children i).toList) :
        ((d.listing fuel c).map (·.1)).Nodup ∧
          ∀ a, a ∈ (d.listing fuel c).map (·.1) ↔ Under d c a := by
      have hp := h.child_iff.mp hc
      exact ih (.step hp hi) (lt_of_parent? hp) (h.not_root_of_parent? hp) (by omega)
    have hnodup := h.nodup_below hi hchild
    have hmem := h.mem_below_iff hi fun c hc => (hchild c hc).2
    rw [listing]
    split
    · next hnone => exact absurd hlt (Nat.not_lt.mpr (content?_eq_none_iff.mp hnone))
    · next s htext =>
      refine ⟨by simp, fun a => ?_⟩
      rw [List.map_singleton, List.mem_singleton]
      exact ⟨fun hai => hai ▸ .refl, h.eq_of_under_text htext⟩
    · simp only [List.map_cons, List.nodup_cons, List.mem_cons, hmem]
      refine ⟨⟨by simp, hnodup⟩, fun a => ?_⟩
      by_cases ha : a = i
      · simp [ha, Under.refl]
      · simp [ha]
    · next hcontent => exact absurd hcontent hroot

omit h in
theorem shows_of_mem {e : Nat × Node} (he : e ∈ d.listing fuel i) : d.Shows e.1 e.2 := by
  induction fuel generalizing i with
  | zero => cases he
  | succ fuel ih =>
    have hbelow (hmem : e ∈ (d.children i).toList.flatMap (d.listing fuel)) : d.Shows e.1 e.2 := by
      obtain ⟨c, -, hmem⟩ := List.mem_flatMap.mp hmem
      exact ih hmem
    rw [listing] at he
    split at he
    · cases he
    · next s htext =>
      obtain rfl := List.mem_singleton.mp he
      rwa [Shows, List.reverse_reverse]
    · next name attributes helement =>
      rcases List.mem_cons.mp he with rfl | hmem
      · exact helement
      · exact hbelow hmem
    · exact hbelow he

/-- What is listed is an entry with all that stands below it. -/
theorem exists_isBelow (hi : Level d i n) (hlt : i < d.entries.size)
    (hfuel : d.entries.size < fuel + n) (hk : (k, node) ∈ d.listing fuel i) :
    ∃ l, IsBelow d k node l := by
  induction fuel generalizing i n with
  | zero => cases hk
  | succ fuel ih =>
    have hchild (c : Nat) (hc : c ∈ (d.children i).toList) :
        Level d c (n + 1) ∧ c < d.entries.size ∧ d.content? c ≠ some .root := by
      have hp := h.child_iff.mp hc
      exact ⟨.step hp hi, lt_of_parent? hp, h.not_root_of_parent? hp⟩
    have hbelow (hmem : (k, node) ∈ (d.children i).toList.flatMap (d.listing fuel)) :
        ∃ l, IsBelow d k node l := by
      obtain ⟨c, hc, hmem⟩ := List.mem_flatMap.mp hmem
      exact ih (hchild c hc).1 (hchild c hc).2.1 (by omega) hmem
    rw [listing] at hk
    split at hk
    · cases hk
    · next s htext =>
      obtain ⟨rfl, rfl⟩ := Prod.mk.inj (List.mem_singleton.mp hk)
      refine ⟨[], rfl, by simp, fun a => ?_, by simp⟩
      simp only [List.map_nil, List.not_mem_nil, false_iff, not_and]
      exact fun hne ha => hne (h.eq_of_under_text htext ha)
    · next name attributes helement =>
      rcases List.mem_cons.mp hk with heq | hmem
      · obtain ⟨rfl, rfl⟩ := Prod.mk.inj heq
        have hlisted (c : Nat) (hc : c ∈ (d.children k).toList) :=
          h.listing_of_level (hchild c hc).1 (hchild c hc).2.1 (hchild c hc).2.2
            (by omega : d.entries.size < fuel + (n + 1))
        refine ⟨(d.children k).toList.flatMap (d.listing fuel), ?_, h.nodup_below hi hlisted,
          h.mem_below_iff hi fun c hc => (hlisted c hc).2, fun e he => ?_⟩
        · rw [List.map_flatMap, Node.descendants, forest_flatMap]
          simp only [map_snd_listing]
        · obtain ⟨c, -, he⟩ := List.mem_flatMap.mp he
          exact shows_of_mem he
      · exact hbelow hmem
    · exact hbelow hk

/-- Every entry of the page is listed with all that stands below it. -/
theorem exists_isBelow_of_listed (hk : (k, node) ∈ d.listed) :
    d.Shows k node ∧ ∃ l, IsBelow d k node l :=
  ⟨shows_of_mem hk, h.exists_isBelow .root (lt_of_content? h.content) (Nat.lt_succ_self _) hk⟩

end Rooted

end PluginRelease.Html.Draft
