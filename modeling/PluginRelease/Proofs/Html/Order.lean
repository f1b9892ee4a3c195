import Mathlib.Data.List.Lex
import PluginRelease.Html.Node

/-!
Document order. The address of a node is its number among its siblings at every step down to it, and
a forest lists its nodes by their addresses, in lexicographic order: so that what is found first in
the list is what stands first in the document.
-/
namespace PluginRelease.Html.Node
variable {n m : Node} {ns : List Node} {a b : List Nat} {p : Node → Bool}

def children : Node → List Node
  | element _ _ children => children
  | text _ => []

theorem descendants_eq (n : Node) : n.descendants = forest n.children := by
  cases n with
  | element name attributes children => rw [descendants, Node.children]
  | text content => rw [descendants, Node.children, forest]

/-- The node at an address. -/
def at? : List Node → List Nat → Option Node
  | _, [] => none
  | ns, [i] => ns[i]?
  | ns, i :: j :: a => (ns[i]?).bind fun n => at? n.children (j :: a)

mutual

/-- All below a node, with their addresses. -/
def addressedBelow : Node → List (List Nat × Node)
  | element _ _ children => addressedFrom 0 children
  | text _ => []

/-- Some trees with all below them and their addresses, where the first tree has the number `k`. -/
def addressedFrom (k : Nat) : List Node → List (List Nat × Node)
  | [] => []
  | n :: ns =>
    ([k], n) :: ((addressedBelow n).map fun e => (k :: e.1, e.2)) ++ addressedFrom (k + 1) ns

end

theorem addressedBelow_eq (n : Node) : addressedBelow n = addressedFrom 0 n.children := by
  cases n with
  | element name attributes children => rw [addressedBelow, Node.children]
  | text content => rw [addressedBelow, Node.children, addressedFrom]

/-! ## Addresses name nodes -/

theorem at?_cons_ne_nil (ns : List Node) (i : Nat) (h : a ≠ []) :
    at? ns (i :: a) = (ns[i]?).bind fun n => at? n.children a := by
  obtain ⟨j, b, rfl⟩ := List.exists_cons_of_ne_nil h
  rfl

/-- Counted from zero, the first step of an address is what it is. -/
theorem exists_step_iff :
    (∃ i b, a = (0 + i) :: b ∧ at? ns (i :: b) = some n) ↔ at? ns a = some n := by
  constructor
  · rintro ⟨i, b, rfl, hat⟩
    rwa [Nat.zero_add]
  · intro hat
    cases a with
    | nil => simp [at?] at hat
    | cons i b => exact ⟨i, b, by rw [Nat.zero_add], hat⟩

mutual

theorem map_snd_addressedBelow : ∀ n : Node, (addressedBelow n).map (·.2) = descendants n
  | element _ _ children => by
    rw [addressedBelow, descendants]
    exact map_snd_addressedFrom 0 children
  | text _ => rfl

theorem map_snd_addressedFrom (k : Nat) : ∀ ns, (addressedFrom k ns).map (·.2) = forest ns
  | [] => rfl
  | n :: ns => by
    have hbelow := map_snd_addressedBelow n
    have hbehind := map_snd_addressedFrom (k + 1) ns
    rw [addressedFrom, forest, ← hbelow, ← hbehind]
    simp [Function.comp_def]

end

mutual

theorem mem_addressedBelow : ∀ (n : Node) (a : List Nat) (m : Node),
    (a, m) ∈ addressedBelow n ↔ at? n.children a = some m
  | element _ _ children, a, m => by
    rw [addressedBelow, Node.children, mem_addressedFrom 0 children, exists_step_iff]
  | text _, a, m => by
    rw [addressedBelow, Node.children]
    cases a with
    | nil => simp [at?]
    | cons i a =>
      cases a with
      | nil => simp [at?]
      | cons j a => simp [at?]

theorem mem_addressedFrom (k : Nat) : ∀ (ns : List Node) (a : List Nat) (m : Node),
    (a, m) ∈ addressedFrom k ns ↔ ∃ i b, a = (k + i) :: b ∧ at? ns (i :: b) = some m
  | [], a, m => by
    rw [addressedFrom]
    simp only [List.not_mem_nil, false_iff, not_exists, not_and]
    rintro i (_ | ⟨j, b⟩) - <;> simp [at?]
  | n :: ns, a, m => by
    have hbelow := mem_addressedBelow n
    have hbehind := mem_addressedFrom (k + 1) ns
    rw [addressedFrom, List.cons_append, List.mem_cons, List.mem_append, hbehind]
    constructor
    · rintro (h | h | ⟨i, b, rfl, hb⟩)
      · obtain ⟨rfl, rfl⟩ := Prod.mk.inj h
        exact ⟨0, [], rfl, rfl⟩
      · obtain ⟨⟨b, m'⟩, hb, heq⟩ := List.mem_map.mp h
        obtain ⟨rfl, rfl⟩ := Prod.mk.inj heq
        have hat := (hbelow b m').mp hb
        have hne : b ≠ [] := by
          rintro rfl
          simp [at?] at hat
        refine ⟨0, b, rfl, ?_⟩
        rw [at?_cons_ne_nil _ _ hne]
        exact hat
      · refine ⟨i + 1, b, by simp [Nat.add_assoc, Nat.add_comm 1 i], ?_⟩
        cases b with
        | nil => exact hb
        | cons j b => exact hb
    · rintro ⟨i, b, rfl, hat⟩
      cases i with
      | zero =>
        cases b with
        | nil =>
          obtain rfl := Option.some.inj hat
          exact .inl rfl
        | cons j b => exact .inr (.inl (List.mem_map.mpr ⟨(j :: b, m), (hbelow _ _).mpr hat, rfl⟩))
      | succ i =>
        refine .inr (.inr ⟨i, b, by simp [Nat.add_assoc, Nat.add_comm 1 i], ?_⟩)
        cases b with
        | nil => exact hat
        | cons j b => exact hat

end

/-! ## Addresses are in order -/

theorem head_of_mem_addressedFrom {k : Nat} {e : List Nat × Node} (h : e ∈ addressedFrom k ns) :
    ∃ i b, e.1 = (k + i) :: b := by
  obtain ⟨i, b, ha, -⟩ := (mem_addressedFrom k ns e.1 e.2).mp h
  exact ⟨i, b, ha⟩

mutual

theorem pairwise_addressedBelow : ∀ n : Node, (addressedBelow n).Pairwise (·.1 < ·.1)
  | element _ _ children => by
    rw [addressedBelow]
    exact pairwise_addressedFrom 0 children
  | text _ => .nil

theorem pairwise_addressedFrom (k : Nat) :
    ∀ ns : List Node, (addressedFrom k ns).Pairwise (·.1 < ·.1)
  | [] => .nil
  | n :: ns => by
    have hbelow := pairwise_addressedBelow n
    have hbehind := pairwise_addressedFrom (k + 1) ns
    rw [addressedFrom, List.cons_append, List.pairwise_cons, List.pairwise_append]
    refine ⟨fun e he => ?_, ?_, hbehind, fun e he f hf => ?_⟩
    · rcases List.mem_append.mp he with he | he
      · obtain ⟨f, hf, rfl⟩ := List.mem_map.mp he
        rw [addressedBelow_eq] at hf
        obtain ⟨i, b, hb⟩ := head_of_mem_addressedFrom hf
        simp [hb]
      · obtain ⟨i, b, hb⟩ := head_of_mem_addressedFrom he
        rw [hb, List.cons_lt_cons_iff]
        exact .inl (by omega)
    · rw [List.pairwise_map]
      exact hbelow.imp fun h => List.cons_lt_cons_iff.mpr (.inr ⟨rfl, h⟩)
    · obtain ⟨g, -, rfl⟩ := List.mem_map.mp he
      obtain ⟨i, b, hb⟩ := head_of_mem_addressedFrom hf
      rw [hb, List.cons_lt_cons_iff]
      exact .inl (by omega)

end

/-! ## The first of some nodes -/

/-- At an address stands a node with a property, and at no address before it stands another. -/
structure IsFirst (page : List Node) (p : Node → Prop) (a : List Nat) (n : Node) : Prop where
  at_address : at? page a = some n
  holds : p n
  first : ∀ b m, at? page b = some m → p m → a ≤ b

theorem mem_addressed : (a, n) ∈ addressedFrom 0 ns ↔ at? ns a = some n := by
  rw [mem_addressedFrom, exists_step_iff]

/-- What stands behind a node in the list of a forest has a greater address. -/
theorem lt_of_mem_behind {before after : List (List Nat × Node)}
    (h : addressedFrom 0 ns = before ++ (a, n) :: after) (hb : (b, m) ∈ after) : a < b := by
  have hsorted := pairwise_addressedFrom 0 ns
  rw [h] at hsorted
  exact (List.pairwise_cons.mp (List.pairwise_append.mp hsorted).2.1).1 (b, m) hb

theorem mem_forest_iff : n ∈ forest ns ↔ ∃ a, at? ns a = some n := by
  rw [← map_snd_addressedFrom 0]
  simp [mem_addressed]

/-- A search through a forest finds the first node in document order. -/
theorem find?_forest_eq_some_iff :
    (forest ns).find? p = some n ↔ ∃ a, IsFirst ns (p · = true) a n := by
  rw [← map_snd_addressedFrom 0, List.find?_map, Option.map_eq_some_iff]
  constructor
  · rintro ⟨⟨a, m⟩, hfind, rfl⟩
    obtain ⟨hp, before, after, hsplit, hbefore⟩ := List.find?_eq_some_iff_append.mp hfind
    refine ⟨a, mem_addressed.mp (List.mem_of_find?_eq_some hfind), hp, fun b o hb ho => ?_⟩
    have hmem : (b, o) ∈ before ++ (a, m) :: after := hsplit ▸ mem_addressed.mpr hb
    rcases List.mem_append.mp hmem with hmem | hmem
    · have hother : p o = false := by simpa using hbefore (b, o) hmem
      rw [hother] at ho
      cases ho
    · rcases List.mem_cons.mp hmem with heq | hmem
      · exact (Prod.mk.inj heq).1 ▸ le_refl _
      · exact le_of_lt (lt_of_mem_behind hsplit hmem)
  · rintro ⟨a, hat, hp, hfirst⟩
    have hmem : (a, n) ∈ addressedFrom 0 ns := mem_addressed.mpr hat
    cases hfind : (addressedFrom 0 ns).find? (p ∘ fun e => e.2) with
    | none => exact absurd hp (by simpa using List.find?_eq_none.mp hfind (a, n) hmem)
    | some e =>
      obtain ⟨hpe, before, after, hsplit, hbefore⟩ := List.find?_eq_some_iff_append.mp hfind
      refine ⟨e, rfl, ?_⟩
      have hle := hfirst e.1 e.2 (mem_addressed.mp (List.mem_of_find?_eq_some hfind)) hpe
      rw [hsplit] at hmem
      rcases List.mem_append.mp hmem with hmem | hmem
      · exact absurd hp (by simpa using hbefore (a, n) hmem)
      · rcases List.mem_cons.mp hmem with heq | hmem
        · rw [← heq]
        · exact absurd (lt_of_mem_behind hsplit hmem) (not_lt.mpr hle)

theorem find?_forest_eq_none_iff :
    (forest ns).find? p = none ↔ ∀ a n, at? ns a = some n → p n = false := by
  rw [List.find?_eq_none]
  constructor
  · intro h a n hat
    simpa using h n (mem_forest_iff.mpr ⟨a, hat⟩)
  · intro h n hn
    obtain ⟨a, hat⟩ := mem_forest_iff.mp hn
    simp [h a n hat]

end PluginRelease.Html.Node
