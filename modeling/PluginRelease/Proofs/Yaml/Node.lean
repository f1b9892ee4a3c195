import PluginRelease.Yaml.Decode

/-!
What readers take of the events. A reader of a value takes one node, which is what is passed
over where no value is wanted. The aliases that were followed before it count only against
their limit.
-/
namespace PluginRelease.Yaml.Decode
variable {α β : Type}

/-- What is left behind the end of a node inside `n` collections. -/
def passTo (n : Nat) (rest : List (Event Nat)) : Option (List (Event Nat)) :=
  if n = 0 then some rest else skipFrom n rest

theorem passTo_succ (n : Nat) (rest : List (Event Nat)) :
    passTo (n + 1) rest = skipFrom (n + 1) rest := if_neg (Nat.succ_ne_zero n)

/-- Reading gives the same with fewer aliases followed before, and follows as many itself. -/
def Steady (d : Decoder α) : Prop :=
  ∀ l s a t, d l s = .ok (a, t) →
    ∃ n, ∀ i ≤ s.jumps, d l ⟨s.rest, i⟩ = .ok (a, ⟨t.rest, i + n⟩)

/-- What is read is the rest of so many collections, or a node if there are none. -/
def Passes (opened : Nat) (d : Decoder α) : Prop :=
  ∀ l s a t, d l s = .ok (a, t) → ∀ n, skipFrom (n + opened) s.rest = passTo n t.rest

structure Reads (opened : Nat) (d : Decoder α) : Prop where
  steady : Steady d
  passes : Passes opened d

theorem bind_eq_ok {d : Decoder α} {k : α → Decoder β} {l : Linked} {s : Supply}
    {r : β × Supply} :
    (d >>= k) l s = .ok r ↔ ∃ a u, d l s = .ok (a, u) ∧ k a l u = .ok r := by
  change Decoder.bind d k l s = .ok r ↔ _
  unfold Decoder.bind
  rcases d l s with f | ⟨a, u⟩
  · simp
  · constructor
    · exact fun h => ⟨a, u, rfl, h⟩
    · rintro ⟨_, _, heq, h⟩
      cases heq
      exact h

theorem located_eq_ok {d : Decoder α} {path : String} {l : Linked} {s : Supply} {r : α × Supply} :
    d.located path l s = .ok r ↔ d l s = .ok r := by
  unfold Decoder.located
  cases d l s with
  | error f => simp
  | ok r => rfl

theorem follow_eq_ok {d : Decoder α} {n : Nat} {l : Linked} {s t : Supply} {a : α}
    (h : follow n d l s = .ok (a, t)) : ∃ target u, s.jumps + 1 ≤ l.events.length * 100 ∧
      (l.anchors.find? (·.1 == n)).map (·.2) = some target ∧
        d l ⟨target, s.jumps + 1⟩ = .ok (a, u) ∧ t = ⟨s.rest, u.jumps⟩ := by
  unfold follow at h
  split at h
  · cases h
  · next hlimit =>
    split at h
    · cases h
    · next m target hanchor =>
      split at h
      · cases h
      · next b u hd =>
        cases h
        exact ⟨target, u, Nat.not_lt.mp hlimit, by rw [hanchor]; rfl, hd, rfl⟩

/-! ## Aliases -/

namespace Steady
variable {d : Decoder α} {k : α → Decoder β} {l : Linked} {s t : Supply} {a : α}

theorem jumps_eq {n : Nat} (h : d l s = .ok (a, t))
    (hn : ∀ i ≤ s.jumps, d l ⟨s.rest, i⟩ = .ok (a, ⟨t.rest, i + n⟩)) : t.jumps = s.jumps + n := by
  have hsame := h.symm.trans (hn s.jumps (Nat.le_refl _))
  exact congrArg (fun r => r.2.jumps) (Except.ok.inj hsame)

theorem pure (a : α) : Steady (Pure.pure a : Decoder α) := by
  intro l s b t h
  cases h
  exact ⟨0, fun i _ => rfl⟩

theorem of_error (h : ∀ l s, ∃ f, d l s = .error f) : Steady d := by
  intro l s a t hok
  obtain ⟨f, hf⟩ := h l s
  rw [hf] at hok
  cases hok

theorem ofExcept (x : Except Fault α) : Steady fun _ s => x.map fun a => (a, s) := by
  intro l s a t h
  cases x with
  | error f => cases h
  | ok b =>
    cases h
    exact ⟨0, fun i _ => rfl⟩

theorem bind (hd : Steady d) (hk : ∀ a, Steady (k a)) : Steady (d >>= k) := by
  intro l s b u h
  obtain ⟨a, t, ha, hb⟩ := bind_eq_ok.mp h
  obtain ⟨m, hm⟩ := hd l s a t ha
  obtain ⟨n, hn⟩ := hk a l t b u hb
  refine ⟨m + n, fun i hi => ?_⟩
  have hlater := hn (i + m) (by rw [jumps_eq ha hm]; omega)
  change Decoder.bind d k l ⟨s.rest, i⟩ = _
  rw [Decoder.bind, hm i hi, ← Nat.add_assoc]
  exact hlater

theorem next : Steady next := by
  rintro l ⟨rest, j⟩ e t h
  cases rest with
  | nil => cases h
  | cons e es =>
    cases h
    exact ⟨0, fun i _ => rfl⟩

theorem peek : Steady peek := by
  rintro l ⟨rest, j⟩ e t h
  cases rest with
  | nil => cases h
  | cons e es =>
    cases h
    exact ⟨0, fun i _ => rfl⟩

theorem located (hd : Steady d) (path : String) : Steady (d.located path) := by
  intro l s a t h
  obtain ⟨n, hn⟩ := hd l s a t (located_eq_ok.mp h)
  exact ⟨n, fun i hi => located_eq_ok.mpr (hn i hi)⟩

theorem follow (hd : Steady d) (n : Nat) : Steady (follow n d) := by
  intro l s a t h
  obtain ⟨target, u, hlimit, hanchor, hu, rfl⟩ := follow_eq_ok h
  obtain ⟨m, hm⟩ := hd l ⟨target, s.jumps + 1⟩ a u hu
  refine ⟨1 + m, fun i hi => ?_⟩
  obtain ⟨⟨_, _⟩, hfind, rfl⟩ := Option.map_eq_some_iff.mp hanchor
  unfold Decode.follow
  rw [if_neg (Nat.not_lt.mpr (by dsimp only; omega)), hfind]
  dsimp only
  rw [hm (i + 1) (by simpa using hi), Nat.add_assoc]

end Steady

/-! ## Nodes -/

namespace Reads
variable {opened : Nat} {d : Decoder α}

theorem of_error (h : ∀ l s, ∃ f, d l s = .error f) : Reads opened d where
  steady := .of_error h
  passes := by
    intro l s a t hok
    obtain ⟨f, hf⟩ := h l s
    rw [hf] at hok
    cases hok

theorem fail (f : Fault) : Reads opened (.fail f : Decoder α) := .of_error fun _ _ => ⟨f, rfl⟩

theorem located (hd : Reads opened d) (path : String) : Reads opened (d.located path) where
  steady := hd.steady.located path
  passes := fun l s a t h => hd.passes l s a t (located_eq_ok.mp h)

/-- What was read is accepted or not, and nothing more is taken. -/
theorem check (hd : Reads opened d) {k : α → Decoder β}
    (hk : ∀ a, (∃ f, k a = .fail f) ∨ ∃ b, k a = pure b) : Reads opened (d >>= k) where
  steady := by
    refine hd.steady.bind fun a => ?_
    rcases hk a with ⟨f, hf⟩ | ⟨b, hb⟩
    · rw [hf]
      exact .of_error fun _ _ => ⟨f, rfl⟩
    · rw [hb]
      exact .pure b
  passes := by
    intro l s b t h
    obtain ⟨a, u, ha, hb⟩ := bind_eq_ok.mp h
    rcases hk a with ⟨f, hf⟩ | ⟨c, hc⟩
    · rw [hf] at hb
      cases hb
    · rw [hc] at hb
      cases hb
      exact hd.passes l s a _ ha

theorem map (hd : Reads opened d) (f : α → β) : Reads opened (d >>= fun a => pure (f a)) :=
  hd.check fun a => .inr ⟨f a, rfl⟩

/-- A node, and then what is left of a collection. -/
theorem bind {k : α → Decoder β} (hd : Reads 0 d) (hk : ∀ a, Reads (opened + 1) (k a)) :
    Reads (opened + 1) (d >>= k) where
  steady := hd.steady.bind fun a => (hk a).steady
  passes := by
    intro l s b t h n
    obtain ⟨a, u, ha, hb⟩ := bind_eq_ok.mp h
    have hnode := hd.passes l s a u ha (n + opened + 1)
    rw [passTo_succ] at hnode
    exact hnode.trans ((hk a).passes l u b t hb n)

end Reads

/-- From the first event on, reading is that of a steady reader, and what it leaves is what stands
behind the node. -/
def ReadsFrom (opened : Nat) (e : Event Nat) (es : List (Event Nat))
    (d : Linked → Nat → Except Fault (α × Supply)) : Prop :=
  ∃ (d' : Decoder α) (es' : List (Event Nat)), (∀ l j, d l j = d' l ⟨es', j⟩) ∧ Steady d' ∧
    ∀ l j a t, d' l ⟨es', j⟩ = .ok (a, t) → ∀ n, skipFrom (n + opened) (e :: es) = passTo n t.rest

/-- A reader that looks at the first event before it goes on. -/
theorem Reads.of_cons {opened : Nat} {d : Decoder α}
    (hnil : ∀ l j, ∃ f, d l ⟨[], j⟩ = .error f)
    (hcons : ∀ e es, ReadsFrom opened e es fun l j => d l ⟨e :: es, j⟩) : Reads opened d where
  steady := by
    rintro l ⟨rest, j⟩ a t h
    cases rest with
    | nil =>
      obtain ⟨f, hf⟩ := hnil l j
      rw [hf] at h
      cases h
    | cons e es =>
      obtain ⟨d', es', heq, hsteady, -⟩ := hcons e es
      obtain ⟨n, hn⟩ := hsteady l ⟨es', j⟩ a t ((heq l j).symm.trans h)
      exact ⟨n, fun i hi => (heq l i).trans (hn i hi)⟩
  passes := by
    rintro l ⟨rest, j⟩ a t h
    cases rest with
    | nil =>
      obtain ⟨f, hf⟩ := hnil l j
      rw [hf] at h
      cases h
    | cons e es =>
      obtain ⟨d', es', heq, -, hpasses⟩ := hcons e es
      exact hpasses l j a t ((heq l j).symm.trans h)

/-- Whether an event is a scalar. -/
def isScalar : Event Nat → Bool
  | .scalar _ _ _ => true
  | _ => false

namespace ReadsFrom
variable {opened : Nat} {e : Event Nat} {es : List (Event Nat)} {d : Decoder α}

theorem of_error (f : Linked → Fault) :
    ReadsFrom (α := α) opened e es fun l _ => .error (f l) :=
  ⟨fun l _ => .error (f l), es, fun _ _ => rfl, .of_error fun l _ => ⟨f l, rfl⟩,
    fun _ _ _ _ h => by cases h⟩

/-- The first event is left to another reader. -/
theorem same (hd : Reads opened d) : ReadsFrom opened e es fun l j => d l ⟨e :: es, j⟩ :=
  ⟨d, e :: es, fun _ _ => rfl, hd.steady, fun l _ a t h => hd.passes l _ a t h⟩

/-- An alias is a node by itself, whatever is read where it leads. -/
theorem «alias» (hd : Steady d) (m : Nat) :
    ReadsFrom 0 (.alias m) es fun l j => follow m d l ⟨es, j⟩ := by
  refine ⟨follow m d, es, fun _ _ => rfl, hd.follow m, fun l j a t h n => ?_⟩
  obtain ⟨-, -, -, -, -, rfl⟩ := follow_eq_ok h
  rfl

/-- An event that opens a collection, which is then read to its end. -/
theorem collection (he : ∀ n, skipFrom n (e :: es) = skipFrom (n + 1) es) (hd : Reads 1 d) :
    ReadsFrom 0 e es fun l j => d l ⟨es, j⟩ :=
  ⟨d, es, fun _ _ => rfl, hd.steady, fun l _ a t h n => (he n).trans (hd.passes l _ a t h n)⟩

theorem scalar (he : isScalar e = true) (x : Except Fault α) :
    ReadsFrom 0 e es fun _ j => x.map fun a => (a, ⟨es, j⟩) := by
  refine ⟨fun _ s => x.map fun a => (a, s), es, fun _ _ => rfl, .ofExcept x, ?_⟩
  intro l j a t h n
  cases x with
  | error f => cases h
  | ok b =>
    cases h
    cases e with
    | scalar p style s => rfl
    | _ => cases he

end ReadsFrom

theorem reads_items {fuel : Nat} {path : String} {depth index : Nat}
    (hvalue : ∀ path, Reads 0 (value fuel false path depth))
    (hitems : ∀ index, Reads 1 (items fuel path depth index)) :
    Reads 1 (items (fuel + 1) path depth index) := by
  have hrest : Reads 1 (do
      let v ← value fuel false (itemPath path index) depth
      pure (v :: (← items fuel path depth (index + 1))) : Decoder (List Value)) :=
    (hvalue _).bind fun v => (hitems _).map (v :: ·)
  rw [items]
  refine Reads.of_cons (fun l j => ⟨ended l, rfl⟩) fun e es => ?_
  cases e with
  | sequenceEnd =>
    refine ⟨pure [], es, fun _ _ => rfl, .pure [], fun l j a t h n => ?_⟩
    cases h
    rfl
  | _ => exact .same hrest

theorem reads_entries {fuel : Nat} {path : String} {depth : Nat} {known : List Value}
    (hvalue : ∀ path, Reads 0 (value fuel false path depth))
    (hentries : ∀ known, Reads 1 (entries fuel path depth known)) :
    Reads 1 (entries (fuel + 1) path depth known) := by
  have hentry (e : Event Nat) : Reads 1 (do
      let k ← value fuel false path depth
      if known.any (·.same k) then .fail .repeatedEntry
      else
        let v ← value fuel false (entryPath path e) depth
        pure ((k, v) :: (← entries fuel path depth (k :: known))) :
          Decoder (List (Value × Value))) := by
    refine (hvalue path).bind fun k => ?_
    split
    · exact .fail _
    · exact (hvalue _).bind fun v => (hentries _).map ((k, v) :: ·)
  rw [entries]
  refine Reads.of_cons (fun l j => ⟨ended l, rfl⟩) fun e es => ?_
  cases e with
  | mappingEnd =>
    refine ⟨pure [], es, fun _ _ => rfl, .pure [], fun l j a t h n => ?_⟩
    cases h
    rfl
  | _ => exact .same (hentry _)

theorem reads_value_succ {fuel : Nat} {tagRead : Bool} {path : String} {depth : Nat}
    (hvalue : ∀ tagRead path depth, Reads 0 (value fuel tagRead path depth))
    (hitems : ∀ path depth index, Reads 1 (items fuel path depth index))
    (hentries : ∀ path depth known, Reads 1 (entries fuel path depth known)) :
    Reads 0 (value (fuel + 1) tagRead path depth) := by
  rw [value]
  refine Reads.located (Reads.of_cons (fun l j => ⟨ended l, rfl⟩) fun e es => ?_) path
  -- Behind its own tag the same node is read once more.
  have htagged (tag : List Char) : ReadsFrom 0 e es fun l j =>
      (do pure (Value.tagged (String.ofList tag) (← value fuel true path depth))) l ⟨e :: es, j⟩ :=
    .same ((hvalue true path depth).map (Value.tagged (String.ofList tag)))
  cases e with
  | scalar p style s =>
    dsimp only
    split
    · next tag _ => exact htagged tag
    · exact .scalar rfl _
  | «alias» m => exact .alias (hvalue false path depth).steady m
  | sequenceStart p =>
    have hitems : Reads 1 (if depth = 0 then .fail .tooDeep else do
        pure (Value.sequence (← items fuel path (depth - 1) 0)) : Decoder Value) := by
      split
      · exact .fail _
      · exact (hitems path (depth - 1) 0).map Value.sequence
    dsimp only
    split
    · next tag _ => exact htagged tag
    · exact .collection (fun _ => rfl) hitems
  | mappingStart p =>
    have hentries : Reads 1 (if depth = 0 then .fail .tooDeep else do
        pure (Value.mapping (← entries fuel path (depth - 1) [])) : Decoder Value) := by
      split
      · exact .fail _
      · exact (hentries path (depth - 1) []).map Value.mapping
    dsimp only
    split
    · next tag _ => exact htagged tag
    · exact .collection (fun _ => rfl) hentries
  | sequenceEnd | mappingEnd => exact .of_error ended

theorem reads_nested (fuel : Nat) :
    (∀ tagRead path depth, Reads 0 (value fuel tagRead path depth)) ∧
      (∀ path depth index, Reads 1 (items fuel path depth index)) ∧
        ∀ path depth known, Reads 1 (entries fuel path depth known) := by
  induction fuel with
  | zero =>
    simp only [value, items, entries]
    exact ⟨fun _ _ _ => .fail _, fun _ _ _ => .fail _, fun _ _ _ => .fail _⟩
  | succ fuel ih =>
    obtain ⟨hvalue, hitems, hentries⟩ := ih
    exact ⟨fun tagRead path depth => reads_value_succ hvalue hitems hentries,
      fun path depth index => reads_items (fun path => hvalue false path depth) (hitems path depth),
      fun path depth known =>
        reads_entries (fun path => hvalue false path depth) (hentries path depth)⟩

theorem reads_value (fuel : Nat) (tagRead : Bool) (path : String) (depth : Nat) :
    Reads 0 (value fuel tagRead path depth) := (reads_nested fuel).1 tagRead path depth

/-! ## Scalars -/

/-- A reader that takes nothing, and only accepts what is known to be a scalar. -/
def OfScalar (d : Event Nat → Decoder α) : Prop :=
  ∀ e, (∃ f, d e = .fail f) ∨ isScalar e = true ∧ ∃ a, d e = .pure a

theorem OfScalar.steady {d : Event Nat → Decoder α} (hd : OfScalar d) (e : Event Nat) :
    Steady (d e) := by
  rcases hd e with ⟨f, hf⟩ | ⟨-, a, ha⟩
  · rw [hf]
    exact .of_error fun _ _ => ⟨f, rfl⟩
  · rw [ha]
    exact .pure a

theorem reads_resolved {d : Event Nat → Decoder α} (hd : OfScalar d) (path : String) :
    Reads 0 (resolved path d) := by
  refine Reads.located (Reads.of_cons (fun l j => ⟨ended l, rfl⟩) fun e es => ?_) path
  have hhere : ReadsFrom 0 e es fun l j => d e l ⟨es, j⟩ := by
    rcases hd e with ⟨f, hf⟩ | ⟨hscalar, a, ha⟩
    · rw [hf]
      exact .of_error fun _ => f
    · rw [ha]
      exact .scalar hscalar (.ok a)
  cases e with
  | «alias» m => exact .alias (Steady.next.bind hd.steady) m
  | _ => exact hhere

theorem reads_text (wanted path : String) : Reads 0 (text wanted path) := by
  refine reads_resolved (fun e => ?_) path
  cases e with
  | scalar p style s => exact .inr ⟨rfl, _, rfl⟩
  | _ => exact .inl ⟨_, rfl⟩

theorem reads_bool (path : String) : Reads 0 (bool path) := by
  refine reads_resolved (fun e => ?_) path
  dsimp only
  split
  · next b hb =>
    cases e with
    | scalar p style s => exact .inr ⟨rfl, b, rfl⟩
    | _ => cases hb
  · exact .inl ⟨_, rfl⟩

theorem reads_optionalHere {d : Decoder α} (hd : Reads 0 d) : Reads 0 (optionalHere d) := by
  refine Reads.of_cons (fun l j => ⟨ended l, rfl⟩) fun e es => ?_
  dsimp only [optionalHere, bind, Decoder.bind, peek]
  cases hpresent : isPresent e with
  | error f => exact .of_error fun _ => f
  | ok present =>
    cases present with
    | true => exact .same (hd.map some)
    | false =>
      have hscalar : isScalar e = true := by
        cases e with
        | scalar p style s => rfl
        | _ => cases hpresent
      exact .scalar hscalar (.ok none)

theorem reads_optional {d : Decoder α} (hd : Reads 0 d) : Reads 0 (optional d) := by
  have hhere := reads_optionalHere hd
  refine Reads.of_cons (fun l j => ⟨ended l, rfl⟩) fun e es => ?_
  cases e with
  | «alias» m => exact .alias hhere.steady m
  | _ => exact .same (d := optionalHere d) hhere

end PluginRelease.Yaml.Decode
