import PluginRelease.Proofs.Yaml.Node

/-!
One field of a record. What a record holds in a field is what the text holds under the key of
that field, however the other entries are read.
-/
namespace PluginRelease.Yaml.Decode
variable {α β : Type}

/-- The value under one key; every other key is passed over. -/
def Shape.one (key : String) (reader : Nat → String → Nat → Decoder (Option β)) :
    Shape (Option β) where
  wanted := "struct"
  empty := none
  field name := if name = key then some fun fuel path depth _ => reader fuel path depth else none

/-- One field of a record is read from one key, and other keys do not touch it. -/
structure Shape.Holds (shape : Shape α) (key : String)
    (reader : Nat → String → Nat → Decoder (Option β)) (view : α → Option β) : Prop where
  empty : view shape.empty = none
  steady : ∀ fuel path depth, Steady (reader fuel path depth)
  own : ∃ put : α → Option β → α, (∀ a v, view (put a v) = v) ∧
    shape.field key = some fun fuel path depth a => do pure (put a (← reader fuel path depth))
  others : ∀ name read, name ≠ key → shape.field name = some read → ∀ fuel path depth a,
    Reads 0 (read fuel path depth a) ∧
      ∀ l s b t, read fuel path depth a l s = .ok (b, t) → view b = view a

/-! ## Entries -/

/-- One entry of a record, from its key to the end of its value. -/
inductive ReadsEntry (shape : Shape α) (fuel : Nat) (path : String) (depth : Nat) (l : Linked) :
    List String × α × Supply → List String × α × Supply → Prop
  | passed {known : List String} {a : α} {s u : Supply} {key : String} {rest : List (Event Nat)}
      (hkey : text "field identifier" path l s = .ok (key, u)) (hfield : shape.field key = none)
      (hskip : skipFrom 0 u.rest = some rest) :
      ReadsEntry shape fuel path depth l (known, a, s) (known, a, ⟨rest, u.jumps⟩)
  | taken {known : List String} {a b : α} {e : Event Nat} {es : List (Event Nat)} {j : Nat}
      {u t : Supply} {key : String} {read : Nat → String → Nat → α → Decoder α}
      (hkey : text "field identifier" path l ⟨e :: es, j⟩ = .ok (key, u))
      (hfield : shape.field key = some read) (hnew : key ∉ known)
      (hread : read fuel (entryPath path e) depth a l u = .ok (b, t)) :
      ReadsEntry shape fuel path depth l (known, a, ⟨e :: es, j⟩) (key :: known, b, t)

/-- The reader of an entry and of what is left behind it. -/
theorem recordEntries_cons {shape : Shape α} {fuel : Nat} {path : String} {depth : Nat}
    {known : List String} {a : α} {l : Linked} {e : Event Nat} (he : e ≠ .mappingEnd)
    (es : List (Event Nat)) (j : Nat) :
    recordEntries shape (fuel + 1) path depth known a l ⟨e :: es, j⟩ =
      (do
        let key ← text "field identifier" path
        match shape.field key with
        | none => skip; recordEntries shape fuel path depth known a
        | some read =>
          if known.contains key then .fail (.unfit ("duplicate field `" ++ key ++ "`") none)
          else
            let a ← read fuel (entryPath path e) depth a
            recordEntries shape fuel path depth (key :: known) a : Decoder α) l ⟨e :: es, j⟩ := by
  cases e with
  | mappingEnd => exact absurd rfl he
  | _ => rfl

/-- An entry starts with an event, which is its key. -/
theorem ReadsEntry.exists_cons {shape : Shape α} {fuel : Nat} {path : String} {depth : Nat}
    {l : Linked} {known known' : List String} {a a' : α} {s s' : Supply}
    (h : ReadsEntry shape fuel path depth l (known, a, s) (known', a', s')) :
    ∃ e es, s.rest = e :: es ∧ e ≠ .mappingEnd := by
  have hkey : ∃ key u, text "field identifier" path l s = .ok (key, u) := by
    cases h with
    | passed hkey _ _ => exact ⟨_, _, hkey⟩
    | taken hkey _ _ _ => exact ⟨_, _, hkey⟩
  obtain ⟨key, u, hkey⟩ := hkey
  obtain ⟨rest, j⟩ := s
  cases rest with
  | nil => cases hkey
  | cons e es =>
    refine ⟨e, es, rfl, ?_⟩
    rintro rfl
    cases hkey

/-- A record goes on with an entry, or it is over. -/
theorem recordEntries_eq_ok_iff {shape : Shape α} {fuel : Nat} {path : String} {depth : Nat}
    {known : List String} {a : α} {l : Linked} {s : Supply} {r : α × Supply} :
    recordEntries shape (fuel + 1) path depth known a l s = .ok r ↔
      (∃ es, s.rest = .mappingEnd :: es ∧ r = (a, ⟨es, s.jumps⟩)) ∨
        ∃ known' a' s', ReadsEntry shape fuel path depth l (known, a, s) (known', a', s') ∧
          recordEntries shape fuel path depth known' a' l s' = .ok r := by
  obtain ⟨rest, j⟩ := s
  constructor
  · intro h
    cases rest with
    | nil => cases h
    | cons e es =>
      by_cases he : e = .mappingEnd
      · subst he
        cases h
        exact .inl ⟨es, rfl, rfl⟩
      · right
        rw [recordEntries_cons he] at h
        obtain ⟨key, u, hkey, h⟩ := bind_eq_ok.mp h
        cases hfield : shape.field key with
        | none =>
          rw [hfield] at h
          obtain ⟨_, v, hskip, h⟩ := bind_eq_ok.mp h
          unfold skip at hskip
          split at hskip
          · cases hskip
          · next later hlater =>
            cases hskip
            exact ⟨known, a, _, .passed hkey hfield hlater, h⟩
        | some read =>
          rw [hfield] at h
          dsimp only at h
          split at h
          · cases h
          · next hnew =>
            obtain ⟨b, t, hread, h⟩ := bind_eq_ok.mp h
            exact ⟨key :: known, b, t, .taken hkey hfield (by simpa using hnew) hread, h⟩
  · rintro (⟨es, hrest, rfl⟩ | ⟨known', a', s', hentry, h⟩)
    · obtain rfl : rest = .mappingEnd :: es := hrest
      rfl
    · obtain ⟨e, es, hrest, he⟩ := hentry.exists_cons
      obtain rfl : rest = e :: es := hrest
      rw [recordEntries_cons he]
      cases hentry with
      | passed hkey hfield hskip =>
        refine bind_eq_ok.mpr ⟨_, _, hkey, ?_⟩
        rw [hfield]
        exact bind_eq_ok.mpr ⟨(), _, by rw [skip, hskip], h⟩
      | taken hkey hfield hnew hread =>
        refine bind_eq_ok.mpr ⟨_, _, hkey, ?_⟩
        rw [hfield]
        dsimp only
        rw [if_neg (by simpa using hnew)]
        exact bind_eq_ok.mpr ⟨_, _, hread, h⟩

/-! ## One field among others -/

/-- The second reader takes what the first takes, and reads a part of what the first reads. -/
def Tracks (view : α → β) (d : Decoder α) (d' : Decoder β) : Prop :=
  ∀ l s a t, d l s = .ok (a, t) →
    ∀ i ≤ s.jumps, ∃ k ≤ t.jumps, d' l ⟨s.rest, i⟩ = .ok (view a, ⟨t.rest, k⟩)

theorem Steady.tracks {d : Decoder α} (hd : Steady d) : Tracks id d d := by
  intro l s a t h i hi
  obtain ⟨n, hn⟩ := hd l s a t h
  refine ⟨i + n, ?_, hn i hi⟩
  rw [Steady.jumps_eq h hn]
  omega

namespace Tracks
variable {γ δ : Type} {view : α → β} {d : Decoder α} {d' : Decoder β}

theorem pure (a : α) : Tracks view (Pure.pure a) (Pure.pure (view a)) := by
  intro l s b t h i hi
  cases h
  exact ⟨i, hi, rfl⟩

theorem of_error (h : ∀ l s, ∃ f, d l s = .error f) : Tracks view d d' := by
  intro l s a t hok
  obtain ⟨f, hf⟩ := h l s
  rw [hf] at hok
  cases hok

theorem bind {part : γ → δ} {k : α → Decoder γ} {k' : β → Decoder δ} (hd : Tracks view d d')
    (hk : ∀ a, Tracks part (k a) (k' (view a))) : Tracks part (d >>= k) (d' >>= k') := by
  intro l s c t h i hi
  obtain ⟨a, u, ha, hc⟩ := bind_eq_ok.mp h
  obtain ⟨m, hm, ha'⟩ := hd l s a u ha i hi
  obtain ⟨n, hn, hc'⟩ := hk a l u c t hc m hm
  exact ⟨n, hn, bind_eq_ok.mpr ⟨_, _, ha', hc'⟩⟩

theorem located (hd : Tracks view d d') (path : String) :
    Tracks view (d.located path) (d'.located path) := by
  intro l s a t h i hi
  obtain ⟨k, hk, h'⟩ := hd l s a t (located_eq_ok.mp h) i hi
  exact ⟨k, hk, located_eq_ok.mpr h'⟩

theorem follow (hd : Tracks view d d') (n : Nat) :
    Tracks view (follow n d) (Decode.follow n d') := by
  intro l s a t h i hi
  obtain ⟨target, u, hlimit, hanchor, hu, rfl⟩ := follow_eq_ok h
  obtain ⟨k, hk, h'⟩ := hd l ⟨target, s.jumps + 1⟩ a u hu (i + 1) (by simpa using hi)
  obtain ⟨⟨_, _⟩, hfind, rfl⟩ := Option.map_eq_some_iff.mp hanchor
  refine ⟨k, hk, ?_⟩
  unfold Decode.follow
  rw [if_neg (Nat.not_lt.mpr (by dsimp only; omega)), hfind]
  dsimp only
  rw [h']

theorem resolved {d : Event Nat → Decoder α} {d' : Event Nat → Decoder β}
    (hd : ∀ e, Tracks view (d e) (d' e)) (path : String) :
    Tracks view (resolved path d) (Decode.resolved path d') := by
  refine Tracks.located (Steady.next.tracks.bind fun e => ?_) path
  cases e with
  | «alias» n => exact (Steady.next.tracks.bind hd).follow n
  | _ => exact hd _

theorem optionalHere (hd : Tracks view d d') :
    Tracks (Option.map view) (optionalHere d) (Decode.optionalHere d') := by
  refine Steady.peek.tracks.bind fun e => ?_
  dsimp only [id]
  cases isPresent e with
  | error f => exact .of_error fun _ _ => ⟨f, rfl⟩
  | ok present =>
    cases present with
    | true => exact hd.bind fun a => .pure (some a)
    | false => exact Steady.next.tracks.bind fun _ => .pure none

theorem optional (hd : Tracks view d d') :
    Tracks (Option.map view) (optional d) (Decode.optional d') := by
  refine Steady.peek.tracks.bind fun e => ?_
  cases e with
  | «alias» n => exact Steady.next.tracks.bind fun _ => hd.optionalHere.follow n
  | _ => exact hd.optionalHere

end Tracks

section Holds
variable {shape : Shape α} {key : String}
  {reader : Nat → String → Nat → Decoder (Option β)} {view : α → Option β}
  (hholds : shape.Holds key reader view) {fuel : Nat} {path : String} {depth : Nat}
include hholds

/-- One entry. Where it is not that of the field, its value is passed over. -/
theorem ReadsEntry.one {l : Linked} {known known' later : List String} {a b : α}
    {s t : Supply} {i : Nat}
    (hentry : ReadsEntry shape fuel path depth l (known, a, s) (later, b, t))
    (hknown : key ∈ known' ↔ key ∈ known) (hi : i ≤ s.jumps) :
    ∃ later' k, (key ∈ later' ↔ key ∈ later) ∧ k ≤ t.jumps ∧
      ReadsEntry (.one key reader) fuel path depth l (known', view a, ⟨s.rest, i⟩)
        (later', view b, ⟨t.rest, k⟩) := by
  obtain ⟨put, hput, hown⟩ := hholds.own
  cases hentry with
  | @passed _ _ _ u name rest hname hfield hskip =>
    obtain ⟨m, hm, hname'⟩ := (reads_text _ path).steady.tracks l s name u hname i hi
    have hother : name ≠ key := by
      rintro rfl
      rw [hown] at hfield
      cases hfield
    exact ⟨known', m, hknown, hm, .passed hname' (if_neg hother) hskip⟩
  | @taken _ _ _ e es j u t name read hname hfield hnew hread =>
    obtain ⟨m, hm, hname'⟩ := (reads_text _ path).steady.tracks l _ name u hname i hi
    by_cases hkey : name = key
    · subst hkey
      rw [hown] at hfield
      cases hfield
      obtain ⟨v, w, hv, hb⟩ := bind_eq_ok.mp hread
      cases hb
      obtain ⟨k, hk, hv'⟩ := (hholds.steady fuel _ depth).tracks l u v _ hv m hm
      refine ⟨name :: known', k, by simp, hk, ?_⟩
      rw [hput]
      exact .taken hname' (if_pos rfl) (fun h => hnew (hknown.mp h)) hv'
    · obtain ⟨hreads, hview⟩ := hholds.others name read hkey hfield fuel (entryPath path e) depth a
      have hpast := hreads.passes l u b t hread 0
      obtain ⟨n, hn⟩ := hreads.steady l u b t hread
      have hjumps := Steady.jumps_eq hread hn
      refine ⟨known', m, ?_, by omega, ?_⟩
      · rw [hknown, List.mem_cons]
        exact (or_iff_right fun h => hkey h.symm).symm
      · rw [hview l u b t hread]
        exact .passed hname' (if_neg hkey) hpast

/-- A whole record, entry after entry. -/
theorem recordEntries_one {known known' : List String} (hknown : key ∈ known' ↔ key ∈ known)
    (a : α) : Tracks view (recordEntries shape fuel path depth known a)
      (recordEntries (.one key reader) fuel path depth known' (view a)) := by
  induction fuel generalizing known known' a with
  | zero => exact .of_error fun _ _ => ⟨_, rfl⟩
  | succ fuel ih =>
    intro l s b t h i hi
    rcases recordEntries_eq_ok_iff.mp h with ⟨es, hrest, heq⟩ | ⟨later, a', s', hentry, hlater⟩
    · cases heq
      exact ⟨i, hi, recordEntries_eq_ok_iff.mpr (.inl ⟨es, hrest, rfl⟩)⟩
    · obtain ⟨later', m, hsame, hm, hentry'⟩ := hentry.one hholds hknown hi
      obtain ⟨k, hk, hlater'⟩ := ih hsame a' l s' b t hlater m hm
      exact ⟨k, hk, recordEntries_eq_ok_iff.mpr (.inr ⟨later', _, _, hentry', hlater'⟩)⟩

theorem record_one :
    Tracks view (record shape fuel path depth) (record (.one key reader) fuel path depth) := by
  refine Tracks.resolved (fun e => ?_) path
  have hempty : Tracks view (.pure shape.empty) (.pure none) := by
    rw [← hholds.empty]
    exact .pure shape.empty
  have hentries : Tracks view (recordEntries shape fuel path (depth - 1) [] shape.empty)
      (recordEntries (.one key reader) fuel path (depth - 1) [] none) := by
    rw [← hholds.empty]
    exact recordEntries_one hholds Iff.rfl shape.empty
  have hother (e : Event Nat) : Tracks view
      (if isEmptyPlain e then .pure shape.empty else .fail (misfit shape.wanted e))
      (if isEmptyPlain e then .pure none else .fail (misfit "struct" e)) := by
    split
    · exact hempty
    · exact .of_error fun _ _ => ⟨_, rfl⟩
  cases e with
  | mappingStart p =>
    dsimp only
    split
    · exact .of_error fun _ _ => ⟨_, rfl⟩
    · exact hentries
  | _ => exact hother _

theorem ofDocument_one {d : Document} {r : Option α} (h : ofDocument shape d = .ok r) :
    ofDocument (.one key reader) d = .ok (r.map view) := by
  have hread (l : Linked) (fuel : Nat) (x : Option α)
      (hx : (if l.events.isEmpty && l.fault.isNone then .ok none
        else (optional (record shape fuel "" depthLimit) l ⟨l.events, 0⟩).map (·.1)) = .ok x) :
      (if l.events.isEmpty && l.fault.isNone then .ok none
        else (optional (record (.one key reader) fuel "" depthLimit) l ⟨l.events, 0⟩).map (·.1)) =
          .ok (x.map view) := by
    split at hx
    · next hnone =>
      cases hx
      rw [if_pos hnone]
      rfl
    · next hsome =>
      rw [if_neg hsome]
      cases hd : optional (record shape fuel "" depthLimit) l ⟨l.events, 0⟩ with
      | error f =>
        rw [hd] at hx
        cases hx
      | ok p =>
        rw [hd] at hx
        cases hx
        obtain ⟨k, -, hone⟩ := (record_one hholds).optional l _ p.1 p.2 hd 0 (Nat.le_refl 0)
        rw [hone]
        rfl
  unfold ofDocument at h ⊢
  dsimp only at h ⊢
  split at h
  · cases h
  · cases h
  · next x hx hfault =>
    rw [hread _ _ x hx, hfault]
    dsimp only
    split at h
    · cases h
    · next hlast =>
      cases h
      rw [if_neg hlast]

theorem ofText_one {s : String} {r : Option α} (h : ofText shape s = .ok r) :
    ofText (.one key reader) s = .ok (r.map view) := ofDocument_one hholds h

end Holds

end PluginRelease.Yaml.Decode
