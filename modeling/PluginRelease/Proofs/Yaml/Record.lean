import PluginRelease.Proofs.Yaml.Page

/-!
Reading a record from the events of a written page. Each field is read from its own entry, so
what is left to show of a shape is how it reads one value.
-/
namespace PluginRelease.Yaml.Decode
open Writer Scan

/-- What a written value means: nothing, or the text itself. -/
theorem meaning_value (v : Option (List Char)) :
    meaning false ⟨none, none⟩ (readStyle v) (readText v) =
      .ok (match v with
        | none => .null
        | some _ => .text) := by
  cases v with
  | none => rfl
  | some s =>
    have hfits := fits_style s
    cases hstyle : style s with
    | plain =>
      rw [hstyle] at hfits
      have htext : Meaning.ofPlain s = .text := by
        have h := hfits.2.2
        rw [needsQuotes, Bool.or_eq_false_iff] at h
        simpa using h.1
      simp [meaning, readStyle, readText, hstyle, styleRead, htext]
    | single => simp [meaning, readStyle, hstyle, styleRead]
    | double => simp [meaning, readStyle, hstyle, styleRead]
    | literal => simp [meaning, readStyle, hstyle, styleRead]

variable {l : Linked} {rest : List (Event Nat)} {jumps : Nat} {path : String} {depth : Nat}

/-- A scalar that neither has a tag nor is an alias is what it means. -/
theorem value_bare {fuel : Nat} {style : ScalarStyle} {s : List Char} :
    value (fuel + 1) false path depth l ⟨bareScalar style s :: rest, jumps⟩ =
      ((scalarValue false ⟨none, none⟩ style s).mapError (·.located path)).map
        fun v => (v, ⟨rest, jumps⟩) := by
  rw [value]
  simp only [Decoder.located, bareScalar, ownTag?]
  cases scalarValue false ⟨none, none⟩ style s with
  | error f => rfl
  | ok v => rfl

/-- The value of an entry. -/
theorem value_written (fuel : Nat) (v : Option (List Char)) :
    value (fuel + 1) false path depth l
        ⟨bareScalar (readStyle v) (readText v) :: rest, jumps⟩ =
      .ok (match v with
        | none => .null
        | some s => .text (String.ofList s), ⟨rest, jumps⟩) := by
  rw [value_bare, scalarValue, meaning_value]
  cases v <;> rfl

theorem text_key (wanted : String) (k : List Char) :
    text wanted path l ⟨bareScalar .plain k :: rest, jumps⟩ =
      .ok (String.ofList k, ⟨rest, jumps⟩) := rfl

variable {α : Type} {shape : Shape α}

/-- How a shape takes the entries of a page: each has a reader, which stores what was
written. -/
structure Takes (shape : Shape α) (store : α → List Char × Option (List Char) → α)
    (es : List (List Char × Option (List Char))) : Prop where
  read : ∀ e ∈ es, ∃ d, shape.field (String.ofList e.1) = some d ∧
    ∀ fuel path depth a l rest jumps, d (fuel + 1) path depth a l
      ⟨bareScalar (readStyle e.2) (readText e.2) :: rest, jumps⟩ = .ok (store a e, ⟨rest, jumps⟩)
  nodup : (es.map (·.1)).Nodup

/-- The key of a field that was not read before. -/
theorem recordEntries_key {fuel : Nat} {known : List String} {a : α} {k : List Char}
    {d : Nat → String → Nat → α → Decoder α} (hfield : shape.field (String.ofList k) = some d)
    (hnew : String.ofList k ∉ known) :
    recordEntries shape (fuel + 1) path depth known a l
        ⟨bareScalar .plain k :: rest, jumps⟩ =
      (d fuel (entryPath path (bareScalar .plain k)) depth a).bind
        (recordEntries shape fuel path depth (String.ofList k :: known)) l ⟨rest, jumps⟩ := by
  have hcontains : ¬ known.contains (String.ofList k) = true := by simpa using hnew
  rw [recordEntries]
  simp only [bind, Decoder.bind, text_key, hfield, if_neg hcontains]
  rfl

/-- One entry with a field that was not read before. -/
theorem recordEntries_entry {fuel : Nat} {known : List String} {a b : α} {k t : List Char}
    {style : ScalarStyle} {d : Nat → String → Nat → α → Decoder α}
    (hfield : shape.field (String.ofList k) = some d) (hnew : String.ofList k ∉ known)
    (hd : d fuel (entryPath path (bareScalar .plain k)) depth a l
      ⟨bareScalar style t :: rest, jumps⟩ = .ok (b, ⟨rest, jumps⟩)) :
    recordEntries shape (fuel + 1) path depth known a l
        ⟨bareScalar .plain k :: bareScalar style t :: rest, jumps⟩ =
      recordEntries shape fuel path depth (String.ofList k :: known) b l ⟨rest, jumps⟩ := by
  rw [recordEntries_key hfield hnew, Decoder.bind, hd]

theorem recordEntries_page {store : α → List Char × Option (List Char) → α}
    {es : List (List Char × Option (List Char))} (hes : Takes shape store es)
    {known : List String} (hknown : ∀ e ∈ es, String.ofList e.1 ∉ known) (fuel : Nat) (a : α) :
    recordEntries shape (fuel + es.length + 2) path depth known a l
        ⟨es.flatMap entryEvents ++ [.mappingEnd], jumps⟩ =
      .ok (es.foldl store a, ⟨[], jumps⟩) := by
  induction es generalizing known a with
  | nil => rfl
  | cons e es ih =>
    obtain ⟨d, hfield, hd⟩ := hes.read e List.mem_cons_self
    have htail : Takes shape store es :=
      ⟨fun f hf => hes.read f (List.mem_cons_of_mem e hf), (List.nodup_cons.mp hes.nodup).2⟩
    have hlater : ∀ f ∈ es, String.ofList f.1 ∉ String.ofList e.1 :: known := by
      intro f hf hmem
      rcases List.mem_cons.mp hmem with h | h
      · have hkey : f.1 = e.1 := by simpa using congrArg String.toList h
        exact (List.nodup_cons.mp hes.nodup).1 (List.mem_map.mpr ⟨f, hf, hkey⟩)
      · exact hknown f (List.mem_cons_of_mem e hf) h
    have hfuel : fuel + (e :: es).length + 2 = fuel + es.length + 2 + 1 := by
      rw [List.length_cons]
      omega
    have hentry := recordEntries_entry hfield (hknown e List.mem_cons_self)
      (hd (fuel + es.length + 1) (entryPath path (bareScalar .plain e.1)) depth a l
        (es.flatMap entryEvents ++ [.mappingEnd]) jumps)
    rw [hfuel, List.flatMap_cons, List.append_assoc]
    exact hentry.trans (ih htail hlater (store a e))

/-- A document that is one mapping, of whose events none has a name. -/
theorem ofDocument_mapping {named : List Event.Named} {es : List (Event Nat)}
    {r : Except Fault α}
    (hlinked : Linked.ofDocument ⟨named, none, false⟩ =
      ⟨.mappingStart ⟨none, none⟩ :: es, [], none⟩)
    (hentries : recordEntries shape ((depthLimit + 2) * (es.length + 4)) "" (depthLimit - 1) []
      shape.empty ⟨.mappingStart ⟨none, none⟩ :: es, [], none⟩ ⟨es, 0⟩ =
        r.map fun a => (a, ⟨[], 0⟩)) :
    ofDocument shape ⟨named, none, false⟩ = (r.mapError (·.located "")).map some := by
  have hoptional : optional (record shape ((depthLimit + 2) * (es.length + 4)) "" depthLimit)
      ⟨.mappingStart ⟨none, none⟩ :: es, [], none⟩ ⟨.mappingStart ⟨none, none⟩ :: es, 0⟩ =
        (r.mapError (·.located "")).map fun a => (some a, ⟨[], 0⟩) := by
    change ((Decoder.located "" (recordEntries shape ((depthLimit + 2) * (es.length + 4)) ""
      (depthLimit - 1) [] shape.empty)).bind fun a => Decoder.pure (some a))
        ⟨.mappingStart ⟨none, none⟩ :: es, [], none⟩ ⟨es, 0⟩ = _
    rw [Decoder.bind, Decoder.located, hentries]
    cases r with
    | error f => rfl
    | ok a => rfl
  rw [ofDocument, hlinked]
  dsimp only [List.length_cons]
  rw [hoptional]
  cases r with
  | error f => rfl
  | ok a => rfl

/-- A shape reads a whole page back. -/
theorem ofText_page {store : α → List Char × Option (List Char) → α}
    {es : List (List Char × Option (List Char))} (hne : es ≠ []) (hkeys : ∀ e ∈ es, IsKey e.1)
    (hes : Takes shape store es) :
    ofText shape (String.ofList (mapping es)) = .ok (some (es.foldl store shape.empty)) := by
  let events : List (Event Nat) := es.flatMap entryEvents ++ [.mappingEnd]
  obtain ⟨k, hk⟩ : ∃ k, (depthLimit + 2) * (events.length + 4) = k + es.length + 2 :=
    ⟨(depthLimit + 2) * (events.length + 4) - (es.length + 2), by
      simp only [events, List.length_append, length_entryEvents, List.length_singleton, depthLimit]
      omega⟩
  have hentries : recordEntries shape ((depthLimit + 2) * (events.length + 4)) ""
      (depthLimit - 1) [] shape.empty ⟨.mappingStart ⟨none, none⟩ :: events, [], none⟩
        ⟨events, 0⟩ = .ok (es.foldl store shape.empty, ⟨[], 0⟩) := by
    rw [hk]
    exact recordEntries_page hes (by simp) k shape.empty
  rw [ofText, String.toList_ofList, ofText_mapping hne hkeys]
  exact ofDocument_mapping (r := .ok _) (Linked.ofDocument_page es) hentries

end PluginRelease.Yaml.Decode
