import PluginRelease.Descriptor.Codec
import PluginRelease.Proofs.Text.Utf8
import PluginRelease.Proofs.Workspace.Write
import PluginRelease.Proofs.Yaml.Record

/-!
The page of a descriptor reads back as the descriptor, whatever texts its fields hold.
-/
namespace PluginRelease.Descriptor
open Yaml Yaml.Writer

/-- What is written of a field. -/
def pageEntry (d : Descriptor) (f : Field) : List Char × Option (List Char) :=
  (f.name.toList, (d.get f).map String.toList)

/-- An entry stores its text in the field that its key names. -/
def store (d : Descriptor) (e : List Char × Option (List Char)) : Descriptor :=
  match Field.ofName? (String.ofList e.1) with
  | some f => d.set f (e.2.map String.ofList)
  | none => d

theorem store_pageEntry (a d : Descriptor) (f : Field) :
    store a (d.pageEntry f) = a.set f (d.get f) := by
  have hvalue : ((d.get f).map String.toList).map String.ofList = d.get f := by
    cases d.get f <;> simp
  simp [store, pageEntry, hvalue]

theorem get_foldl_store (d a : Descriptor) (fs : List Field) (f : Field) :
    ((fs.map d.pageEntry).foldl store a).get f = if f ∈ fs then d.get f else a.get f := by
  induction fs generalizing a with
  | nil => rfl
  | cons g gs ih =>
    rw [List.map_cons, List.foldl_cons, store_pageEntry, ih, get_set]
    by_cases hf : f = g
    · simp [hf]
    · simp [hf]

theorem isKey_name (f : Field) : Scan.IsKey f.name.toList where
  ne_nil := by cases f <;> decide
  letters := List.all_eq_true.mp (by cases f <;> rfl)
  length_le := by cases f <;> decide

/-- A written text is no number, so nothing stands in the way of its being read. -/
theorem scalarField_written (fuel : Nat) (path : String) (depth : Nat) (l : Linked)
    (rest : List (Event Nat)) (jumps : Nat) (v : Option (List Char)) :
    scalarField (fuel + 1) path depth l
        ⟨bareScalar (Scan.readStyle v) (Scan.readText v) :: rest, jumps⟩ =
      .ok (v.map String.ofList, ⟨rest, jumps⟩) := by
  have hvalue := @Decode.value_written l rest jumps path depth fuel v
  simp only [scalarField, bind, Decode.Decoder.bind, hvalue]
  cases v <;> rfl

theorem takes_page (d : Descriptor) : Decode.Takes shape store (Field.all.map d.pageEntry) where
  read e he := by
    obtain ⟨f, -, rfl⟩ := List.mem_map.mp he
    have hname : String.ofList (d.pageEntry f).1 = f.name := String.ofList_toList
    refine ⟨fun fuel path depth a => do pure (a.set f (← scalarField fuel path depth)), ?_, ?_⟩
    · simp [shape, hname]
    · intro fuel path depth a l rest jumps
      have hread := scalarField_written fuel path depth l rest jumps (d.pageEntry f).2
      have hstore : store a (d.pageEntry f) = a.set f ((d.pageEntry f).2.map String.ofList) := by
        simp [store, hname]
      simp only [bind, Decode.Decoder.bind, hread, hstore]
      rfl
  nodup := by
    have hkeys : (Field.all.map d.pageEntry).map (·.1) = Field.all.map (·.name.toList) := by
      rw [List.map_map]
      rfl
    rw [hkeys]
    decide

theorem isBlankText_toYaml (d : Descriptor) : Text.isBlankText d.toYaml.toList = false := by
  simp only [toYaml, String.toList_ofList]
  rfl

theorem decode_toYaml (d : Descriptor) : decode d.toYaml = .ok d := by
  have hkeys : ∀ e ∈ Field.all.map d.pageEntry, Scan.IsKey e.1 := by
    intro e he
    obtain ⟨f, -, rfl⟩ := List.mem_map.mp he
    exact isKey_name f
  have hread := Decode.ofText_page (by simp [Field.all]) hkeys (takes_page d)
  have hstored : (Field.all.map d.pageEntry).foldl store empty = d := by
    apply ext_get
    intro f
    rw [get_foldl_store, if_pos (Field.mem_all f)]
  rw [decode, isBlankText_toYaml, if_neg (by decide),
    show d.toYaml = String.ofList (mapping (Field.all.map d.pageEntry)) from rfl, hread,
    show shape.empty = empty from rfl, hstored]
  rfl

/-- Each field comes back as it was: what was missing is missing, and a text is the same text. -/
theorem ofYaml_toYaml (d : Descriptor) : ofYaml d.toYaml = .ok d := by
  rw [ofYaml, decode_toYaml]

/-! ## Files -/

section File
variable {w : Workspace} {p : Path} {l : Location} {d : Descriptor}

theorem load_of_find? {content : Bytes} {s : List Char} (hl : w.locate p = .ok l)
    (hfile : w.find? l = some (.file content)) (hdecode : Utf8.decode? content = some s)
    (hyaml : ofYaml (String.ofList s) = .ok d) : load w p = .ok d := by
  have htext : w.readText p = .ok (String.ofList s) := by
    unfold Workspace.readText
    rw [Workspace.read_of_find? hl hfile]
    simp only [bind, Except.bind, pure, Except.pure, hdecode]
  unfold load
  simp only [htext, Failure.ofSystem, bind, Except.bind, hyaml]
  rfl

/-- A file that holds a written page loads as what was written. -/
theorem load_of_page (hl : w.locate p = .ok l)
    (hfile : w.find? l = some (.file (Utf8.encode d.toYaml.toList))) : load w p = .ok d := by
  have hyaml : ofYaml (String.ofList d.toYaml.toList) = .ok d := by
    rw [String.ofList_toList, ofYaml, decode_toYaml]
  exact load_of_find? hl hfile (Utf8.decode?_encode _) hyaml

end File
end PluginRelease.Descriptor
