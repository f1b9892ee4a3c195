import PluginRelease.Proofs.Failure
import PluginRelease.Proofs.Publish.Upload
import PluginRelease.Proofs.Workspace.Write
import PluginRelease.Proofs.Yaml.Entry

/-!
Where the fields of a published descriptor come from: the file of the descriptor, else the
command line, else the configuration file. In both files a field is what its own key holds.
-/
namespace PluginRelease
open Yaml.Decode

namespace ConfigFile
variable {α β : Type} {shape : Shape α} {key : String}
  {reader : Nat → String → Nat → Decoder (Option β)} {view : α → Option β}

/-- What a file holds under one key. -/
def valueAt (key : String) (reader : Nat → String → Nat → Decoder (Option β)) (w : Workspace)
    (p : Path) : Except Failure (Option β) := load (.one key reader) w p

theorem valueAt_of_load (hholds : shape.Holds key reader view) {w : Workspace} {p : Path} {a : α}
    (h : load shape w p = .ok a) : valueAt key reader w p = .ok (view a) := by
  unfold load at h
  unfold valueAt load
  split at h
  · next hfile =>
    rw [if_pos hfile]
    cases hs : Failure.ofSystem ("Failed to read config from " ++ p.text) (w.readText p) with
    | error f =>
      rw [hs] at h
      cases h
    | ok s =>
      rw [hs] at h
      simp only [bind, Except.bind] at h ⊢
      split at h
      · next hblank =>
        cases h
        rw [if_pos hblank, hholds.empty]
        rfl
      · next hshown =>
        rw [if_neg hshown]
        split at h
        · next r hr =>
          cases h
          rw [ofText_one hholds hr]
          cases r with
          | none => rw [Option.getD_none, hholds.empty]; rfl
          | some b => rfl
        · cases h
  · cases h

end ConfigFile

/-- What is read is stored where it does not touch `view`. -/
theorem stores_other {γ : Type} {d : Decoder γ} (hd : Reads 0 d) (view : α → β) {a : α}
    (put : γ → α) (hput : ∀ v, view (put v) = view a) :
    Reads 0 (do pure (put (← d))) ∧
      ∀ l s b t, (do pure (put (← d)) : Decoder α) l s = .ok (b, t) → view b = view a := by
  refine ⟨hd.map put, fun l s b t h => ?_⟩
  obtain ⟨v, u, -, hb⟩ := bind_eq_ok.mp h
  cases hb
  exact hput v

namespace Descriptor

theorem reads_scalarField (fuel : Nat) (path : String) (depth : Nat) :
    Reads 0 (scalarField fuel path depth) := by
  refine (reads_value fuel false path depth).check fun v => ?_
  cases v with
  | number n =>
    cases n with
    | integer n => exact .inr ⟨_, rfl⟩
    | _ => exact .inl ⟨_, rfl⟩
  | sequence _ | mapping _ | tagged _ _ => exact .inl ⟨_, rfl⟩
  | _ => exact .inr ⟨_, rfl⟩

theorem shape_holds (f : Field) : shape.Holds f.name scalarField (·.get f) where
  empty := by cases f <;> rfl
  steady fuel path depth := (reads_scalarField fuel path depth).steady
  own := ⟨fun d v => d.set f v, fun d v => by simp, by simp [shape]⟩
  others name read hname hfield fuel path depth d := by
    obtain ⟨g, hg, rfl⟩ := Option.map_eq_some_iff.mp hfield
    have hgf : f ≠ g := by
      rintro rfl
      have hsame := List.find?_some (p := fun g : Field => g.name == name) hg
      exact hname (beq_iff_eq.mp hsame).symm
    refine stores_other (reads_scalarField fuel path depth) (fun d : Descriptor => d.get f)
      (a := d) (fun v => d.set g v) fun v => ?_
    simp [hgf]

/-- What the file of a descriptor holds under the key of a field. -/
def valueAt (w : Workspace) (p : Path) (f : Field) : Except Failure (Option String) :=
  ConfigFile.valueAt f.name scalarField w p

theorem isFile_of_load {w : Workspace} {p : Path} {d : Descriptor} (h : load w p = .ok d) :
    w.isFile p = true := by
  rw [Workspace.isFile_iff]
  cases hread : w.read p with
  | ok content => exact ⟨content, rfl⟩
  | error e =>
    unfold load Workspace.readText at h
    rw [hread] at h
    cases h

/-- The file of a descriptor loads like a configuration file with the same fields. -/
theorem configFile_load_of_load {w : Workspace} {p : Path} {d : Descriptor}
    (h : load w p = .ok d) : ConfigFile.load shape w p = .ok d := by
  have hfile := isFile_of_load h
  unfold load at h
  cases htext : w.readText p with
  | error e =>
    rw [htext] at h
    cases h
  | ok s =>
    rw [htext] at h
    simp only [Failure.ofSystem, bind, Except.bind] at h
    unfold ConfigFile.load
    rw [if_pos hfile, htext]
    simp only [Failure.ofSystem, bind, Except.bind]
    unfold ofYaml decode at h
    by_cases hblank : Text.isBlankText s.toList = true
    · rw [if_pos hblank] at h ⊢
      exact h
    · rw [if_neg hblank] at h ⊢
      cases hread : ofText shape s with
      | error f =>
        rw [hread] at h
        cases h
      | ok r =>
        rw [hread] at h
        exact h

theorem valueAt_of_load {w : Workspace} {p : Path} {d : Descriptor} (h : load w p = .ok d)
    (f : Field) : valueAt w p f = .ok (d.get f) :=
  ConfigFile.valueAt_of_load (shape_holds f) (configFile_load_of_load h)

end Descriptor

namespace PublishConfig

/-- How the configuration file is read under the key of a field. -/
def reader : Field → Nat → String → Nat → Decoder (Option String)
  | .id => Descriptor.scalarField
  | .version => Descriptor.scalarField
  | .message => fun _ path _ => ConfigFile.textField path
  | .file => fun _ path _ => ConfigFile.textField path

theorem reads_textField (path : String) : Reads 0 (ConfigFile.textField path) :=
  reads_optional (reads_text "a string" path)

theorem reads_reader (f : Field) (fuel : Nat) (path : String) (depth : Nat) :
    Reads 0 (reader f fuel path depth) := by
  cases f with
  | id | version => exact Descriptor.reads_scalarField fuel path depth
  | message | file => exact reads_textField path

theorem shape_holds (f : Field) : shape.Holds f.name (reader f) (·.defaults.get f) where
  empty := by cases f <;> rfl
  steady fuel path depth := (reads_reader f fuel path depth).steady
  own := by
    cases f with
    | id => exact ⟨fun c v => { c with id := v }, fun _ _ => rfl, rfl⟩
    | version => exact ⟨fun c v => { c with version := v }, fun _ _ => rfl, rfl⟩
    | message => exact ⟨fun c v => { c with message := v }, fun _ _ => rfl, rfl⟩
    | file => exact ⟨fun c v => { c with file := v }, fun _ _ => rfl, rfl⟩
  others name read hname hfield fuel path depth c := by
    have hscalar := Descriptor.reads_scalarField fuel path depth
    have htext := reads_textField path
    have store {γ : Type} {r : Decoder γ} (hr : Reads 0 r) :=
      stores_other hr (fun c : PublishConfig => c.defaults.get f) (a := c)
    change field name = some read at hfield
    unfold field at hfield
    split at hfield
    · cases hfield
      refine store hscalar (fun v => { c with id := v }) fun v => ?_
      cases f with
      | id => exact absurd rfl hname
      | _ => rfl
    · cases hfield
      refine store htext (fun v => { c with file := v }) fun v => ?_
      cases f with
      | file => exact absurd rfl hname
      | _ => rfl
    · cases hfield
      refine store htext (fun v => { c with message := v }) fun v => ?_
      cases f with
      | message => exact absurd rfl hname
      | _ => rfl
    · cases hfield
      refine store hscalar (fun v => { c with version := v }) fun v => ?_
      cases f with
      | version => exact absurd rfl hname
      | _ => rfl
    · cases hfield
      refine store htext (fun v => { c with username := v }) fun v => ?_
      cases f <;> rfl
    · cases hfield
      refine store hscalar (fun v => { c with password := v }) fun v => ?_
      cases f <;> rfl
    · cases hfield
      refine store (reads_bool path) (fun v => { c with dry := v }) fun v => ?_
      cases f <;> rfl
    · cases hfield
      refine store (reads_text "a string" path) (fun v => { c with site := v }) fun v => ?_
      cases f <;> rfl
    · cases hfield

/-- What the configuration file, if there is one, holds under the key of a field. -/
def valueAt (w : Workspace) (config : Option Path) (f : Field) : Except Failure (Option String) :=
  match config with
  | none => .ok none
  | some p => ConfigFile.valueAt f.name (reader f) w p

theorem valueAt_of_load {w : Workspace} {config : Option Path} {base : PublishConfig}
    (h : load w config = .ok base) (f : Field) :
    valueAt w config f = .ok (base.defaults.get f) := by
  cases config with
  | none =>
    cases h
    cases f <;> rfl
  | some p => exact ConfigFile.valueAt_of_load (shape_holds f) h

end PublishConfig

/-- What the command line gives for a field. A message file counts with its whole text. -/
def PublishOverrides.given? (o : PublishOverrides) (w : Workspace) : Field → Option String
  | .id => o.id
  | .version => o.version
  | .file => o.file
  | .message =>
    match o.messageFile with
    | some p => (w.readText p).toOption
    | none => o.message

theorem PublishOverrides.messageText_eq_ok {o : PublishOverrides} {w : Workspace}
    {message : Option String} (h : o.messageText w = .ok message) :
    message = o.given? w .message := by
  unfold messageText at h
  split at h
  · next hnone =>
    cases h
    simp only [given?, hnone]
  · next p hp =>
    have hgiven : o.given? w .message = (w.readText p).toOption := by simp only [given?, hp]
    rw [hgiven]
    split at h
    · cases htext : w.readText p with
      | error e =>
        rw [htext] at h
        cases h
      | ok s =>
        rw [htext] at h
        cases h
        rfl
    · cases h

/-- The command line comes before what the configuration file says. -/
theorem PublishConfig.get_defaults_of_apply {base c : PublishConfig} {o : PublishOverrides}
    {w : Workspace} (h : base.apply w o = .ok c) (f : Field) :
    c.defaults.get f = (o.given? w f).or (base.defaults.get f) := by
  unfold apply at h
  cases hmessage : o.messageText w with
  | error e =>
    rw [hmessage] at h
    cases h
  | ok message =>
    rw [hmessage] at h
    cases h
    obtain rfl := PublishOverrides.messageText_eq_ok hmessage
    cases f <;> rfl

namespace Publisher

/-- Each field that is published is the value in the file of the descriptor, else what the command
line gives, else the value in the configuration file, each under the key of this field; where none
of them has one, nothing is published. User name, password, site and dry run play no part in
it. -/
theorem uploadFile_origin {w : Workspace} {config : Option Path} {base c : PublishConfig}
    {o : PublishOverrides} {path : Path} {d : Descriptor}
    (hload : PublishConfig.load w config = .ok base) (happly : base.apply w o = .ok c)
    (hd : Descriptor.load w path = .ok d) (client : SiteClient) :
    ∃ e : Descriptor,
      (∀ f, ∃ written configured, Descriptor.valueAt w path f = .ok written ∧
        PublishConfig.valueAt w config f = .ok configured ∧
          e.get f = written.or ((o.given? w f).or configured)) ∧
      ∀ s, uploadFile ⟨c, client⟩ w path s = upload ⟨c, client⟩ w e s ∧
        Settles ⟨c, client⟩ s ((some e).filter (c.accepts w)) (upload ⟨c, client⟩ w e s) := by
  refine ⟨d.orDefaults c.defaults, fun f => ?_, fun s => ⟨?_, upload_settles _⟩⟩
  · refine ⟨d.get f, base.defaults.get f, Descriptor.valueAt_of_load hd f,
      PublishConfig.valueAt_of_load hload f, ?_⟩
    rw [Descriptor.get_orDefaults, PublishConfig.get_defaults_of_apply happly]
  · unfold uploadFile
    rw [if_pos (Descriptor.isFile_of_load hd), hd]

/-- The message is that of its file, and only the ID is left to the configuration. -/
theorem uploadFile_origin_of_message_file :
    let w : Workspace := ⟨[
      ([Utf8.ofText "c.yml"], .file (Utf8.encode "id: 11\nversion: 9\npassword: secret\n".toList)),
      ([Utf8.ofText "m.txt"], .file (Utf8.encode "Fix\n".toList)),
      ([Utf8.ofText "a.yml"], .file (Utf8.encode "version: '1.05'\nfile: a.vba\n".toList))], []⟩
    let o : PublishOverrides := { PublishOverrides.empty with
      version := some "0.1", message := some "No", messageFile := some "m.txt" }
    ∃ base c d, PublishConfig.load w (some "c.yml") = .ok base ∧ base.apply w o = .ok c ∧
      Descriptor.load w "a.yml" = .ok d ∧
        ∀ client s, uploadFile ⟨c, client⟩ w "a.yml" s =
          upload ⟨c, client⟩ w ⟨some "11", some "1.05", some "Fix\n", some "a.vba"⟩ s := by
  intro w o
  have hmessage : o.given? w .message = some "Fix\n" := by decide +kernel +revert
  have happly : PublishConfig.apply { PublishConfig.default with
      id := some "11", version := some "9", password := some "secret" } w o =
        .ok { PublishConfig.default with
          id := some "11", version := some "0.1", message := some "Fix\n",
          password := some "secret" } :=
    eq_ok_of_toOption (by clear hmessage; decide +kernel +revert)
  have hd : Descriptor.load w "a.yml" = .ok ⟨none, some "1.05", none, some "a.vba"⟩ :=
    eq_ok_of_toOption (by clear hmessage happly; decide +kernel +revert)
  have hload : PublishConfig.load w (some "c.yml") = .ok { PublishConfig.default with
      id := some "11", version := some "9", password := some "secret" } :=
    eq_ok_of_toOption (by clear hmessage happly hd; decide +kernel +revert)
  refine ⟨_, _, _, hload, happly, hd, fun client s => ?_⟩
  obtain ⟨e, hget, hsame⟩ := uploadFile_origin hload happly hd client
  have he : e = ⟨some "11", some "1.05", some "Fix\n", some "a.vba"⟩ := by
    apply Descriptor.ext_get
    intro f
    obtain ⟨written, configured, hwritten, hconfigured, hf⟩ := hget f
    rw [Descriptor.valueAt_of_load hd f] at hwritten
    rw [PublishConfig.valueAt_of_load hload f] at hconfigured
    cases hwritten
    cases hconfigured
    rw [hf]
    cases f with
    | message =>
      rw [hmessage]
      rfl
    | _ => rfl
  rw [← he]
  exact (hsame s).1

end Publisher
end PluginRelease
