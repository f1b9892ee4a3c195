import PluginRelease.Form.Multipart
import PluginRelease.Proofs.Form.Fields
import PluginRelease.Proofs.Workspace.Sibling

/-!
Forms in parts. There is a part for every control that is sent, and without file inputs the parts
are the pairs. The file goes to all file inputs that share the name of the first.
-/
namespace PluginRelease.Form
open Html
variable {f : Form} {w : Workspace} {file : Path} {content : Bytes} {field text name : String}
  {page : Url} {method : Option String} {c : Control} {typeOf : String → String}

/-! ## Parts of controls -/

def Part.withFile (typeOf : String → String) (name : String) (file : Path) (content : Bytes) :
    Part :=
  ⟨name, file.fileName?.map Utf8.shown, some (typeOf (Part.typeExtension file)), content⟩

/-- The part of a control, with a file that has been read for the file inputs of one name. -/
def partWith (typeOf : String → String) (field : String) (file : Path) (content : Bytes)
    (c : Control) : Part :=
  match c.kind with
  | .file => if c.name = field then Part.withFile typeOf c.name file content else Part.noFile c.name
  | _ => Part.textPart c.name c.value

theorem partWith_file (hc : c.kind = .file) : partWith typeOf field file content c =
    if c.name = field then Part.withFile typeOf c.name file content else Part.noFile c.name := by
  rw [partWith, hc]

theorem partWith_text (hc : c.kind ≠ .file) :
    partWith typeOf field file content c = Part.textPart c.name c.value := by
  unfold partWith
  split
  · next hfile => exact absurd hfile hc
  · rfl

@[simp] theorem name_partWith (c : Control) :
    (partWith typeOf field file content c).name = c.name := by
  unfold partWith
  split
  · split <;> rfl
  · rfl

theorem partOf_of_read (h : w.read file = .ok content) (field : String) (c : Control) :
    partOf typeOf w field file c = .ok (partWith typeOf field file content c) := by
  by_cases hc : c.kind = .file
  · rw [partOf, hc, partWith_file hc]
    dsimp only
    split
    · rw [Part.attached, h]
      rfl
    · rfl
  · rw [partWith_text hc]
    unfold partOf
    split
    · next hfile => exact absurd hfile hc
    · rfl

theorem multipart_of_read (h : w.read file = .ok content) (f : Form) (typeOf : String → String)
    (field : String) :
    f.multipart typeOf w field file = .ok (f.sent.map (partWith typeOf field file content)) := by
  rw [multipart, submitted_eq_sent]
  exact mapM_eq_ok fun c _ => partOf_of_read h field c

/-- Of the parts of a form, those of the controls of some kinds. -/
def partsOf (f : Form) (kinds : ControlKind → Bool) (parts : List Part) : List Part :=
  ((f.sent.zip parts).filter fun p => kinds p.1.kind).map (·.2)

theorem partsOf_map (f : Form) (kinds : ControlKind → Bool) (g : Control → Part) :
    f.partsOf kinds (f.sent.map g) = (f.sent.filter fun c => kinds c.kind).map g := by
  unfold partsOf
  induction f.sent with
  | nil => rfl
  | cons c cs ih =>
    rw [List.map_cons, List.zip_cons_cons, List.filter_cons, List.filter_cons]
    split <;> simp [ih]

theorem pairs_eq (f : Form) :
    f.pairs = (f.sent.filter (·.kind ≠ .file)).map fun c => (c.name, c.value) := by
  rw [pairs, submitted_eq_sent]

/-! ## Both ways of sending -/

/-- A form with controls set is sent in parts and in pairs alike: one part for every control that is
sent, in document order, and one pair for every such part that is none of a file input. All fields
are sent, and of the submit buttons the first, if it has a name. -/
theorem multipart_sends_pairs {found : Form} (hfind : find text page name method = .ok found)
    (entries : List (String × String)) (hread : w.read file = .ok content) (field : String) :
    let f := found.fillAll entries
    ∃ parts, f.multipart typeOf w field file = .ok parts ∧
      parts.map (·.name) = f.sent.map (·.name) ∧
      f.partsOf (· ≠ .file) parts = f.pairs.map (fun p => Part.textPart p.1 p.2) ∧
      f.pairs = (f.sent.filter (·.kind ≠ .file)).map (fun c => (c.name, c.value)) ∧
      f.sent.filter (·.kind = .value) = f.controls.filter (·.kind = .value) ∧
      f.sent.filter (·.kind = .submit) =
        (f.controls.find? (·.kind = .submit)).toList.filter (·.name ≠ "") := by
  intro f
  have hf : f.WellNamed := (wellNamed_of_find hfind).fillAll entries
  refine ⟨_, multipart_of_read hread f typeOf field, ?_, ?_, pairs_eq f, hf.filter_sent (by decide),
    filter_submit_sent f⟩
  · simp
  · rw [partsOf_map, pairs_eq, List.map_map]
    apply List.map_congr_left
    intro c hc
    exact partWith_text (by simpa using (List.mem_filter.mp hc).2)

/-- A field that is set, a file input, and a first submit button without a name. -/
theorem multipart_sends_pairs_of_nameless_button :
    let typeOf : String → String := fun _ => "application/octet-stream"
    let page : Url := ⟨"http".toList, [], [], some (.domain "x".toList), none, .names [[]], none,
      none⟩
    let text := "<form name=f><input name=a><input type=file name=b><button></button>" ++
      "<button name=c></button></form>"
    let w := Workspace.empty.insert (["tmp", "work", "a.vba"].map Utf8.ofText) (.file [0x41])
    ∃ f parts, find text page "f" none = .ok f ∧
      (f.fillAll [("a", "v")]).multipart typeOf w "b" "a.vba" = .ok parts ∧
      parts.map (·.name) = ["a", "b"] ∧ (f.fillAll [("a", "v")]).pairs = [("a", "v")] := by
  intro typeOf page text w
  have hfind : find text page "f" none = .ok ⟨"f", "GET", page,
      [⟨"a", "", .value⟩, ⟨"b", "", .file⟩, ⟨"", "", .submit⟩, ⟨"c", "", .submit⟩]⟩ :=
    eq_ok_of_toOption (by decide +kernel +revert)
  have hread : w.read "a.vba" = .ok [0x41] := eq_ok_of_toOption (by decide +kernel +revert)
  obtain ⟨parts, hparts, hnames, -, hpairs, -⟩ :=
    multipart_sends_pairs hfind [("a", "v")] hread "b"
  refine ⟨_, parts, hfind, hparts, hnames.trans (by decide +kernel), hpairs.trans ?_⟩
  decide +kernel

/-! ## The file -/

theorem fileName_partWith_iff {last : Bytes} (h : file.fileName? = some last) :
    (partWith typeOf field file content c).fileName = some (Utf8.shown last) ↔
      c.kind = .file ∧ c.name = field := by
  have hshown : Utf8.shown last ≠ "" := by
    obtain ⟨-, -, -, -, -, hsilent, -⟩ := Path.exists_of_fileName? h
    apply Utf8.shown_ne_empty
    rintro rfl
    cases hsilent
  by_cases hc : c.kind = .file
  · rw [partWith_file hc]
    split
    · next hname => simp [Part.withFile, h, hc, hname]
    · next hname => simp [Part.noFile, hc, hname, hshown.symm]
  · simp [partWith_text hc, Part.textPart, hc]

/-- Of the parts of controls, those with the file are the parts of the file inputs of one name. -/
theorem filter_fileName_map {last : Bytes} (h : file.fileName? = some last) (field : String)
    (content : Bytes) (cs : List Control) :
    (cs.map (partWith typeOf field file content)).filter (·.fileName = some (Utf8.shown last)) =
      ((cs.filter (·.kind = .file)).filter (·.name = field)).map fun _ =>
        Part.withFile typeOf field file content := by
  have hfilter : cs.filter (fun c =>
      (partWith typeOf field file content c).fileName = some (Utf8.shown last)) =
      (cs.filter (·.kind = .file)).filter (·.name = field) := by
    simp [fileName_partWith_iff h, List.filter_filter, and_comm]
  rw [List.filter_map, Function.comp_def, hfilter]
  apply List.map_congr_left
  intro c hc
  obtain ⟨hkind, hname⟩ := List.mem_filter.mp hc
  have hkind := (List.mem_filter.mp hkind).2
  rw [partWith_file (of_decide_eq_true hkind), if_pos (of_decide_eq_true hname),
    of_decide_eq_true hname]

theorem exists_file_inputs (h : f.firstFile? = some field) : ∃ first others,
    f.controls.filter (·.kind = .file) = first :: others ∧ first.name = field := by
  obtain ⟨first, hfirst, hname⟩ := Option.map_eq_some_iff.mp h
  rw [← List.head?_filter] at hfirst
  obtain ⟨others, hothers⟩ := List.head?_eq_some_iff.mp hfirst
  exact ⟨first, others, hothers, hname⟩

/-- A form with file inputs sends the file as that of the first one, and again as that of every
other one with the same name; file inputs with another name are sent empty. So the file is sent once
if no other file input has the name of the first. -/
theorem multipart_attaches (hfind : find text page name method = .ok f)
    (hfirst : f.firstFile? = some field) (hread : w.read file = .ok content) :
    ∃ first others parts, f.controls.filter (·.kind = .file) = first :: others ∧
      first.name = field ∧ f.multipart typeOf w field file = .ok parts ∧
      f.partsOf (· = .file) parts = Part.withFile typeOf field file content ::
        others.map (fun c =>
          if c.name = field then Part.withFile typeOf field file content else Part.noFile c.name) ∧
      (∀ last, file.fileName? = some last →
        parts.filter (·.fileName = some (Utf8.shown last)) =
          Part.withFile typeOf field file content ::
            (others.filter (·.name = field)).map fun _ => Part.withFile typeOf field file content) ∧
      ((∀ c ∈ others, c.name ≠ field) →
        f.partsOf (· = .file) parts = Part.withFile typeOf field file content ::
          others.map (fun c => Part.noFile c.name) ∧
        ∀ last, file.fileName? = some last →
          parts.filter (·.fileName = some (Utf8.shown last)) =
            [Part.withFile typeOf field file content]) := by
  obtain ⟨first, others, hcontrols, hname⟩ := exists_file_inputs hfirst
  have hsent : f.sent.filter (·.kind = .file) = first :: others :=
    ((wellNamed_of_find hfind).filter_sent (by decide)).trans hcontrols
  have hkind : ∀ c ∈ first :: others, c.kind = .file := by
    intro c hc
    rw [← hcontrols] at hc
    exact of_decide_eq_true (List.mem_filter.mp hc).2
  have hparts : f.partsOf (· = .file) (f.sent.map (partWith typeOf field file content)) =
      Part.withFile typeOf field file content :: others.map fun c =>
        if c.name = field then Part.withFile typeOf field file content else Part.noFile c.name := by
    rw [partsOf_map, hsent, List.map_cons, partWith_file (hkind first (.head _)), if_pos hname,
      hname]
    congr 1
    apply List.map_congr_left
    intro c hc
    rw [partWith_file (hkind c (.tail _ hc))]
    split
    · next hc => rw [hc]
    · rfl
  have hshown : ∀ last, file.fileName? = some last →
      (f.sent.map (partWith typeOf field file content)).filter
          (·.fileName = some (Utf8.shown last)) = Part.withFile typeOf field file content ::
        (others.filter (·.name = field)).map fun _ => Part.withFile typeOf field file content := by
    intro last h
    rw [filter_fileName_map h, hsent, List.filter_cons_of_pos (by simpa using hname), List.map_cons]
  refine ⟨first, others, _, hcontrols, hname, multipart_of_read hread f typeOf field, hparts,
    hshown, ?_⟩
  intro hothers
  refine ⟨?_, fun last h => ?_⟩
  · rw [hparts]
    congr 1
    apply List.map_congr_left
    intro c hc
    rw [if_neg (hothers c hc)]
  · rw [hshown last h, List.filter_eq_nil_iff.mpr (by simpa using hothers), List.map_nil]

/-- Two file inputs with a name each. -/
theorem multipart_attaches_of_two_names :
    let typeOf : String → String := fun _ => "application/octet-stream"
    let page : Url := ⟨"http".toList, [], [], some (.domain "x".toList), none, .names [[]], none,
      none⟩
    let text := "<form name=f><input type=file name=a><input type=file name=b></form>"
    let w := Workspace.empty.insert (["tmp", "work", "a.vba"].map Utf8.ofText) (.file [0x41])
    ∃ f parts, find text page "f" none = .ok f ∧ f.firstFile? = some "a" ∧
      f.multipart typeOf w "a" "a.vba" = .ok parts ∧
      f.partsOf (· = .file) parts =
        [Part.withFile typeOf "a" "a.vba" [0x41], Part.noFile "b"] ∧
      parts.filter (·.fileName = some "a.vba") = [Part.withFile typeOf "a" "a.vba" [0x41]] := by
  intro typeOf page text w
  have hfind : find text page "f" none = .ok ⟨"f", "GET", page,
      [⟨"a", "", .file⟩, ⟨"b", "", .file⟩]⟩ := eq_ok_of_toOption (by decide +kernel +revert)
  have hread : w.read "a.vba" = .ok [0x41] := eq_ok_of_toOption (by decide +kernel +revert)
  have hfirst : firstFile? ⟨"f", "GET", page, [⟨"a", "", .file⟩, ⟨"b", "", .file⟩]⟩ =
      some "a" := rfl
  obtain ⟨first, others, parts, hcontrols, -, hparts, -, -, honce⟩ :=
    multipart_attaches hfind hfirst hread
  have hinputs : [⟨"a", "", .file⟩, ⟨"b", "", .file⟩] = first :: others := hcontrols
  obtain ⟨rfl, rfl⟩ := List.cons.inj hinputs
  obtain ⟨hfiles, hshown⟩ := honce (by decide)
  have hname := hshown (Utf8.ofText "a.vba") (by decide +kernel)
  rw [Utf8.shown_ofText] at hname
  exact ⟨_, parts, hfind, hfirst, hparts, hfiles, hname⟩

/-- Two file inputs with one name, which both carry the file. -/
theorem multipart_repeats_file :
    let typeOf : String → String := fun _ => "application/octet-stream"
    let page : Url := ⟨"http".toList, [], [], some (.domain "x".toList), none, .names [[]], none,
      none⟩
    let text := "<form name=f><input type=file name=a><input type=file name=a></form>"
    let w := Workspace.empty.insert (["tmp", "work", "a.vba"].map Utf8.ofText) (.file [0x41])
    ∃ f parts, find text page "f" none = .ok f ∧ f.firstFile? = some "a" ∧
      w.read "a.vba" = .ok [0x41] ∧ f.multipart typeOf w "a" "a.vba" = .ok parts ∧
      (parts.filter fun p => p.fileName = some "a.vba" ∧ p.content = [0x41]).length = 2 := by
  intro typeOf page text w
  have hfind : find text page "f" none = .ok ⟨"f", "GET", page,
      [⟨"a", "", .file⟩, ⟨"a", "", .file⟩]⟩ := eq_ok_of_toOption (by decide +kernel +revert)
  have hread : w.read "a.vba" = .ok [0x41] := eq_ok_of_toOption (by decide +kernel +revert)
  exact ⟨_, _, hfind, rfl, hread, multipart_of_read hread _ typeOf "a", by decide +kernel⟩

end PluginRelease.Form
