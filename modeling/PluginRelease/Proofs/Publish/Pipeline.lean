import PluginRelease.Proofs.Build.Archive
import PluginRelease.Proofs.Publish.Accepted

/-!
From a build to an upload. A descriptor that is built and written in the current folder is read
back as it was and needs no default. It names its archive if the path of that is a text, and then a
session that is given the file uploads exactly what was built.
-/
namespace PluginRelease

namespace Builder
variable {b : Builder} {w : Workspace} {d : Descriptor} {p q : Path}

theorem write_of_run (hrun : (b.run w .write).result = .ok ()) (hbuild : b.build w = .ok d)
    (hpath : b.config.outputPath = some p) :
    w.write p (Utf8.encode d.toYaml.toList) = .ok (b.run w .write).workspace := by
  obtain ⟨e, hbuild', hwrite⟩ := exists_of_run hpath hrun
  obtain rfl := Except.ok.inj (hbuild.symm.trans hbuild')
  exact hwrite

/-- In the current folder an archive is where its path leads. -/
theorem exists_archive_of_here (hdir : b.config.dir = ".") (hbuild : b.build w = .ok d) :
    ∃ archive content l, b.config.archive = some archive ∧ d.file = some archive.text ∧
      w.locate archive = .ok l ∧ w.find? l = some (.file content) := by
  obtain ⟨archive, content, _, harchive, hne, hfile, hread, -⟩ := exists_archive hbuild
  obtain ⟨l, hlocate, hfind⟩ := Workspace.exists_of_read hread
  rw [BuildConfig.resolve, hdir] at hlocate
  have hself : w.locate archive = .ok l :=
    Workspace.locate_of_join_here (fun k hk => Workspace.eq_here_of_locate_dot hk) hne hlocate
  exact ⟨archive, content, l, harchive, hfile, hself, hfind⟩

/-- In the current folder the output path leads where it does as it is configured. -/
theorem locate_of_outfile {t : Workspace} {content : Bytes} {l : Location}
    (hdir : b.config.dir = ".") (hpath : b.config.outputPath = some p)
    (hwrite : w.write p content = .ok t) (hq : b.config.outfile = some q)
    (hl : t.locate p = .ok l) : t.locate q = .ok l := by
  unfold BuildConfig.outputPath at hpath
  rw [hq, Option.map_eq_some_iff] at hpath
  obtain ⟨outfile, houtfile, rfl⟩ := hpath
  obtain rfl : q = outfile := by
    have hkept := Option.filter_eq_some_iff.mp houtfile
    exact Option.some.inj hkept.1
  rw [BuildConfig.resolve, hdir] at hwrite hl
  refine Workspace.locate_of_join_here (fun k hk => Workspace.eq_here_of_locate_dot hk) ?_ hl
  intro hempty
  obtain rfl : q = ⟨[]⟩ := congrArg Path.mk hempty
  exact Workspace.write_ne_ok_of_slash (by decide) hwrite

end Builder

namespace Publisher
variable {p : Publisher} {w : Workspace} {user password : String}

theorem requestOf?_eq {d : Descriptor} {n : Nat} {version message file : String}
    (hid : d.numericId? = some n) (hversion : d.version = some version)
    (hmessage : d.message = some message) (hfile : d.file = some file)
    (hcomplete : d.isComplete = true) :
    requestOf? w d = if w.isFile (.ofText file) then
      some (.upload n version message (.ofText file)) else none := by
  simp [requestOf?, hid, hversion, hmessage, hfile, hcomplete]

/-- Nothing is filled in for a complete descriptor. -/
theorem request?_of_load {d : Descriptor} {path : Path} (hfile : w.isFile path = true)
    (hload : Descriptor.load w path = .ok d) (hcomplete : d.isComplete = true) :
    p.request? w path = requestOf? w d := by
  unfold request?
  rw [if_pos hfile, hload]
  dsimp only
  rw [Descriptor.orDefaults_of_isComplete hcomplete]

/-- A session with one file makes the request of that file, if there is one. -/
theorem process_yields_request (w : Workspace) (path : Path) (hdry : p.config.dry = false)
    (hcredentials : p.config.credentials? = some (user, password)) (hclient : p.client.Accepts) :
    Yields (p.process w [path] .start) (Report.empty.add (p.request? w path).isSome)
      ([.login user password] ++ (p.request? w path).toList ++ [.logout]) := by
  obtain ⟨s, hprocess, hcalls⟩ :=
    process_yields (w := w) (s := .start) hdry hclient rfl hcredentials [path]
  refine ⟨s, hprocess, ?_⟩
  rw [hcalls]
  cases hrequest : p.request? w path <;> simp [hrequest, Session.start]

section Run
variable {b : Builder} {d : Descriptor} {out q : Path} {n : Nat}
  (hdir : b.config.dir = ".") (hrun : (b.run w .write).result = .ok ())
  (hbuild : b.build w = .ok d) (hout : b.config.outputPath = some out)
  (hid : d.numericId? = some n)
  (hq : b.config.outfile = some q ∨
    (b.run w .write).workspace.locate q = (b.run w .write).workspace.locate out)
include hdir hrun hbuild hout hid hq

/-- The output file is read back as it was built. It asks for an upload if what it records for
its archive names a file, and so it does if the path of the archive is a text. -/
theorem request?_of_run : ∃ archive version message,
    b.config.archive = some archive ∧ d.version = some version ∧ d.message = some message ∧
    d.file = some archive.text ∧
    p.request? (b.run w .write).workspace q =
      (if (b.run w .write).workspace.isFile (.ofText archive.text) then
        some (.upload n version message (.ofText archive.text)) else none) ∧
    (archive.IsText → .ofText archive.text = archive ∧
      (b.run w .write).workspace.isFile (.ofText archive.text) = true) := by
  have hwrite := Builder.write_of_run hrun hbuild hout
  generalize (b.run w .write).workspace = t at hwrite hq ⊢
  obtain ⟨l, hl, hfree, ht⟩ := Workspace.write_eq hwrite
  have hlt : t.locate out = .ok l := by
    rw [ht]
    exact Workspace.locate_insert hfree hl _
  have hpage : t.find? l = some (.file (Utf8.encode d.toYaml.toList)) := by
    rw [ht]
    exact Workspace.find?_insert_self w _ hfree.ne_nil
  have hlq : t.locate q = .ok l := by
    rcases hq with hq | hq
    · exact Builder.locate_of_outfile hdir hout hwrite hq hlt
    · exact hq.trans hlt
  have hcomplete := Descriptor.ensureComplete_eq_ok_iff.mp (Builder.built_of_build hbuild).complete
  obtain ⟨version, hversion, -⟩ := Descriptor.exists_get_of_isComplete hcomplete .version
  obtain ⟨message, hmessage, -⟩ := Descriptor.exists_get_of_isComplete hcomplete .message
  obtain ⟨archive, content, k, harchive, hfile, hk, hfind⟩ :=
    Builder.exists_archive_of_here hdir hbuild
  refine ⟨archive, version, message, harchive, hversion, hmessage, hfile, ?_, ?_⟩
  · rw [request?_of_load (Workspace.isFile_of_find? hlq hpage) (Descriptor.load_of_page hlq hpage)
      hcomplete]
    exact requestOf?_eq hid hversion hmessage hfile hcomplete
  · intro htext
    have hnamed : .ofText archive.text = archive := Path.isText_iff.mp htext
    refine ⟨hnamed, ?_⟩
    rw [hnamed, ht]
    exact Workspace.isFile_insert hfree hk hfind

/-- What a run of the builder in the current folder has written is published as it was built, if
the path of its archive is a text. A session that is given the output file, under its configured
name or any other that leads there, logs in, uploads the version, message and archive of the
descriptor under its number, and logs out, whatever the defaults of the publisher are. The
descriptor records the path of its archive as it is shown, and where that is no text the session
uploads the file of the shown name, or fails the descriptor if there is none. -/
theorem process_of_run (hdry : p.config.dry = false)
    (hcredentials : p.config.credentials? = some (user, password))
    (hclient : ∀ before c, p.client before c = .ok ()) :
    let t := (b.run w .write).workspace
    ∃ archive version message,
      b.config.archive = some archive ∧ d.version = some version ∧ d.message = some message ∧
      d.file = some archive.text ∧
      (archive.IsText → .ofText archive.text = archive ∧
        Yields (p.process t [q] .start) ⟨1, 0⟩
          [.login user password, .upload n version message archive, .logout]) ∧
      (t.isFile (.ofText archive.text) = true →
        Yields (p.process t [q] .start) ⟨1, 0⟩
          [.login user password, .upload n version message (.ofText archive.text), .logout]) ∧
      (t.isFile (.ofText archive.text) = false →
        Yields (p.process t [q] .start) ⟨0, 1⟩ [.login user password, .logout]) := by
  intro t
  obtain ⟨archive, version, message, harchive, hversion, hmessage, hfile, hrequest, htext⟩ :=
    request?_of_run (p := p) hdir hrun hbuild hout hid hq
  have hyields := process_yields_request t q hdry hcredentials hclient
  rw [hrequest] at hyields
  have hfound (hthere : t.isFile (.ofText archive.text) = true) :
      Yields (p.process t [q] .start) ⟨1, 0⟩
        [.login user password, .upload n version message (.ofText archive.text), .logout] := by
    rwa [if_pos hthere] at hyields
  refine ⟨archive, version, message, harchive, hversion, hmessage, hfile, ?_, hfound, ?_⟩
  · intro hbytes
    obtain ⟨hnamed, hthere⟩ := htext hbytes
    have hpublished := hfound hthere
    rw [hnamed] at hpublished
    exact ⟨hnamed, hpublished⟩
  · intro habsent
    rw [habsent] at hyields
    exact hyields

end Run

/-- A first release, with defaults that stay out of it. -/
theorem process_of_run_of_first_release :
    let source := "\" GetLatestVimScripts: 11 1 a.vim\nlet g:loaded_a = 105\n".toList
    let w : Workspace := ⟨[([Utf8.ofText "a.vim"], .file (Utf8.encode source)),
      ([Utf8.ofText "a.vba"], .file [0x61])], []⟩
    let b : Builder := ⟨{ BuildConfig.default with
      archive := some "a.vba", outfile := some "a.yml", files := ["a.vim"] }, "a", none⟩
    let p : Publisher := ⟨{ PublishConfig.default with
      id := some "99", version := some "0.1", message := some "Fix", file := some "b.vba",
      username := some "tom", password := some "secret" }, fun _ _ => .ok ()⟩
    Yields (p.process (b.run w .write).workspace ["a.yml"] .start) ⟨1, 0⟩
      [.login "tom" "secret",
        .upload 11 "1.05" ("MD5 checksum: " ++ Md5.hexDigest [0x61]) "a.vba", .logout] := by
  intro source w b p
  have hp : b.config.resolve "a.vim" = "./a.vim" := by decide
  have hq : b.config.resolve "a.vba" = "./a.vba" := by decide
  have hfound : ((Text.lines source).map String.ofList).findSome? (Marker.scriptId? b.name) =
      some "11" := by decide
  have hversion : ((Text.lines source).map String.ofList).findSome? (Marker.version? b.name) =
      some "1.05" := by decide
  have hout : b.config.outputPath = some ("./a.yml" : Path) := by decide
  have hsaved := Builder.savedDescriptor_of_no_file (w := w) hout rfl
  have hbuild := Builder.build_of_new_source rfl rfl (Path.text_ofText _) rfl (by decide) hfound
    hversion hp rfl hq rfl hsaved (by decide)
  have hwrite (content : Bytes) :
      w.write "./a.yml" content = .ok (w.insert [Utf8.ofText "a.yml"] (.file content)) := rfl
  obtain ⟨hrun, -⟩ := Builder.run_write_of_build hbuild hout (hwrite _)
  obtain ⟨archive, version, message, harchive, hversion, hmessage, -, hpublished, -⟩ :=
    process_of_run (p := p) (q := "a.yml") rfl hrun hbuild hout rfl (.inl rfl) rfl rfl
      (fun _ _ => rfl)
  obtain rfl := Option.some.inj harchive
  obtain rfl := Option.some.inj hversion
  obtain rfl := Option.some.inj hmessage
  exact (hpublished ⟨"a.vba", rfl⟩).2

/-- An archive whose name has a byte that stands for no character is not found again. -/
theorem process_of_run_of_broken_name :
    let source := "\" GetLatestVimScripts: 11 1 a.vim\nlet g:loaded_a = 105\n".toList
    let archive : Path := .broken
    let w : Workspace := ⟨[([Utf8.ofText "a.vim"], .file (Utf8.encode source)),
      ([archive.bytes], .file [0x61])], []⟩
    let b : Builder := ⟨{ BuildConfig.default with
      archive := some archive, outfile := some "a.yml", files := ["a.vim"] }, "a", none⟩
    let p : Publisher := ⟨{ PublishConfig.default with
      username := some "tom", password := some "secret" }, fun _ _ => .ok ()⟩
    ∃ d, b.build w = .ok d ∧ (b.run w .write).result = .ok () ∧ d.numericId? = some 11 ∧
      w.isFile archive = true ∧ d.file = some "a\ufffd.vba" ∧
      Yields (p.process (b.run w .write).workspace ["a.yml"] .start) ⟨0, 1⟩
        [.login "tom" "secret", .logout] := by
  intro source archive w b p
  have hshown : archive.text = "a\ufffd.vba" := Path.text_broken
  have hp : b.config.resolve "a.vim" = "./a.vim" := by decide
  have hq : b.config.resolve archive = ⟨0x2E :: 0x2F :: archive.bytes⟩ := by decide
  have hfound : ((Text.lines source).map String.ofList).findSome? (Marker.scriptId? b.name) =
      some "11" := by decide
  have hversion : ((Text.lines source).map String.ofList).findSome? (Marker.version? b.name) =
      some "1.05" := by decide
  have hout : b.config.outputPath = some ("./a.yml" : Path) := by decide
  have hsaved := Builder.savedDescriptor_of_no_file (w := w) hout rfl
  have hbuild := Builder.build_of_new_source rfl rfl hshown rfl (by decide) hfound hversion hp rfl
    hq rfl hsaved (by decide)
  have hwrite (content : Bytes) :
      w.write "./a.yml" content = .ok (w.insert [Utf8.ofText "a.yml"] (.file content)) := rfl
  obtain ⟨hrun, hworkspace⟩ := Builder.run_write_of_build hbuild hout (hwrite _)
  obtain ⟨_, _, _, harchive, -, -, -, hrequest, -⟩ :=
    request?_of_run (p := p) (q := "a.yml") rfl hrun hbuild hout rfl (.inl rfl)
  obtain rfl := Option.some.inj harchive
  have habsent : (b.run w .write).workspace.isFile (.ofText archive.text) = false := by
    rw [hworkspace, hshown]
    rfl
  have hyields := process_yields_request (p := p) (b.run w .write).workspace "a.yml" rfl rfl
    fun _ _ => rfl
  rw [hrequest, habsent] at hyields
  exact ⟨_, hbuild, hrun, rfl, rfl, rfl, hyields⟩

end Publisher
end PluginRelease
