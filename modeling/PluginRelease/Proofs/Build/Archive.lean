import PluginRelease.Proofs.Build.Source
import PluginRelease.Proofs.Text.Lines
import PluginRelease.Proofs.Workspace.Join

/-!
The archive of a build. Its checksum closes the comment, and its path is recorded as the text
that it is shown as, so if it is a text the recorded path leads to it from the folder of the build.
-/
namespace PluginRelease

namespace Md5

def hexAlphabet : List Char := "0123456789abcdef".toList

theorem mem_hexAlphabet (m : Bytes) : ∀ c ∈ (hexDigest m).toList, c ∈ hexAlphabet := by
  have hdigit : ∀ n < 16, hexDigit n ∈ hexAlphabet := by decide
  rw [hexDigest, String.toList_ofList, hex]
  intro c hc
  obtain ⟨b, -, hb⟩ := List.mem_flatMap.mp hc
  have hhigh : b.toNat / 16 < 16 := by
    have hbyte := b.toNat_lt
    omega
  simp only [List.mem_cons, List.not_mem_nil, or_false] at hb
  rcases hb with rfl | rfl
  · exact hdigit _ hhigh
  · exact hdigit _ (Nat.mod_lt _ (by decide))

theorem newline_not_mem_hexDigest (m : Bytes) : '\n' ∉ (hexDigest m).toList :=
  fun hmem => absurd (mem_hexAlphabet m _ hmem) (by decide)

end Md5

namespace Changelog
open Text

theorem newline_not_mem_checksumText (content : Bytes) :
    '\n' ∉ (checksumText content).toList := by
  rw [checksumText, String.toList_append, List.mem_append, not_or]
  exact ⟨by decide, Md5.newline_not_mem_hexDigest content⟩

theorem exists_of_checksumLine {w : Workspace} {p : Path} {line : String}
    (h : checksumLine w p = .ok line) :
    ∃ content, w.read p = .ok content ∧ line = checksumText content := by
  unfold checksumLine archiveDigest at h
  cases hread : w.read p with
  | ok content =>
    rw [hread] at h
    exact ⟨content, rfl, (Except.ok.inj h).symm⟩
  | error e =>
    rw [hread] at h
    cases e <;> cases h

theorem isWholeLines_ofLog? {ignore : List Char → Bool} {log : List (List Char)} {s : List Char}
    (h : ofLog? ignore log = some s) : IsWholeLines s := by
  unfold ofLog? at h
  split at h
  · cases h
  · rw [← Option.some.inj h]
    exact isWholeLines_unlines _

end Changelog

namespace Builder
open Text
variable {b : Builder} {w : Workspace} {d : Descriptor}

theorem isWholeLines_gitChanges {s : List Char} (h : b.gitChanges w = .ok (some s)) :
    IsWholeLines s := by
  unfold gitChanges at h
  split at h
  · obtain ⟨history, -, h⟩ := exists_of_bind h
    split at h
    · cases h
    · obtain ⟨log, -, h⟩ := exists_of_bind h
      exact Changelog.isWholeLines_ofLog? (Except.ok.inj h)
  · cases h

/-- The comment without its checksum line ends in no open line. -/
theorem isWholeLines_changelog {body : String} (h : b.changelog w = .ok body) :
    IsWholeLines body.toList := by
  unfold changelog at h
  obtain ⟨changes, hchanges, h⟩ := exists_of_bind h
  cases changes with
  | some s =>
    obtain rfl := Except.ok.inj h
    rw [String.toList_ofList]
    exact isWholeLines_gitChanges hchanges
  | none =>
    cases htemplate : b.config.historyTemplate with
    | some template =>
      rw [htemplate] at h
      obtain rfl := Except.ok.inj h
      rw [String.toList_append]
      exact isWholeLines_append_newline _
    | none =>
      rw [htemplate] at h
      obtain rfl := Except.ok.inj h
      exact isWholeLines_nil

/-- What a build does with its archive. -/
theorem exists_archive (h : b.build w = .ok d) : ∃ archive content body,
    b.config.archive = some archive ∧ archive.bytes ≠ [] ∧ d.file = some archive.text ∧
    w.read (b.config.resolve archive) = .ok content ∧ b.changelog w = .ok body ∧
    d.message = some (body ++ Changelog.checksumText content) := by
  have hbuilt := built_of_build h
  obtain ⟨_, _, _, _, body, checksum, -, -, -, -, hbody, hchecksum, hd⟩ := hbuilt.steps
  have hcomplete := Descriptor.ensureComplete_eq_ok_iff.mp hbuilt.complete
  obtain ⟨file, hfile, hshown⟩ := Descriptor.exists_get_of_isComplete hcomplete .file
  have hrecorded : d.file = b.config.archive.map (·.text) := by rw [hd]
  rw [show d.get .file = d.file from rfl, hrecorded] at hfile
  obtain ⟨archive, harchive, rfl⟩ := Option.map_eq_some_iff.mp hfile
  have hpath : b.config.archivePath = b.config.resolve archive := by
    rw [BuildConfig.archivePath, harchive]
    rfl
  rw [hpath] at hchecksum
  obtain ⟨content, hread, rfl⟩ := Changelog.exists_of_checksumLine hchecksum
  refine ⟨archive, content, body, harchive, ?_, hrecorded.trans hfile, hread, hbody, by rw [hd]⟩
  apply Path.bytes_ne_nil_of_text
  intro hempty
  rw [hempty] at hshown
  cases hshown

/-- A build reads its archive, which is the configured one as seen from the folder of the
build, and closes the comment with the checksum. It records the text that the path is shown as,
which names that path if it is a text. Where such a path is absolute, or the build is in the
current folder, the recorded path leads to the archive. -/
theorem build_archive (hbuild : b.build w = .ok d) : ∃ archive content message,
    b.config.archive = some archive ∧ d.file = some archive.text ∧
    w.read (b.config.resolve archive) = .ok content ∧ d.message = some message ∧
    (lines message.toList).getLast? =
      some ("MD5 checksum: " ++ Md5.hexDigest content).toList ∧
    (archive.IsText → .ofText archive.text = archive ∧
      (archive.isAbsolute = true ∨ w.locate b.config.dir = .ok w.here →
        w.isFile (.ofText archive.text) = true ∧
          w.read (.ofText archive.text) = .ok content)) := by
  obtain ⟨archive, content, body, harchive, hne, hfile, hread, hbody, hmessage⟩ :=
    exists_archive hbuild
  refine ⟨archive, content, _, harchive, hfile, hread, hmessage, ?_, ?_⟩
  · rw [String.toList_append]
    apply getLast?_lines (isWholeLines_changelog hbody)
    · simp [Changelog.checksumText]
    · exact Changelog.newline_not_mem_checksumText content
  · intro htext
    have hnamed : .ofText archive.text = archive := Path.isText_iff.mp htext
    refine ⟨hnamed, fun hseen => ?_⟩
    obtain ⟨l, hlocate, hfind⟩ := Workspace.exists_of_read hread
    have hself : w.locate archive = .ok l := by
      rcases hseen with habsolute | hdir
      · rwa [BuildConfig.resolve, Path.join, if_pos habsolute] at hlocate
      · apply Workspace.locate_of_join_here _ hne hlocate
        intro k hk
        exact Except.ok.inj (hk.symm.trans hdir)
    rw [hnamed]
    exact ⟨Workspace.isFile_of_find? hself hfind, Workspace.read_of_find? hself hfind⟩

/-- A build in the current folder. -/
theorem build_archive_of_here :
    let source := "\" GetLatestVimScripts: 11 1 a.vim\nlet g:loaded_a = 105\n".toList
    let archive : Bytes := [0x61]
    let w : Workspace := ⟨[([Utf8.ofText "a.vim"], .file (Utf8.encode source)),
      ([Utf8.ofText "a.vba"], .file archive)], []⟩
    let b : Builder :=
      ⟨{ BuildConfig.default with archive := some "a.vba", files := ["a.vim"] }, "a", none⟩
    ∃ d message, b.build w = .ok d ∧ d.file = some "a.vba" ∧ d.message = some message ∧
      (lines message.toList).getLast? =
        some ("MD5 checksum: " ++ Md5.hexDigest archive).toList ∧
      w.read "a.vba" = .ok archive := by
  intro source archive w b
  have hp : b.config.resolve "a.vim" = "./a.vim" := by decide
  have hq : b.config.resolve "a.vba" = "./a.vba" := by decide
  have hfound : ((lines source).map String.ofList).findSome? (Marker.scriptId? b.name) =
      some "11" := by decide
  have hversion : ((lines source).map String.ofList).findSome? (Marker.version? b.name) =
      some "1.05" := by decide
  have hsaved : b.savedDescriptor w = .ok none := rfl
  have hbuild := build_of_new_source rfl rfl (Path.text_ofText _) rfl (by decide) hfound hversion
    hp rfl hq rfl hsaved (by decide)
  have hdir : w.locate b.config.dir = .ok w.here := by
    change w.locate "." = _
    rfl
  obtain ⟨path, content, message, hpath, hfile, hread, hmessage, hlast, hseen⟩ :=
    build_archive hbuild
  obtain rfl : "a.vba" = path := Option.some.inj hpath
  obtain rfl : archive = content := by
    rw [hq] at hread
    exact Except.ok.inj hread
  obtain ⟨hnamed, hdenotes⟩ := hseen ⟨"a.vba", rfl⟩
  have hread' := (hdenotes (.inr hdir)).2
  rw [hnamed] at hread'
  exact ⟨_, message, hbuild, rfl, hmessage, hlast, hread'⟩

/-- A build in another folder records a path that leads nowhere from the current one, and a build
whose archive has a name that is no text records one that leads nowhere either. -/
theorem build_archive_of_lost_path :
    let source := "\" GetLatestVimScripts: 11 1 a.vim\nlet g:loaded_a = 105\n".toList
    let w : Workspace := ⟨[([Utf8.ofText "sub"], .folder),
      (["sub", "a.vim"].map Utf8.ofText, .file (Utf8.encode source)),
      (["sub", "a.vba"].map Utf8.ofText, .file [0x61]),
      ([Utf8.ofText "a.vim"], .file (Utf8.encode source)), ([Path.broken.bytes], .file [0x61])], []⟩
    let b : Builder := ⟨{ BuildConfig.default with
      dir := "sub", archive := some "a.vba", files := ["a.vim"] }, "a", none⟩
    let c : Builder :=
      ⟨{ BuildConfig.default with archive := some .broken, files := ["a.vim"] }, "a", none⟩
    (∃ d, b.build w = .ok d ∧ d.file = some "a.vba" ∧ w.isFile "a.vba" = false) ∧
      ∃ d, c.build w = .ok d ∧ d.file = some "a\ufffd.vba" ∧ w.isFile "a\ufffd.vba" = false := by
  intro source w b c
  have hfound : ((lines source).map String.ofList).findSome? (Marker.scriptId? "a") =
      some "11" := by decide
  have hversion : ((lines source).map String.ofList).findSome? (Marker.version? "a") =
      some "1.05" := by decide
  constructor
  · have hp : b.config.resolve "a.vim" = "sub/a.vim" := by decide
    have hq : b.config.resolve "a.vba" = "sub/a.vba" := by decide
    have hsaved : b.savedDescriptor w = .ok none := rfl
    have hbuild := build_of_new_source (b := b) rfl rfl (Path.text_ofText _) rfl (by decide) hfound
      hversion hp rfl hq rfl hsaved (by decide)
    exact ⟨_, hbuild, rfl, rfl⟩
  · have hp : c.config.resolve "a.vim" = "./a.vim" := by decide
    have hq : c.config.resolve .broken = ⟨0x2E :: 0x2F :: Path.broken.bytes⟩ := by decide
    have hsaved : c.savedDescriptor w = .ok none := rfl
    have hbuild := build_of_new_source (b := c) rfl rfl Path.text_broken rfl (by decide) hfound
      hversion hp rfl hq rfl hsaved (by decide)
    exact ⟨_, hbuild, rfl, rfl⟩

end Builder
end PluginRelease
