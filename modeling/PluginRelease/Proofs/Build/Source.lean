import PluginRelease.Proofs.Build.Run
import PluginRelease.Proofs.Descriptor.Complete
import PluginRelease.Proofs.Marker

/-!
Builds from one source file in a folder without a history. The file holds the marker lines, and
the comment is the checksum line alone.
-/
namespace PluginRelease

namespace Changelog
open Text

/-- The text of a checksum line. -/
def checksumText (content : Bytes) : String := "MD5 checksum: " ++ Md5.hexDigest content

/-- A comment that ends in a checksum line is not blank. -/
theorem isBlankValue_append_checksumText (body : String) (content : Bytes) :
    Descriptor.isBlankValue (some (body ++ checksumText content)) = false := by
  have hmem : 'M' ∈ (body ++ checksumText content).toList := by
    rw [String.toList_append, checksumText, String.toList_append, List.mem_append, List.mem_append]
    exact .inr (.inl (by decide))
  exact isBlankText_of_mem hmem (by decide)

theorem archiveDigest_of_read {w : Workspace} {p : Path} {content : Bytes}
    (h : w.read p = .ok content) : archiveDigest w p = .ok (Md5.hexDigest content) := by
  unfold archiveDigest
  rw [h]

theorem checksumLine_of_read {w : Workspace} {p : Path} {content : Bytes}
    (h : w.read p = .ok content) : checksumLine w p = .ok (checksumText content) := by
  unfold checksumLine
  rw [archiveDigest_of_read h]
  rfl

end Changelog

namespace Builder
variable {b : Builder} {w : Workspace}

/-- What the steps of a build make of its only source file and its archive. -/
theorem steps_of_source {source archive p q : Path} {text : List Char} {content : Bytes}
    (hfiles : b.config.files = [source]) (harchive : b.config.archive = some archive)
    (hp : b.config.resolve source = p) (hsource : w.read p = .ok (Utf8.encode text))
    (hq : b.config.resolve archive = q) (hcontent : w.read q = .ok content) :
    Marker.findScriptId w b.name b.sourceFiles =
        .ok (((Text.lines text).map String.ofList).findSome? (Marker.scriptId? b.name)) ∧
      Marker.findVersion w b.name b.sourceFiles =
        .ok (((Text.lines text).map String.ofList).findSome? (Marker.version? b.name)) ∧
      Changelog.checksumLine w b.config.archivePath = .ok (Changelog.checksumText content) := by
  have hlines := Marker.sourceLines_of_read hsource
  have hsources : b.sourceFiles = [p] := by
    rw [sourceFiles, hfiles, ← hp]
    rfl
  have hpath : b.config.archivePath = q := by
    rw [BuildConfig.archivePath, harchive, ← hq]
    rfl
  refine ⟨?_, ?_, ?_⟩
  · rw [Marker.findScriptId, hsources, Marker.findFirst_singleton _ hlines]
  · rw [Marker.findVersion, hsources, Marker.findFirst_singleton _ hlines]
  · rw [hpath]
    exact Changelog.checksumLine_of_read hcontent

theorem currentVersion_of_found {version : String}
    (h : Marker.findVersion w b.name b.sourceFiles = .ok (some version)) :
    b.currentVersion w = .ok version := by
  unfold currentVersion
  rw [h]
  rfl

theorem changelog_of_no_repository (hgit : w.exists? (b.config.dir.join ".git") = false) :
    b.changelog w = .ok ((b.config.historyTemplate.map
      (Changelog.formatHistory · b.name ++ "\n")).getD "") := by
  unfold changelog gitChanges
  rw [hgit, if_neg (by decide)]
  simp only [bind, Except.bind]
  cases b.config.historyTemplate <;> rfl

section Complete
variable {source archive p q : Path} {text : List Char} {content : Bytes}
  {saved : Option Descriptor} {merged : Descriptor} {found : Option String} {version file : String}
  (hfiles : b.config.files = [source]) (harchive : b.config.archive = some archive)
  (hshown : archive.text = file)
  (htemplate : b.config.historyTemplate = none)
  (hgit : w.exists? (b.config.dir.join ".git") = false)
  (hfound : ((Text.lines text).map String.ofList).findSome? (Marker.scriptId? b.name) = found)
  (hversion : ((Text.lines text).map String.ofList).findSome? (Marker.version? b.name) =
    some version)
  (hp : b.config.resolve source = p) (hsource : w.read p = .ok (Utf8.encode text))
  (hq : b.config.resolve archive = q) (hcontent : w.read q = .ok content)
  (hsaved : b.savedDescriptor w = .ok saved)
  (hmerged : (saved.getD .empty).mergeScriptId found = .ok merged)
  (hcomplete : ∀ v ∈ [merged.id, some version, some file],
    Descriptor.isBlankValue v = false)
include hfiles harchive hshown hfound hversion hp hsource hq hcontent hsaved hmerged hcomplete

/-- A build from one source file, with a comment of any kind. -/
theorem build_of_changelog {body : String} (hbody : b.changelog w = .ok body) :
    b.build w = .ok ⟨merged.id, some version, some (body ++ Changelog.checksumText content),
      some file⟩ := by
  obtain ⟨hid, hcurrent, hchecksum⟩ := steps_of_source hfiles harchive hp hsource hq hcontent
  rw [hfound] at hid
  rw [hversion] at hcurrent
  have hbuild :=
    build_of_steps hsaved hid hmerged (currentVersion_of_found hcurrent) hbody hchecksum
  rw [harchive, Option.map_some, hshown] at hbuild
  apply hbuild
  rw [Descriptor.ensureComplete_eq_ok_iff, Descriptor.isComplete_iff]
  intro f
  cases f with
  | id => exact hcomplete merged.id (by simp)
  | version => exact hcomplete (some version) (by simp)
  | message => exact Changelog.isBlankValue_append_checksumText body content
  | file => exact hcomplete (some file) (by simp)

include htemplate hgit

/-- A build from one source file where there is no history to tell. -/
theorem build_of_source :
    b.build w = .ok ⟨merged.id, some version, some ("MD5 checksum: " ++ Md5.hexDigest content),
      some file⟩ := by
  have hbody : b.changelog w = .ok "" := by
    rw [changelog_of_no_repository hgit, htemplate]
    rfl
  have hbuild := build_of_changelog hfiles harchive hshown hfound hversion hp hsource hq hcontent
    hsaved hmerged hcomplete hbody
  rwa [String.empty_append] at hbuild

end Complete

/-- A first build, from a source file that gives the ID. -/
theorem build_of_new_source {source archive p q : Path} {text : List Char} {content : Bytes}
    {id version file : String} (hfiles : b.config.files = [source])
    (harchive : b.config.archive = some archive) (hshown : archive.text = file)
    (htemplate : b.config.historyTemplate = none)
    (hgit : w.exists? (b.config.dir.join ".git") = false)
    (hfound : ((Text.lines text).map String.ofList).findSome? (Marker.scriptId? b.name) = some id)
    (hversion : ((Text.lines text).map String.ofList).findSome? (Marker.version? b.name) =
      some version)
    (hp : b.config.resolve source = p) (hsource : w.read p = .ok (Utf8.encode text))
    (hq : b.config.resolve archive = q) (hcontent : w.read q = .ok content)
    (hsaved : b.savedDescriptor w = .ok none)
    (hcomplete : ∀ v ∈ [some id, some version, some file], Descriptor.isBlankValue v = false) :
    b.build w = .ok ⟨some id, some version, some ("MD5 checksum: " ++ Md5.hexDigest content),
      some file⟩ := by
  have hmerged : Descriptor.empty.mergeScriptId (some id) = .ok ⟨some id, none, none, none⟩ := rfl
  exact build_of_source hfiles harchive hshown htemplate hgit hfound hversion hp hsource hq
    hcontent hsaved hmerged hcomplete

end Builder
end PluginRelease
