import PluginRelease.Proofs.Build.ExitCode
import PluginRelease.Proofs.Marker.Version

/-!
The version comment of a build. It is the change log, which leaves no line open, and behind it the
checksum of the archive on a line of its own. So neither the comment nor the version is ever what
an incomplete descriptor lacks.
-/
namespace PluginRelease

/-- The fields that a failure asks for. -/
def Failure.missing? : Failure → Option (List Field)
  | .extract (.incompleteDescriptor missing) => some missing
  | _ => none

namespace Builder
open Text
variable {b : Builder} {w : Workspace} {d : Descriptor} {f : Failure}

/-- The comment of a descriptor: `body`, and `digest` on the last line. -/
structure ClosesComment (b : Builder) (w : Workspace) (d : Descriptor) (body digest : String) :
    Prop where
  changelog_eq : b.changelog w = .ok body
  archiveDigest_eq : Changelog.archiveDigest w b.config.archivePath = .ok digest
  /-- It is the digest of what the archive holds now. -/
  of_content : ∃ content, w.read b.config.archivePath = .ok content ∧
    digest = Md5.hexDigest content
  length_eq : digest.toList.length = 32
  lowerCase : ∀ c ∈ digest.toList, c ∈ Md5.hexAlphabet
  message_eq : d.message = some (body ++ "MD5 checksum: " ++ digest)
  whole : body = "" ∨ ∃ s, body = s ++ "\n"
  lines_eq : lines (body ++ "MD5 checksum: " ++ digest).toList =
    lines body.toList ++ [("MD5 checksum: " ++ digest).toList]

theorem eq_empty_or_newline {s : String} (h : IsWholeLines s.toList) :
    s = "" ∨ ∃ t, s = t ++ "\n" := by
  rcases List.eq_nil_or_concat s.toList with hnil | ⟨r, c, hconcat⟩
  · exact .inl (String.toList_eq_nil_iff.mp hnil)
  · rw [List.concat_eq_append] at hconcat
    obtain rfl : c = '\n' := h c (by simp [hconcat])
    refine .inr ⟨String.ofList r, String.toList_inj.mp ?_⟩
    rw [hconcat, String.toList_append, String.toList_ofList]
    rfl

theorem lines_checksumText {body : String} (hbody : IsWholeLines body.toList) (content : Bytes) :
    lines (body ++ Changelog.checksumText content).toList =
      lines body.toList ++ [(Changelog.checksumText content).toList] := by
  rw [String.toList_append]
  apply lines_append_line hbody
  · simp [Changelog.checksumText]
  · exact Changelog.newline_not_mem_checksumText content

theorem closesComment_of_build (h : b.build w = .ok d) :
    ∃ body digest, ClosesComment b w d body digest := by
  obtain ⟨_, _, _, _, body, checksum, -, -, -, -, hbody, hchecksum, hd⟩ := (built_of_build h).steps
  obtain ⟨content, hread, rfl⟩ := Changelog.exists_of_checksumLine hchecksum
  have hwhole := isWholeLines_changelog hbody
  have hlines := lines_checksumText hwhole content
  rw [Changelog.checksumText, ← String.append_assoc] at hlines
  exact ⟨body, Md5.hexDigest content, {
    changelog_eq := hbody
    archiveDigest_eq := Changelog.archiveDigest_of_read hread
    of_content := ⟨content, hread, rfl⟩
    length_eq := Md5.hexDigest_length content
    lowerCase := Md5.mem_hexAlphabet content
    message_eq := by rw [hd, Changelog.checksumText, ← String.append_assoc]
    whole := eq_empty_or_newline hwhole
    lines_eq := hlines }⟩

/-- A version from the sources has a point, so it is not blank. -/
theorem isBlankValue_of_currentVersion {version : String} (h : b.currentVersion w = .ok version) :
    Descriptor.isBlankValue (some version) = false := by
  unfold currentVersion at h
  obtain ⟨found, hfind, h⟩ := exists_of_bind h
  cases found with
  | none => cases h
  | some v =>
    obtain rfl := Except.ok.inj h
    obtain ⟨p, -, ls, -, line, -, hline⟩ := Marker.exists_of_findFirst hfind
    obtain ⟨number, -, -, -, rfl⟩ := Marker.setsVersion_of_version? hline
    refine isBlankText_of_mem (c := '.') ?_ (by decide)
    simp [Marker.versionText]

/-! ## Failures that ask for fields -/

theorem missing?_of_exitCode (h : f.exitCode = .failure) : f.missing? = none := by
  cases f with
  | extract cause => cases h
  | _ => rfl

theorem missing?_of_load {p : Path} (h : Descriptor.load w p = .error f) : f.missing? = none := by
  unfold Descriptor.load at h
  rcases error_of_bind h with h | ⟨s, -, h⟩
  · exact missing?_of_exitCode (Failure.exitCode_of_ofSystem h)
  · split at h
    · cases h
    · obtain rfl := Except.error.inj h
      rfl

theorem missing?_of_findFirst {parse : String → Option String} {ps : List Path}
    (h : Marker.findFirst w parse ps = .error f) : f.missing? = none := by
  obtain ⟨p, -, hread⟩ := Marker.exists_of_findFirst_error h
  exact missing?_of_exitCode (Marker.exitCode_of_sourceLines hread)

theorem missing?_of_checksumLine {p : Path} (h : Changelog.checksumLine w p = .error f) :
    f.missing? = none := by
  unfold Changelog.checksumLine Changelog.archiveDigest at h
  rcases error_of_bind h with h | ⟨digest, -, h⟩
  · split at h
    · cases h
    all_goals
      obtain rfl := Except.error.inj h
      rfl
  · cases h

/-- No step of a build but the last asks for fields, and that one for none which the steps before
it have filled. -/
theorem FailsAt.sublist_of_missing? (h : FailsAt b w f) {missing : List Field}
    (hmissing : f.missing? = some missing) : missing ≠ [] ∧ missing.Sublist [.id, .file] := by
  have hnone (h : f.missing? = none) : False := by
    rw [h] at hmissing
    cases hmissing
  cases h with
  | saved hsaved =>
    obtain ⟨p, -, -, hload⟩ := exists_load_of_savedDescriptor hsaved
    exact (hnone (missing?_of_load hload)).elim
  | id hid => exact (hnone (missing?_of_findFirst hid)).elim
  | merge hmerged =>
    obtain ⟨expected, id, rfl⟩ := Descriptor.mismatch_of_mergeScriptId hmerged
    cases hmissing
  | version hversion =>
    rcases currentVersion_error hversion with hfind | rfl
    · exact (hnone (missing?_of_findFirst hfind)).elim
    · cases hmissing
  | body hbody =>
    have hcode := exitCode_of_gitChanges (gitChanges_of_changelog_error hbody)
    exact (hnone (missing?_of_exitCode hcode)).elim
  | checksum hchecksum => exact (hnone (missing?_of_checksumLine hchecksum)).elim
  | @incomplete _ _ body _ hversion hchecksum hcomplete =>
    obtain ⟨hne, rfl⟩ := Descriptor.ensureComplete_eq_error_iff.mp hcomplete
    obtain ⟨content, -, rfl⟩ := Changelog.exists_of_checksumLine hchecksum
    obtain rfl := Option.some.inj hmissing
    exact ⟨hne, Descriptor.missingFields_sublist (isBlankValue_of_currentVersion hversion)
      (Changelog.isBlankValue_append_checksumText body content)⟩

/-- A build closes its comment with the checksum of the archive, on a line of its own behind the
change log, and leaves neither version nor comment blank. One that fails for want of fields names
the ID or the file, and nothing else. -/
theorem build_closes_comment (b : Builder) (w : Workspace) :
    (∀ d, b.build w = .ok d → (∃ body digest, ClosesComment b w d body digest) ∧
      Descriptor.isBlankValue d.version = false ∧ Descriptor.isBlankValue d.message = false) ∧
    ∀ missing, b.build w = .error (.extract (.incompleteDescriptor missing)) →
      missing ≠ [] ∧ missing.Sublist [.id, .file] := by
  constructor
  · intro d hbuild
    have hcomplete := Descriptor.ensureComplete_eq_ok_iff.mp (built_of_build hbuild).complete
    have hshown := Descriptor.isComplete_iff.mp hcomplete
    exact ⟨closesComment_of_build hbuild, hshown .version, hshown .message⟩
  · intro missing hbuild
    exact (failsAt_of_build hbuild).sublist_of_missing? rfl

/-- A build with a template, and one from a source without an ID, whose archive has a blank for
its name. -/
theorem build_closes_comment_of_template :
    let source := "\" GetLatestVimScripts: 11 1 a.vim\nlet g:loaded_a = 105\n".toList
    let other := "let g:loaded_a = 105\n".toList
    let archive : Bytes := [0x61]
    let w : Workspace := ⟨[([Utf8.ofText "a.vim"], .file (Utf8.encode source)),
      ([Utf8.ofText "b.vim"], .file (Utf8.encode other)),
      ([Utf8.ofText "a.vba"], .file archive), ([Utf8.ofText " "], .file archive)], []⟩
    let b : Builder := ⟨{ BuildConfig.default with
      archive := some "a.vba", files := ["a.vim"], historyTemplate := some "See %s" },
      "a", none⟩
    let c : Builder := ⟨{ BuildConfig.default with
      archive := some " ", files := ["b.vim"] }, "a", none⟩
    (∃ d digest, b.build w = .ok d ∧ ClosesComment b w d "See a\n" digest) ∧
    ∃ missing, c.build w = .error (.extract (.incompleteDescriptor missing)) ∧ .id ∈ missing ∧
      .file ∈ missing ∧ missing.Sublist [.id, .file] := by
  intro source other archive w b c
  constructor
  · have hp : b.config.resolve "a.vim" = "./a.vim" := by decide
    have hq : b.config.resolve "a.vba" = "./a.vba" := by decide
    have hfound : ((lines source).map String.ofList).findSome? (Marker.scriptId? b.name) =
        some "11" := by decide
    have hversion : ((lines source).map String.ofList).findSome? (Marker.version? b.name) =
        some "1.05" := by decide
    have hsaved : b.savedDescriptor w = .ok none := rfl
    have hmerged : Descriptor.empty.mergeScriptId (some "11") =
        .ok ⟨some "11", none, none, none⟩ := rfl
    have hbody : b.changelog w = .ok "See a\n" := by
      rw [changelog_of_no_repository (by decide)]
      exact congrArg Except.ok (by decide)
    have hbuild := build_of_changelog rfl rfl (Path.text_ofText _) hfound hversion hp rfl hq rfl
      hsaved hmerged (by decide) hbody
    obtain ⟨⟨body, digest, hclosed⟩, -, -⟩ := (build_closes_comment b w).1 _ hbuild
    obtain rfl := Except.ok.inj (hbody.symm.trans hclosed.changelog_eq)
    exact ⟨_, digest, hbuild, hclosed⟩
  · have hp : c.config.resolve "b.vim" = "./b.vim" := by decide
    have hq : c.config.resolve " " = "./ " := by decide
    have hfound : ((lines other).map String.ofList).findSome? (Marker.scriptId? c.name) =
        none := by decide
    have hnumber : ((lines other).map String.ofList).findSome? (Marker.version? c.name) =
        some "1.05" := by decide
    have hsource : w.read "./b.vim" = .ok (Utf8.encode other) := rfl
    have harchive : w.read "./ " = .ok archive := rfl
    obtain ⟨hid, hversion, hchecksum⟩ := steps_of_source rfl rfl hp hsource hq harchive
    rw [hfound] at hid
    rw [hnumber] at hversion
    have hsaved : c.savedDescriptor w = .ok none := rfl
    have hbody : c.changelog w = .ok "" := by
      rw [changelog_of_no_repository (by decide)]
      exact congrArg Except.ok (by decide)
    let d : Descriptor :=
      ⟨none, some "1.05", some ("" ++ Changelog.checksumText archive), some " "⟩
    have hmissing : d.missingFields = [.id, .file] := by
      have hmessage := Changelog.isBlankValue_append_checksumText "" archive
      simp only [d, Descriptor.missingFields, Field.all, Descriptor.get, List.filter, hmessage]
      decide
    have hcheck : d.ensureComplete = .error (.extract (.incompleteDescriptor [.id, .file])) :=
      Descriptor.ensureComplete_eq_error_iff.mpr ⟨by simp [hmissing], by rw [hmissing]⟩
    have hfile : c.config.archive.map (·.text) = some " " :=
      congrArg some (Path.text_ofText " ")
    have hbuild := build_error_of_steps hsaved hid rfl (currentVersion_of_found hversion) hbody
      hchecksum (by rw [hfile]; exact hcheck)
    obtain ⟨-, hsublist⟩ := (build_closes_comment c w).2 _ hbuild
    exact ⟨_, hbuild, by decide, by decide, hsublist⟩

end Builder
end PluginRelease
