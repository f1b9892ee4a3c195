import PluginRelease.Proofs.Build.Archive
import PluginRelease.Proofs.Descriptor.RoundTrip

/-!
Building twice. A build reads its sources, its archive, the history around it and the output file.
Where the output is none of the others, a second run writes once more what the first has written.
-/
namespace PluginRelease

/-! ## What is read beside a file that was written -/

namespace Marker
variable {w t : Workspace} {l : Location} {p : Path}

end Marker

namespace Repository
variable {w t : Workspace} {l m : Location} {folder : Path} {history : History}

end Repository

namespace Workspace
open Repository (repositoryName)
variable {w : Workspace} {k : Location} {base : Path}

end Workspace

namespace Descriptor

end Descriptor

namespace BuildConfig

theorem validate_eq_ok_iff {c : BuildConfig} {w : Workspace} : c.validate w = .ok () ↔
    w.isFolder c.dir = true ∧ c.name.all (· == "") = false ∧ c.files.isEmpty = false ∧
      c.archive.isNone = false ∧ w.isFile c.archivePath = true := by
  unfold validate
  cases w.isFolder c.dir <;> cases c.name.all (· == "") <;> cases c.files.isEmpty <;>
    cases c.archive.isNone <;> cases w.isFile c.archivePath <;> simp

end BuildConfig

namespace Builder
variable {b : Builder} {w t : Workspace} {l : Location} {p : Path} {d : Descriptor}

theorem config_of_ofConfig {c : BuildConfig} (h : ofConfig w c = .ok b) : b.config = c := by
  unfold ofConfig at h
  obtain ⟨-, -, h⟩ := exists_of_bind h
  dsimp only at h
  split at h
  · rw [← Except.ok.inj h]
  · split at h
    · rw [← Except.ok.inj h]
    · cases h

end Builder
end PluginRelease
