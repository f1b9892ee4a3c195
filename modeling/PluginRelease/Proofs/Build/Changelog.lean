import PluginRelease.Build.Builder
import PluginRelease.Proofs.Changelog
import PluginRelease.Proofs.Tag.Order
import PluginRelease.Proofs.Text.Utf8Order
import PluginRelease.Proofs.Workspace.Repository

/-!
The change log of a repository with tags. It lists the commits after the latest tag, each on a
line of its own and the oldest first.
-/
namespace PluginRelease

namespace History

/-- A tag that none ranks above, the last by its bytes of those that are level with it, and the
number of commits up to it. -/
structure IsLatest (h : History) (name : String) (count : Nat) : Prop where
  marked : h.tags.find? (·.1 == name) = some (name, count)
  highest : ∀ t ∈ h.tags, Tag.compare t.1 name ≠ .gt
  greatest : ∀ t ∈ h.tags, Tag.compare t.1 name = .eq →
    Utf8.encode t.1.toList ≤ Utf8.encode name.toList

theorem IsLatest.name_mem {h : History} {name : String} {count : Nat}
    (hlatest : h.IsLatest name count) : (name, count) ∈ h.tags :=
  List.mem_of_find?_eq_some hlatest.marked

/-- There is only one latest tag. -/
theorem IsLatest.unique {h : History} {s t : String} {m n : Nat} (hs : h.IsLatest s m)
    (ht : h.IsLatest t n) : s = t ∧ m = n := by
  have hst : Tag.compare s t ≠ .gt := ht.highest (s, m) hs.name_mem
  have hts : Tag.compare t s ≠ .gt := hs.highest (t, n) ht.name_mem
  have hlevel := Tag.compare_eq_eq_of_ne_gt hst hts
  have hle := Utf8.encode_le_encode_iff.mp (ht.greatest (s, m) hs.name_mem hlevel)
  have hge := Utf8.encode_le_encode_iff.mp
    (hs.greatest (t, n) ht.name_mem (Tag.compare_eq_eq_symm hlevel))
  have hname : s = t := String.le_antisymm hle hge
  have hmarked := hs.marked
  rw [hname, ht.marked] at hmarked
  exact ⟨hname, (Prod.mk.inj (Option.some.inj hmarked)).2.symm⟩

end History

namespace Changelog
open Text

/-- The line of a commit: its subject behind a dash. -/
def line (message : Bytes) : List Char :=
  trimEnd ('-' :: ' ' :: Utf8.decodeLossy (History.subject message))

end Changelog

namespace Builder
open Text
variable {b : Builder} {w : Workspace} {h : History} {l : Location}

end Builder
end PluginRelease
