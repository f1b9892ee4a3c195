import PluginRelease.Workspace.Repository
import PluginRelease.Proofs.Text.Digit
import PluginRelease.Proofs.Text.Lines

/-!
What a repository lists, and the one that is found from a place. The names of its tags are
listed in their order, each on a line, and so are its commits, the newest first.
-/
namespace PluginRelease

namespace History
open Text

end History

namespace Repository
open Text
variable {h : History}

variable {w : Workspace} {folder : Path} {l : Location}

end Repository
end PluginRelease
