import Tunables.Proofs.Descent

namespace Tunables

namespace Survey

variable {system : System} {path : Path} {trail : List Name}

end Survey

namespace Listing

variable {root : Path} {system state : System} {visits : List Visit}

open Sample

end Listing

end Tunables
