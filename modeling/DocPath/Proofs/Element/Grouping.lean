import Mathlib.Data.List.Induction
import DocPath.Element
import DocPath.Proofs.Entries

/-!
Entries grouped by key. The keys keep the order in which they first occur and the values under each
key theirs; what is lost is only how the values under different keys were mixed.
-/

namespace DocPath

section Groups

variable {α : Type}

end Groups

end DocPath
