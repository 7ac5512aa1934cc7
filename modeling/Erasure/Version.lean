/-
This file holds the version of the library.
-/

namespace Erasure

/-- The version of the library. The types and what is built on them share one. -/
def version : String := "0.3.0"

end Erasure
