/-!
Existence: whether an object is to be there or not.
-/

namespace MeshOperator

set_option autoImplicit false

inductive Existence where
  | present
  | absent
  deriving DecidableEq, Repr

namespace Existence

/-- Absent wins. -/
def combine : Existence → Existence → Existence
  | .present, .present => .present
  | _, _ => .absent

def text : Existence → String
  | .present => "present"
  | .absent => "absent"

end Existence

end MeshOperator
