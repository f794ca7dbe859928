import Dimensional.Failure
import Dimensional.Text.Characters

/-!
Faults in a unit expression: what is wrong, and the text from the place where it was noticed.
-/

namespace Dimensional.Units

inductive Fault.Cause where
  | unknownSymbol (symbol : List Char)
  | unexpected (found : Char)
  | missing (wanted : Wanted) (found : Char)
  | ended (wanted : Wanted)
  | nestedTooDeeply
  | bareNumber (digits : List Char)
  | exponentTooLarge (digits : List Char)
  | zeroDenominator
  | exponentOverflow
deriving DecidableEq, Repr

structure Fault where
  cause : Fault.Cause
  rest : List Char
deriving DecidableEq, Repr

namespace Fault

def failure (fault : Fault) (unit : String) : Failure :=
  let offset := Text.offsetOf unit.toList fault.rest
  let invalid := Failure.invalidUnitSyntax unit
  match fault.cause with
  | .unknownSymbol symbol => .unknownUnitSymbol unit (String.ofList symbol)
  | .unexpected found => invalid (.unexpected found offset)
  | .missing wanted found => invalid (.missing wanted found offset)
  | .ended wanted => invalid (.ended wanted)
  | .nestedTooDeeply => invalid .nestedTooDeeply
  | .bareNumber digits => invalid (.bareNumber (String.ofList digits) offset)
  | .exponentTooLarge digits => invalid (.exponentTooLarge (String.ofList digits))
  | .zeroDenominator => invalid .zeroDenominator
  | .exponentOverflow => invalid .exponentOverflow

end Fault

end Dimensional.Units
