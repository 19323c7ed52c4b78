import CardPress.Failure
import CardPress.Number.Numeral

/-! Whole numbers that a text must hold. -/
namespace CardPress

namespace Whole

/-- Longer numbers are refused. -/
def maxDigits : Nat := 4300

def ofString (s : String) : Except Failure Int :=
  match wholeOfList? s.toList with
  | none => .error (.fault (.notWhole s))
  | some (n, count) =>
    if maxDigits < count then .error (.fault (.tooManyDigits count)) else .ok n

end Whole

end CardPress
