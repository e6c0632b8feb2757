import Stencil.Template.Dump

/-!
# Arithmetic of templates

Whole numbers are added, subtracted and multiplied exactly.  The result must lie
in the signed range when both operands do, else in the unsigned one; operands
that share neither range are taken as floats.  Division always works on floats,
and a quotient without a fraction becomes whole again.
-/

namespace Stencil.Template

/-- The ranges of whole numbers that arithmetic knows. -/
inductive WholeRange where
  | signed
  | unsigned
deriving DecidableEq, Repr

namespace WholeRange

def contains : WholeRange → Int → Bool
  | signed, value => -(Int.pow 2 63) ≤ value && value < Int.pow 2 63
  | unsigned, value => 0 ≤ value && value < Int.pow 2 64

def word : WholeRange → String
  | signed => "i64"
  | unsigned => "u64"

/-- The first range that holds both numbers. -/
def common? (left right : Int) : Option WholeRange :=
  if signed.contains left && signed.contains right then some signed
  else if unsigned.contains left && unsigned.contains right then some unsigned
  else none

end WholeRange

/-- Why two numbers have no result. -/
inductive ArithmeticFault where
  | outOfRange (operator : MathOperator) (left right : Int) (range : WholeRange)
  | remainderByZero
deriving DecidableEq, Repr

def MathOperator.sign : MathOperator → String
  | .plus => "+"
  | .minus => "-"
  | .times => "x"
  | .over => "/"
  | .modulo => "%"

def ArithmeticFault.message (left right : Expression) : ArithmeticFault → String
  | .outOfRange operator leftValue rightValue range =>
      toString leftValue ++ " " ++ operator.sign ++ " " ++ toString rightValue ++
        " results in an out of bounds " ++ range.word
  | .remainderByZero => "Tried to do a modulo by zero: " ++ left.dump ++ "/" ++ right.dump

/-- A positive binary fraction as a whole number of units `2 ^ unit`. -/
private def inUnits (unit : Int) (fraction : Decimal.Fraction) : Nat :=
  fraction.significand * Nat.pow 2 (fraction.exponent - unit).toNat

/-- The remainder of a division with a quotient cut toward zero.  It has the sign
of the left number and is exact. -/
def floatRemainder (left right : Float) : Float :=
  match Decimal.partsOfBits left.toBits, Decimal.partsOfBits right.toBits with
  | .zero _, .finite _ _ => left
  | .zero _, .infinite _ => left
  | .finite _ _, .infinite _ => left
  | .finite negative leftFraction, .finite _ rightFraction =>
      let unit := min leftFraction.exponent rightFraction.exponent
      let rest := inUnits unit leftFraction % inUnits unit rightFraction
      let value := (Float.ofNat rest).scaleB unit
      if negative then -value else value
  | _, _ => 0.0 / 0.0

/-- The sum, difference or product of whole numbers. -/
def wholeResult (operator : MathOperator) (left right : Int) : Int :=
  match operator with
  | .minus => left - right
  | .times => left * right
  | _ => left + right

/-- The sum, difference or product of floats. -/
def floatResult (operator : MathOperator) (left right : Float) : Float :=
  match operator with
  | .minus => left - right
  | .times => left * right
  | _ => left + right

def quotient (left right : Float) : Option Number :=
  let value := left / right
  if value.isNaN then none
  else if value.round == value && value.isFinite then some (.whole value.toInt64.toInt)
  else Number.ofFloat? value

/-- The result of an operation; it is missing when it is no finite number. -/
def combine (operator : MathOperator) (left right : Number) :
    Except ArithmeticFault (Option Number) :=
  let range? := match left, right with
    | .whole left, .whole right =>
        (WholeRange.common? left right).map fun range => (range, left, right)
    | _, _ => none
  match operator, range? with
  | .over, _ => .ok (quotient left.toFloat right.toFloat)
  | .modulo, some (_, left, right) =>
      if right = 0 then .error .remainderByZero else .ok (some (.whole (left.tmod right)))
  | .modulo, none => .ok (Number.ofFloat? (floatRemainder left.toFloat right.toFloat))
  | operator, some (range, left, right) =>
      let value := wholeResult operator left right
      if range.contains value then .ok (some (.whole value))
      else .error (.outOfRange operator left right range)
  | operator, none => .ok (Number.ofFloat? (floatResult operator left.toFloat right.toFloat))

end Stencil.Template
