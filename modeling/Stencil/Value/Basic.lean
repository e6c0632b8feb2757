import Stencil.Decimal.Shortest

/-!
# Document values

The values that JSON, YAML and TOML documents hold and that templates work on.
An object is the list of its fields in document order.  `Value.settled` merges
repeated keys: each keeps its first place and its last value.
-/

namespace Stencil

/-- A whole number, or a binary64 word for every other number. -/
inductive Number where
  | whole (value : Int)
  | float (bits : UInt64)
deriving DecidableEq, Repr, Inhabited

namespace Number

/-- The smallest whole number that data can hold. -/
def minWhole : Int := -(Int.pow 2 63)

/-- The largest whole number that data can hold. -/
def maxWhole : Int := Int.pow 2 64 - 1

def toFloat : Number → Float
  | whole value => if value < 0 then -(Float.ofNat value.natAbs) else Float.ofNat value.toNat
  | float bits => Float.ofBits bits

def ofFloat? (value : Float) : Option Number :=
  if value.isFinite then some (.float value.toBits) else none

def text : Number → String
  | whole value => toString value
  | float bits => Decimal.dataText bits

def plain : Number → String
  | whole value => toString value
  | float bits => Decimal.plainText bits

/-- Two numbers are the same when both are whole and equal, or both are floats
and compare equal. -/
def same : Number → Number → Bool
  | whole left, whole right => left == right
  | float left, float right => Float.ofBits left == Float.ofBits right
  | _, _ => false

end Number

/-- A document value. -/
inductive Value where
  | null
  | bool (flag : Bool)
  | number (value : Number)
  | string (text : String)
  | array (items : List Value)
  | object (fields : List (String × Value))
deriving Inhabited, Repr

namespace Value

/-- The fields of an object in document order. -/
abbrev Fields := List (String × Value)

def field? (fields : Fields) (key : String) : Option Value :=
  (fields.find? fun entry => entry.1 == key).map Prod.snd

def hasField (fields : Fields) (key : String) : Bool :=
  fields.any fun entry => entry.1 == key

/-- Sets a field: in place when the key occurs, else at the end. -/
def put (key : String) (value : Value) : Fields → Fields
  | [] => [(key, value)]
  | entry :: rest =>
      if entry.1 == key then (key, value) :: rest else entry :: put key value rest

def get? (value : Value) (key : String) : Option Value :=
  match value with
  | object fields => field? fields key
  | _ => none

def string? : Value → Option String
  | string text => some text
  | _ => none

def bool? : Value → Option Bool
  | bool flag => some flag
  | _ => none

def items? : Value → Option (List Value)
  | array items => some items
  | _ => none

def fields? : Value → Option Fields
  | object fields => some fields
  | _ => none

def text? (value : Value) (key : String) : Option String :=
  (value.get? key).bind string?

def whole (value : Int) : Value :=
  .number (.whole value)

def ofText? : Option String → Value
  | some text => .string text
  | none => .null

mutual

/-- The value with the repeated keys of every object merged. -/
def settled : Value → Value
  | array items => array (settledItems items)
  | object fields => object (settledFields [] fields)
  | value => value

/-- The items of an array with repeated keys merged inside. -/
def settledItems : List Value → List Value
  | [] => []
  | item :: rest => settled item :: settledItems rest

/-- Puts the remaining fields of an object on the ones already settled. -/
def settledFields (done : Fields) : List (String × Value) → Fields
  | [] => done
  | (key, value) :: rest => settledFields (put key (settled value) done) rest

end

mutual

/-- Equality of values; the order of the fields of an object does not matter. -/
def same : Value → Value → Bool
  | null, null => true
  | bool left, bool right => left == right
  | number left, number right => left.same right
  | string left, string right => left == right
  | array left, array right => sameItems left right
  | object left, object right => left.length == right.length && sameFields left right
  | _, _ => false

/-- Whether two lists agree place by place. -/
def sameItems : List Value → List Value → Bool
  | [], [] => true
  | left :: lefts, right :: rights => same left right && sameItems lefts rights
  | _, _ => false

/-- Whether every field has an equal one under the same key. -/
def sameFields : List (String × Value) → Fields → Bool
  | [], _ => true
  | (key, value) :: rest, fields =>
      (match field? fields key with
        | some other => same value other
        | none => false) && sameFields rest fields

end

@[simp]
theorem get?_object (fields : Fields) (key : String) :
    (object fields).get? key = field? fields key :=
  rfl

end Value

end Stencil
