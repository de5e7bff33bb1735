import AssetRegistry.Numeric.Binary64

/-! # JSON values

`Json` is a JSON text as a value: numbers keep what is written, and an object
keeps its members in order, repeated keys included. -/

namespace AssetRegistry

/-- A written number: an integer without fraction and exponent, or a decimal
    `digits * 10 ^ scale`.  Minus zero is a decimal. -/
inductive Json.Number where
  | integer (value : Int)
  | real (negative : Bool) (digits : Nat) (scale : Int)
  deriving DecidableEq, Repr

/-- A JSON value. -/
inductive Json where
  | null
  | bool (value : Bool)
  | number (value : Json.Number)
  | string (value : String)
  | array (items : List Json)
  | object (members : List (String × Json))
  deriving Repr, Inhabited

namespace Json

namespace Number

/-- The absolute value in double arithmetic, and `none` where that overflows. -/
def magnitude? : Number → Option Binary64
  | .integer value => Binary64.ofDecimal value.natAbs 0
  | .real _ digits scale => Binary64.ofDecimal digits scale

/-- Whether the number does not overflow double arithmetic. -/
def isFinite (n : Number) : Bool :=
  n.magnitude?.isSome

/-- Whether the number lies between `-bound` and `bound` in double arithmetic. -/
def isWithin (n : Number) (bound : Nat) : Bool :=
  n.magnitude?.any (·.le bound)

end Number

/-- The number of a natural number. -/
def ofNat (n : Nat) : Json :=
  .number (.integer n)

/-- Whether the value is a number. -/
def isNumber : Json → Bool
  | .number _ => true
  | _ => false

/-- The text of a string. -/
def string? : Json → Option String
  | .string s => some s
  | _ => none

/-- The items of an array. -/
def array? : Json → Option (List Json)
  | .array items => some items
  | _ => none

/-- The members of an object. -/
def object? : Json → Option (List (String × Json))
  | .object members => some members
  | _ => none

/-- The value of a key among the members: the last one counts. -/
def lookup? (key : String) (members : List (String × Json)) : Option Json :=
  (members.reverse.find? (·.1 == key)).map (·.2)

/-- The value of a key in an object, and `none` for a value of another kind. -/
def get? (key : String) (j : Json) : Option Json :=
  j.object?.bind (lookup? key)

end Json

end AssetRegistry
