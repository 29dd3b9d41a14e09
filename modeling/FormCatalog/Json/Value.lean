import FormCatalog.Number.Decimal

/-!
JSON values.

A number keeps the form it was written in: an integer, a decimal with a point or an exponent, or one
of the three named values that are not finite. The members of an object stay in the order written,
repeated keys included; `Json.get?` answers with the last of them.
-/

set_option autoImplicit false
set_option relaxedAutoImplicit false

namespace FormCatalog

open Number

/-- A number as written. -/
inductive Numeral where
  | integer (value : Int)
  | decimal (value : Decimal)
  | infinite (negative : Bool)
  | notANumber
  deriving DecidableEq, Repr

/-- A JSON value. -/
inductive Json where
  | null
  | bool (value : Bool)
  | number (value : Numeral)
  | string (value : String)
  | array (items : List Json)
  | object (members : List (String × Json))

namespace Json

/-- The value of the last member with this key. -/
def lastMember? (key : String) (members : List (String × Json)) : Option Json :=
  members.foldl (fun found m ↦ if m.1 = key then some m.2 else found) none

/-- The member of an object with this key, the last one when the key is repeated. -/
def get? (key : String) : Json → Option Json
  | object members => lastMember? key members
  | _ => none

/-- The text, if the value is one. -/
def text? : Json → Option String
  | string s => some s
  | _ => none

/-- The truth value, if the value is one. -/
def bool? : Json → Option Bool
  | bool b => some b
  | _ => none

/-- The items, if the value is an array. -/
def items? : Json → Option (List Json)
  | array items => some items
  | _ => none

/-- The integer, if the value is one. -/
def int? : Json → Option Int
  | number (.integer n) => some n
  | _ => none

/-- A value read with `f`, or null. -/
def ofOption {α : Type} (f : α → Json) : Option α → Json
  | some a => f a
  | none => null

end Json

end FormCatalog
