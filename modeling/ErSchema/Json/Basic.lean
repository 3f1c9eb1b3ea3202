import ErSchema.Decimal.Shortest

/-!
# JSON values

A value keeps the members of an object as a list in the order of the text, repeated keys included.
A number is an integer of 64 bits, signed or not, or else a binary64 number.
-/

namespace ErSchema.Json

/-- A number as a reader keeps it. -/
inductive Number where
  | integer (value : Int)
  | floating (value : Float)
  deriving BEq, Repr

/-- Floating-point numbers are written without an exponent from `1e-5` up to `1e16`. -/
def floatLayout : Decimal.Layout := ⟨-5, 16⟩

/-- The text of a number. -/
def Number.text : Number → String
  | .integer i => toString i
  | .floating x => Decimal.floatText floatLayout x

end ErSchema.Json

namespace ErSchema

/-- A JSON value. -/
inductive Json where
  | null
  | boolean (value : Bool)
  | number (value : Json.Number)
  | string (value : String)
  | array (items : List Json)
  | object (members : List (String × Json))
  deriving Repr, Inhabited

end ErSchema
