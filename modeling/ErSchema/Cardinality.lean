/-!
# Cardinalities

The participation of an entity in a relation: a minimum of none or one, and a maximum of one or
many. It is written as the two of them with a colon between, and a text is read as the cardinality
that is written so.

* `parse?_text`: what is written is read back.
* `text_eq_of_parse?`: only the written form is read.
-/

namespace ErSchema

/-- The least number of times an entity takes part. -/
inductive Minimum where
  | zero
  | one
  deriving DecidableEq, Repr

/-- The greatest number of times an entity takes part. -/
inductive Maximum where
  | one
  | many
  deriving DecidableEq, Repr

/-- The participation of an entity in a relation. -/
structure Cardinality where
  minimum : Minimum
  maximum : Maximum
  deriving DecidableEq, Repr

/-- A minimum as it is written. -/
def Minimum.text : Minimum → String
  | .zero => "0"
  | .one => "1"

/-- A maximum as it is written. -/
def Maximum.text : Maximum → String
  | .one => "1"
  | .many => "N"

namespace Cardinality

/-- A cardinality as it is written. -/
def text (c : Cardinality) : String := c.minimum.text ++ ":" ++ c.maximum.text

/-- Every cardinality, in the order of their texts (`POSSIBLE_CARDINALITIES`). -/
def all : List Cardinality := [⟨.zero, .one⟩, ⟨.zero, .many⟩, ⟨.one, .one⟩, ⟨.one, .many⟩]

/-- The cardinality that a text writes (`Cardinality::from_str`). -/
def parse? (s : String) : Option Cardinality := all.find? (·.text = s)

/-- Whether an entity has to take part (`Cardinality::is_mandatory`). -/
def isMandatory (c : Cardinality) : Bool := c.minimum = .one

/-- Whether an entity may take part more than once (`Cardinality::is_many`). -/
def isMany (c : Cardinality) : Bool := c.maximum = .many

/-! ## Lemmas -/

theorem mem_all (c : Cardinality) : c ∈ all := by
  obtain ⟨minimum, maximum⟩ := c
  cases minimum <;> cases maximum <;> decide

theorem parse?_text (c : Cardinality) : parse? c.text = some c := by
  obtain ⟨minimum, maximum⟩ := c
  cases minimum <;> cases maximum <;> decide

theorem text_eq_of_parse? {s : String} {c : Cardinality} (h : parse? s = some c) : c.text = s := by
  simpa using List.find?_some h

theorem isMandatory_iff {c : Cardinality} :
    c.isMandatory = true ↔ c.minimum = .one :=
  decide_eq_true_iff

theorem isMandatory_eq_false {c : Cardinality} :
    c.isMandatory = false ↔ c.minimum = .zero := by
  obtain ⟨minimum, maximum⟩ := c
  cases minimum <;> simp [isMandatory]

theorem isMany_iff {c : Cardinality} : c.isMany = true ↔ c.maximum = .many :=
  decide_eq_true_iff

theorem not_isMany (c : Cardinality) : (!c.isMany) = decide (c.maximum = .one) := by
  obtain ⟨minimum, maximum⟩ := c
  cases maximum <;> rfl

end Cardinality

end ErSchema
