import ErSchema.Json.Skip

/-!
# Reading records

A record is written as an object of its fields in any order, or as a list of them in the order of
their declaration. `Record.read` starts from a blank record and lets each field update it. In an
object unknown members are passed; a field may go by several keys but stands once. A field that is
not required may be absent, from a list only at its end.

A fault of the record itself, such as a missing field, lies behind the record's end where that
follows, and otherwise where it would.

* `Record.field?_label`: a key finds only a field that goes by it.
-/

namespace ErSchema.Json

open Reader

variable {α β : Type}

/-- A field of a record `α`: its label, the other keys it goes by, and the reader of its value,
which tells how the record is updated or why it cannot be. -/
structure Field (α : Type) where
  label : String
  aliases : List String
  required : Bool
  read : Reader (α → Except Cause α)

/-- A record `α` with its name, its fields in the order of declaration and its blank value. -/
structure Record (α : Type) where
  name : String
  fields : List (Field α)
  blank : α

/-- A field whose every value is accepted. -/
def Field.plain (label : String) (required : Bool) (item : Reader β) (set : β → α → α) :
    Field α where
  label := label
  aliases := []
  required := required
  read := do
    let b ← item
    pure fun a => .ok (set b a)

/-- The field together with a second key. -/
def Field.withAlias (f : Field α) (key : String) : Field α :=
  { f with aliases := key :: f.aliases }

/-- Whether a field goes by a key. -/
def Field.answersTo (f : Field α) (key : String) : Bool := f.label = key || f.aliases.contains key

/-- The field that goes by a key. -/
def Record.field? (t : Record α) (key : String) : Option (Field α) :=
  t.fields.find? (·.answersTo key)

theorem Record.field?_label {t : Record α} {key : String} {f : Field α}
    (h : t.field? key = some f) : f.answersTo key = true :=
  List.find?_some (p := fun f : Field α => f.answersTo key) h

/-! ## Objects -/

/-- Refuses a record inside its object: the closing brace is passed if it follows. -/
def refuseInObject (cause : Cause) : Reader α := do
  if (← peekToken) = some '}' then
    advance
  fail cause 0

/-- Refuses a record inside its list: a closing bracket is passed if it follows, and so is a
comma. -/
def refuseInList (cause : Cause) : Reader α := do
  let c ← peekToken
  if c = some ']' then
    advance
  else if c = some ',' then
    advance
    skipBlanks
  fail cause 0

/-- A record that is being read from an object, with the labels of the fields that have been. -/
structure Draft (α : Type) where
  seen : List String
  record : α

/-- Reads a member, of which the quote has been passed, into a draft. -/
def Record.member (t : Record α) (d : Draft α) : Reader (Draft α) := do
  let key ← stringBody
  match t.field? key with
  | none =>
    colon
    skipValue
    pure d
  | some f =>
    if d.seen.contains f.label then
      refuseInObject (.duplicateField f.label)
    else
      colon
      let update ← f.read
      match update d.record with
      | .ok a => pure ⟨f.label :: d.seen, a⟩
      | .error cause => refuseInObject cause

/-- The record of a draft, if no required field is missing. -/
def Record.finish (t : Record α) (d : Draft α) : Reader α :=
  match t.fields.find? fun f => f.required && !d.seen.contains f.label with
  | some f => fail (.missingField f.label) 0
  | none => pure d.record

/-- A record from an object, from behind its opening brace. -/
def Record.fromObject (t : Record α) : Reader α := do
  if ← firstMember then
    let first ← t.member ⟨[], t.blank⟩
    let d ← loop anotherMember anotherMember_progress t.member first
    t.finish d
  else
    t.finish ⟨[], t.blank⟩

/-! ## Lists -/

/-- The end of a list whose record is complete. -/
def endOfRecord : Reader Unit := do
  match ← peekToken with
  | none => fail .endInList 1
  | some c =>
    if c = ']' then
      advance
    else if c = ',' then
      advance
      if (← peekToken) = some ']' then
        fail .trailingComma 1
      else
        fail .trailingCharacters 1
    else
      fail .trailingCharacters 1

/-- Reads the values of fields from a list, of which `present` have been read. -/
def Record.elements (t : Record α) (present : Nat) (a : α) : List (Field α) → Reader α
  | [] => do
    endOfRecord
    pure a
  | f :: fs => do
    if ← (if present = 0 then firstItem else anotherItem) then
      let update ← f.read
      match update a with
      | .ok b => t.elements (present + 1) b fs
      | .error cause => refuseInList cause
    else if (f :: fs).any (·.required) then
      fail (.tooFewElements present t.name t.fields.length) 0
    else
      pure a

/-- A record. -/
def Record.read (t : Record α) : Reader α := do
  let c ← peekToken
  if c = some '[' then
    advance
    t.elements 0 t.blank t.fields
  else if c = some '{' then
    advance
    t.fromObject
  else
    refuse (.record t.name)

/-! ## Documents -/

/-- Reads one value with nothing but white space around it. -/
def document (item : Reader α) : Reader α := do
  let a ← item
  match ← peekToken with
  | none => pure a
  | some _ => fail .trailingCharacters 1

/-- The record that a source holds. -/
def Record.ofSource (t : Record α) (source : String) : Except Error α :=
  match (document t.read).run source.toList with
  | .ok (a, _) => .ok a
  | .error f => .error (f.locate source.toList)

end ErSchema.Json
