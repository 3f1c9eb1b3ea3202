import ErSchema.Json.Numerals
import ErSchema.Json.Strings

/-!
# Reading JSON values

`items` and `members` read the inside of a list or an object from behind its opening bracket.
`value` reads any value whose brackets nest no deeper than it is told. `Reader.text`,
`Reader.boolean` and `Reader.list` read a value of one type and refuse any other, once they have
read it if it is a scalar.

* `anotherItem_progress`, `anotherMember_progress`: what says that more follows has passed a
  comma.
-/

namespace ErSchema.Json

open Reader

variable {α : Type}

/-! ## Scalars -/

/-- Passes the rest of a word. -/
def word : List Char → Reader Unit
  | [] => pure ()
  | c :: cs => do
    match ← peek with
    | none => fail .endInValue 0
    | some d =>
      if d = c then
        advance
        word cs
      else
        fail .expectedWord 1

/-- The reader of a scalar by its first character, which has been passed. -/
def scalarFrom? (first : Char) : Option (Reader Json) :=
  if first = '\"' then
    some do
      let s ← stringBody
      pure (.string s)
  else if first = 't' then
    some do
      word ['r', 'u', 'e']
      pure (.boolean true)
  else if first = 'f' then
    some do
      word ['a', 'l', 's', 'e']
      pure (.boolean false)
  else if first = 'n' then
    some do
      word ['u', 'l', 'l']
      pure .null
  else if first = '-' ∨ first.isDigit then
    some do
      let n ← numberFrom first
      pure (.number n)
  else none

/-! ## Lists and objects -/

/-- Behind an opening bracket: whether an item follows. Otherwise the closing bracket is passed. -/
def firstItem : Reader Bool := do
  match ← peekToken with
  | none => fail .endInList 1
  | some c =>
    if c = ']' then
      advance
      pure false
    else
      pure true

/-- Behind an item: whether another follows, of which the comma is passed. Otherwise the closing
bracket is. -/
def anotherItem : Reader Bool := do
  match ← peekToken with
  | none => fail .endInList 1
  | some c =>
    if c = ']' then
      advance
      pure false
    else if c = ',' then
      advance
      match ← peekToken with
      | none => fail .endInValue 1
      | some d => if d = ']' then fail .trailingComma 1 else pure true
    else
      fail .expectedItemEnd 1

/-- Behind an opening brace: whether a member follows, of which the quote is passed. Otherwise the
closing brace is. -/
def firstMember : Reader Bool := do
  match ← peekToken with
  | none => fail .endInObject 1
  | some c =>
    if c = '}' then
      advance
      pure false
    else if c = '\"' then
      advance
      pure true
    else
      fail .keyNotString 1

/-- Behind a member: whether another follows, of which comma and quote are passed. Otherwise the
closing brace is. -/
def anotherMember : Reader Bool := do
  match ← peekToken with
  | none => fail .endInObject 1
  | some c =>
    if c = '}' then
      advance
      pure false
    else if c = ',' then
      advance
      match ← peekToken with
      | none => fail .endInValue 1
      | some d =>
        if d = '\"' then
          advance
          pure true
        else if d = '}' then
          fail .trailingComma 1
        else
          fail .keyNotString 1
    else
      fail .expectedMemberEnd 1

/-- Passes the colon behind a key. -/
def colon : Reader Unit := do
  match ← peekToken with
  | none => fail .endInObject 1
  | some c => if c = ':' then advance else fail .expectedColon 1

theorem anotherItem_progress {s r : List Char} (h : anotherItem.run s = .ok (true, r)) :
    r.length < s.length := by
  obtain ⟨c?, r₁, hp, h⟩ := run_bind_eq_ok h
  cases c? with
  | none => contradiction
  | some c =>
    obtain ⟨t, rfl, ht⟩ := peekToken_eq_some hp
    simp only at h
    split at h
    · simp [run_advance_bind, run_pure] at h
    · split at h
      · rw [run_advance_bind] at h
        exact Nat.lt_of_le_of_lt (Reader.rest_le _ h) ht
      · contradiction

theorem anotherMember_progress {s r : List Char} (h : anotherMember.run s = .ok (true, r)) :
    r.length < s.length := by
  obtain ⟨c?, r₁, hp, h⟩ := run_bind_eq_ok h
  cases c? with
  | none => contradiction
  | some c =>
    obtain ⟨t, rfl, ht⟩ := peekToken_eq_some hp
    simp only at h
    split at h
    · simp [run_advance_bind, run_pure] at h
    · split at h
      · rw [run_advance_bind] at h
        exact Nat.lt_of_le_of_lt (Reader.rest_le _ h) ht
      · contradiction

/-- Reads an item onto those before it, the last one first. -/
def itemOnto (item : Reader α) (done : List α) : Reader (List α) := do
  let a ← item
  pure (a :: done)

/-- The items of a list, from behind its opening bracket to behind its closing one. -/
def items (item : Reader α) : Reader (List α) := do
  if ← firstItem then
    let first ← itemOnto item []
    let done ← loop anotherItem anotherItem_progress (itemOnto item) first
    pure done.reverse
  else
    pure []

/-- Reads a member, of which the quote has been passed, onto those before it. -/
def memberOnto (item : Reader α) (done : List (String × α)) : Reader (List (String × α)) := do
  let key ← stringBody
  colon
  let a ← item
  pure ((key, a) :: done)

/-- The members of an object, from behind its opening brace to behind its closing one. -/
def members (item : Reader α) : Reader (List (String × α)) := do
  if ← firstMember then
    let first ← memberOnto item []
    let done ← loop anotherMember anotherMember_progress (memberOnto item) first
    pure done.reverse
  else
    pure []

/-! ## Values of any type -/

/-- A scalar, or what `list` and `map` read from before the opening bracket. -/
def valueWith (list map : Reader Json) : Reader Json := do
  match ← peekToken with
  | none => fail .endInValue 1
  | some c =>
    match scalarFrom? c with
    | some scalar =>
      advance
      scalar
    | none => if c = '[' then list else if c = '{' then map else fail .expectedValue 1

/-- A value whose lists and objects nest at most `depth` deep. -/
def value : (depth : Nat) → Reader Json
  | 0 => valueWith (fail .tooDeep 1) (fail .tooDeep 1)
  | depth + 1 =>
    valueWith
      (do
        advance
        let vs ← items (value depth)
        pure (.array vs))
      (do
        advance
        let ms ← members (value depth)
        pure (.object ms))

/-! ## Values of one type -/

/-- What a value is when it is not what was expected. -/
def Found.ofValue : Json → Found
  | .null => .null
  | .boolean b => .boolean b
  | .number n => .number n
  | .string s => .string s
  | .array _ => .sequence
  | .object _ => .map

/-- Refuses the value that follows. A scalar is read first; a list or an object is not. -/
def refuse (expected : Expected) : Reader α := do
  match ← peekToken with
  | none => fail .endInValue 1
  | some c =>
    match scalarFrom? c with
    | some scalar =>
      advance
      let v ← scalar
      fail (.wrongType (.ofValue v) expected) 0
    | none =>
      if c = '[' then fail (.wrongType .sequence expected) 0
      else if c = '{' then fail (.wrongType .map expected) 0
      else fail .expectedValue 1

/-- A string. -/
def Reader.text : Reader String := do
  if (← peekToken) = some '\"' then
    advance
    stringBody
  else
    refuse .string

/-- A boolean. -/
def Reader.boolean : Reader Bool := do
  let c ← peekToken
  if c = some 't' then
    advance
    word ['r', 'u', 'e']
    pure true
  else if c = some 'f' then
    advance
    word ['a', 'l', 's', 'e']
    pure false
  else
    refuse .boolean

/-- A list of items of one type. -/
def Reader.list (item : Reader α) : Reader (List α) := do
  if (← peekToken) = some '[' then
    advance
    items item
  else
    refuse .sequence

end ErSchema.Json
