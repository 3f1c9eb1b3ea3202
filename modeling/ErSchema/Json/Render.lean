import ErSchema.Json.Basic

/-!
# Writing JSON

`compact` writes a value without any white space, `pretty` with one member or item a line, indented
by two spaces a level. Both escape the quote, the backslash and the controls of a string and leave
every other character as it is.

* `compact_boolean`, `compact_string`: the texts of scalars.
-/

namespace ErSchema.Json

/-! ## Strings -/

/-- A control character by its code, with four hexadecimal digits. -/
def controlEscape (c : Char) : List Char :=
  ['\\', 'u', '0', '0', Nat.digitChar (c.toNat / 16), Nat.digitChar (c.toNat % 16)]

/-- A character as it stands in a JSON string. -/
def escapedChar (c : Char) : List Char :=
  if c = '\"' then ['\\', '\"']
  else if c = '\\' then ['\\', '\\']
  else if c = '\x08' then ['\\', 'b']
  else if c = '\t' then ['\\', 't']
  else if c = '\n' then ['\\', 'n']
  else if c = '\x0c' then ['\\', 'f']
  else if c = '\r' then ['\\', 'r']
  else if c.toNat < 32 then controlEscape c
  else [c]

/-- A JSON string. -/
def stringText (s : String) : List Char :=
  '\"' :: s.toList.flatMap escapedChar ++ ['\"']

/-! ## Values -/

mutual

/-- A value without white space, as characters. -/
def compactText : Json → List Char
  | .null => ['n', 'u', 'l', 'l']
  | .boolean true => ['t', 'r', 'u', 'e']
  | .boolean false => ['f', 'a', 'l', 's', 'e']
  | .number n => n.text.toList
  | .string s => stringText s
  | .array [] => ['[', ']']
  | .array (v :: vs) => '[' :: compactText v ++ compactItems vs ++ [']']
  | .object [] => ['{', '}']
  | .object ((k, v) :: ms) =>
    '{' :: stringText k ++ ':' :: compactText v ++ compactMembers ms ++ ['}']

/-- The items after the first, each behind a comma. -/
def compactItems : List Json → List Char
  | [] => []
  | v :: vs => ',' :: compactText v ++ compactItems vs

/-- The members after the first, each behind a comma. -/
def compactMembers : List (String × Json) → List Char
  | [] => []
  | (k, v) :: ms => ',' :: stringText k ++ ':' :: compactText v ++ compactMembers ms

end

/-- A value without white space. -/
def compact (v : Json) : String := String.ofList (compactText v)

/-- A new line at a level of nesting. -/
def newline (level : Nat) : List Char := '\n' :: List.replicate (2 * level) ' '

mutual

/-- A value over several lines, as characters, where it stands at a level of nesting. -/
def prettyText (level : Nat) : Json → List Char
  | .null => ['n', 'u', 'l', 'l']
  | .boolean true => ['t', 'r', 'u', 'e']
  | .boolean false => ['f', 'a', 'l', 's', 'e']
  | .number n => n.text.toList
  | .string s => stringText s
  | .array [] => ['[', ']']
  | .array (v :: vs) =>
    '[' :: newline (level + 1) ++ prettyText (level + 1) v ++ prettyItems (level + 1) vs
      ++ newline level ++ [']']
  | .object [] => ['{', '}']
  | .object ((k, v) :: ms) =>
    '{' :: newline (level + 1) ++ stringText k ++ ':' :: ' ' :: prettyText (level + 1) v
      ++ prettyMembers (level + 1) ms ++ newline level ++ ['}']

/-- The items after the first, each behind a comma and on its own line. -/
def prettyItems (level : Nat) : List Json → List Char
  | [] => []
  | v :: vs => ',' :: newline level ++ prettyText level v ++ prettyItems level vs

/-- The members after the first, each behind a comma and on its own line. -/
def prettyMembers (level : Nat) : List (String × Json) → List Char
  | [] => []
  | (k, v) :: ms =>
    ',' :: newline level ++ stringText k ++ ':' :: ' ' :: prettyText level v
      ++ prettyMembers level ms

end

/-- A value over several lines. -/
def pretty (v : Json) : String := String.ofList (prettyText 0 v)

/-! ## Lemmas -/

theorem compact_boolean (b : Bool) : compact (.boolean b) = if b then "true" else "false" := by
  cases b <;> rfl

theorem compact_string (s : String) : (compact (.string s)).toList = stringText s := by
  simp [compact, compactText]

end ErSchema.Json
