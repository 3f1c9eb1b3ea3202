import ErSchema.Text.Visible

/-!
# Quoted text in messages

A message quotes a text between double quotes so that it can be told apart and read in full: the
quote and the backslash are escaped, the common controls have a letter, and every other character
that would not be seen is written by its code point.
-/

namespace ErSchema.Text

/-- The code point of a character in lower-case hexadecimal, between `\u` and braces. -/
def codePointEscape (c : Char) : List Char :=
  '\\' :: 'u' :: '{' :: Nat.toDigits 16 c.toNat ++ ['}']

/-- A character as it stands in a quoted text. -/
def quotedChar (c : Char) : List Char :=
  if c = '\x00' then ['\\', '0']
  else if c = '\t' then ['\\', 't']
  else if c = '\r' then ['\\', 'r']
  else if c = '\n' then ['\\', 'n']
  else if c = '\"' ∨ c = '\\' then ['\\', c]
  else if isExtender c || isHidden c then codePointEscape c
  else [c]

/-- A text in double quotes. -/
def quoted (s : String) : String :=
  String.ofList ('\"' :: s.toList.flatMap quotedChar ++ ['\"'])

end ErSchema.Text
