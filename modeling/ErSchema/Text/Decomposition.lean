import ErSchema.Text.Decomposition.Table
import ErSchema.Text.Ranges

/-!
# Canonical decomposition

`decompose` gives the full canonical decomposition of one character in Unicode 14: its row in the
tables, the letters of a Hangul syllable, or the character itself. `decomposeAll` does so along a
text.

* `decomposeAll_append`: texts decompose piece by piece.
-/

namespace ErSchema.Text

open Decomposition

/-- The row of code point `n` in ascending blocks. -/
def Decomposition.row? : List Block → Nat → Option (List Nat)
  | [], _ => none
  | b :: rest, n =>
    if n < b.first then none else if n ≤ b.last then entryAt b.entries n else row? rest n

/-- The letters of the Hangul syllable `n`: a leading consonant, a vowel and, unless the syllable
is open, a final consonant. Syllables run through the finals first, then the vowels. -/
def hangulLetters (n : Nat) : List Nat :=
  let index := n - 0xAC00
  let lead := 0x1100 + index / (21 * 28)
  let vowel := 0x1161 + index % (21 * 28) / 28
  let final := index % 28
  if final = 0 then [lead, vowel] else [lead, vowel, 0x11A7 + final]

/-- The full canonical decomposition of a character. -/
def decompose (c : Char) : List Char :=
  if 0xAC00 ≤ c.toNat ∧ c.toNat ≤ 0xD7A3 then
    (hangulLetters c.toNat).map Char.ofNat
  else
    match row? blocks c.toNat with
    | some row => row.map Char.ofNat
    | none => [c]

/-- The full canonical decomposition of a text, before its marks are put in order. -/
def decomposeAll (cs : List Char) : List Char := cs.flatMap decompose

theorem decomposeAll_append (a b : List Char) :
    decomposeAll (a ++ b) = decomposeAll a ++ decomposeAll b :=
  List.flatMap_append

end ErSchema.Text
