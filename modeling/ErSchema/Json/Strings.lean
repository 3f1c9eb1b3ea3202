import ErSchema.Json.Reader

/-!
# Reading JSON strings

The readers here start behind the opening quote. `stringBody` reads the text of a string whose
escapes have to name characters; `skipStringBody` passes a string whose `\u` escapes need four
digits but may be halves of pairs. A control character is refused in both; only the place of that
fault differs.

* `contentFrom_rest_le`: the content of a string is taken from the front of the text.
-/

namespace ErSchema.Json

open Reader

/-! ## Escapes -/

/-- The value of a hexadecimal digit. -/
def hexValue? (c : Char) : Option Nat :=
  if '0' ≤ c ∧ c ≤ '9' then some (c.toNat - '0'.toNat)
  else if 'a' ≤ c ∧ c ≤ 'f' then some (c.toNat - 'a'.toNat + 10)
  else if 'A' ≤ c ∧ c ≤ 'F' then some (c.toNat - 'A'.toNat + 10)
  else none

/-- The value of the four hexadecimal digits that a text starts with. -/
def fourDigits? : List Char → Option Nat
  | a :: b :: c :: d :: _ =>
    match hexValue? a, hexValue? b, hexValue? c, hexValue? d with
    | some w, some x, some y, some z => some (((w * 16 + x) * 16 + y) * 16 + z)
    | _, _, _, _ => none
  | _ => none

/-- The value of four hexadecimal digits. When fewer than four bytes are left, the text has ended
in the string. -/
def hexEscape : Reader Nat where
  run s :=
    match fourDigits? s with
    | some n => .ok (n, s.drop 4)
    | none =>
      if byteCount (s.take 4) < 4 then .error ⟨.endInString, [], 0⟩
      else .error ⟨.invalidEscape, s, 4⟩
  rest_le h := by
    split at h
    · cases h; simp
    · split at h <;> contradiction

/-- Passes `c` inside a pair of escapes. -/
def pairMark (c : Char) : Reader Unit := do
  match ← peek with
  | none => fail .endInString 0
  | some d => if d = c then advance else fail .unfinishedPair 1

/-- The first code of a pair of escapes that name one character. -/
def isHighSurrogate (n : Nat) : Bool := 0xD800 ≤ n && n ≤ 0xDBFF

/-- The second code of such a pair. -/
def isLowSurrogate (n : Nat) : Bool := 0xDC00 ≤ n && n ≤ 0xDFFF

/-- The character of a `\u` escape or of a pair of them, read from behind the first `u`. -/
def unicodeEscape : Reader Char := do
  let n ← hexEscape
  if isLowSurrogate n then
    fail .loneSurrogate 0
  else if isHighSurrogate n then
    pairMark '\\'
    pairMark 'u'
    let m ← hexEscape
    if isLowSurrogate m then
      pure (Char.ofNat (0x10000 + (n - 0xD800) * 0x400 + (m - 0xDC00)))
    else
      fail .loneSurrogate 0
  else
    pure (Char.ofNat n)

/-- The character that a letter behind a backslash stands for. -/
def letterEscape? (c : Char) : Option Char :=
  if c = '\"' ∨ c = '\\' ∨ c = '/' then some c
  else if c = 'b' then some '\x08'
  else if c = 'f' then some '\x0c'
  else if c = 'n' then some '\n'
  else if c = 'r' then some '\r'
  else if c = 't' then some '\t'
  else none

/-- The character of an escape, read from behind the backslash; `coded` reads what follows a
`u`. -/
def escape (coded : Reader Char) : Reader Char := do
  match ← peek with
  | none => fail .endInString 0
  | some c =>
    match letterEscape? c with
    | some d =>
      advance
      pure d
    | none =>
      if c = 'u' then
        advance
        coded
      else
        fail .invalidEscape 1

/-! ## Content -/

/-- Reads up to the closing quote; `done` holds the characters so far, the last one first. A
control character is a fault `ahead` bytes on. -/
def contentFrom (coded : Reader Char) (ahead : Nat) (done s : List Char) :
    Except Fault (List Char × List Char) :=
  match s with
  | [] => .error ⟨.endInString, [], 0⟩
  | c :: r =>
    if c = '\"' then .ok (done.reverse, r)
    else if c = '\\' then
      match _ : (escape coded).run r with
      | .error e => .error e
      | .ok (d, t) => contentFrom coded ahead (d :: done) t
    else if c.toNat < 32 then .error ⟨.controlCharacter, c :: r, ahead⟩
    else contentFrom coded ahead (c :: done) r
termination_by s.length
decreasing_by
  · have := (escape coded).rest_le ‹_›
    simp only [List.length_cons]
    omega
  · simp

theorem contentFrom_rest_le {coded : Reader Char} {ahead : Nat} {done s a r : List Char}
    (h : contentFrom coded ahead done s = .ok (a, r)) : r.length ≤ s.length := by
  fun_induction contentFrom coded ahead done s with
  | case1 => contradiction
  | case2 => cases h; simp
  | case3 => contradiction
  | case4 _ _ _ _ ht _ ih =>
    have := (escape coded).rest_le ht
    have := ih h
    simp only [List.length_cons]
    omega
  | case5 => contradiction
  | case6 _ _ _ _ _ _ ih =>
    have := ih h
    simp only [List.length_cons]
    omega

/-- The characters of a string up to its closing quote. -/
def content (coded : Reader Char) (ahead : Nat) : Reader (List Char) where
  run := contentFrom coded ahead []
  rest_le := contentFrom_rest_le

/-- The text of a string. -/
def stringBody : Reader String := do
  let cs ← content unicodeEscape 1
  pure (String.ofList cs)

/-- Passes a string. -/
def skipStringBody : Reader Unit := do
  let _ ← content (do let n ← hexEscape; pure (Char.ofNat n)) 0
  pure ()

end ErSchema.Json
