import ErSchema.Json.Values

/-!
# Documents and their spellings

A `Tree` is a JSON document with everything that its text says except the white space: how each
number and each character of a string is written, and the members of an object in their order. Its
tokens in a row, with any white space before each of them and at the end, are its spellings.

A literal and a number carry the rules by which they are written, so there is no `Tree` without a
spelling.

* `Laid`: a text is a row of tokens with white space around them.
* `Tree.Spells`: a source is a spelling of a document.
* `Tree.induct`: induction on documents.
* `Token.exists_text_eq`: a token does not start with white space.
-/

namespace ErSchema.Json

/-! ## Strings -/

/-- A character inside a string as it is written: by itself, by a letter behind a backslash, or as
one code of four hexadecimal digits behind `\u`. -/
inductive Piece where
  | plain (c : Char) (bare : c ≠ '\"' ∧ c ≠ '\\' ∧ ¬ c.toNat < 32)
  | letter (c meaning : Char) (known : letterEscape? c = some meaning)
  | code (a b c d : Char) (n : Nat) (known : fourDigits? [a, b, c, d] = some n)

/-- The text of a piece. -/
def Piece.text : Piece → List Char
  | .plain c _ => [c]
  | .letter c _ _ => ['\\', c]
  | .code a b c d _ _ => ['\\', 'u', a, b, c, d]

/-- A string as it is written between its quotes. -/
structure Literal where
  pieces : List Piece

/-- The text behind the opening quote, with the closing one. -/
def Literal.body (l : Literal) : List Char := l.pieces.flatMap Piece.text ++ ['\"']

/-- The characters that pieces stand for. Two codes that are a pair stand for one character, and no
half of a pair stands for one by itself. -/
def chars? : List Piece → Option (List Char)
  | [] => some []
  | .plain c _ :: ps => (chars? ps).map (c :: ·)
  | .letter _ meaning _ :: ps => (chars? ps).map (meaning :: ·)
  | .code _ _ _ _ n _ :: ps =>
    if isLowSurrogate n then none
    else if isHighSurrogate n then
      match ps with
      | .code _ _ _ _ m _ :: ps =>
        if isLowSurrogate m then
          (chars? ps).map (Char.ofNat (0x10000 + (n - 0xD800) * 0x400 + (m - 0xDC00)) :: ·)
        else none
      | _ => none
    else (chars? ps).map (Char.ofNat n :: ·)

/-- The text that a string stands for, if it stands for one. -/
def Literal.text? (l : Literal) : Option String := (chars? l.pieces).map String.ofList

/-! ## Numbers -/

/-- Digits, of which there is at least one. -/
def IsDigits (ds : List Char) : Prop := ds ≠ [] ∧ ∀ d ∈ ds, d.isDigit = true

/-- An exponent as it is written. -/
structure Exponent where
  mark : Char
  sign : Option Char
  digits : List Char
  mark_eq : mark = 'e' ∨ mark = 'E'
  sign_eq : ∀ c ∈ sign, c = '+' ∨ c = '-'
  isDigits : IsDigits digits

/-- A number as it is written. A leading zero stands alone. -/
structure NumberLiteral where
  negative : Bool
  whole : List Char
  fraction : Option (List Char)
  exponent : Option Exponent
  whole_isDigits : IsDigits whole
  whole_eq : whole.head? = some '0' → whole = ['0']
  fraction_isDigits : ∀ ds ∈ fraction, IsDigits ds

/-- The text of an exponent. -/
def Exponent.text (e : Exponent) : List Char := e.mark :: (e.sign.toList ++ e.digits)

/-- What stands behind the digits before the point. -/
def NumberLiteral.ending (n : NumberLiteral) : List Char :=
  (n.fraction.elim [] fun ds => '.' :: ds) ++ n.exponent.elim [] Exponent.text

/-- The text of a number. -/
def NumberLiteral.text (n : NumberLiteral) : List Char :=
  (if n.negative then ['-'] else []) ++ n.whole ++ n.ending

/-- The parts of a number that count. -/
def NumberLiteral.numeral (n : NumberLiteral) : Numeral :=
  ⟨n.negative, n.whole, n.fraction,
    n.exponent.map fun e => (decide (e.sign = some '-'), e.digits)⟩

/-! ## Tokens -/

/-- A value without parts. -/
inductive Scalar where
  | null
  | boolean (value : Bool)
  | number (n : NumberLiteral)
  | string (l : Literal)

/-- The text of a scalar. -/
def Scalar.text : Scalar → List Char
  | .null => ['n', 'u', 'l', 'l']
  | .boolean true => ['t', 'r', 'u', 'e']
  | .boolean false => ['f', 'a', 'l', 's', 'e']
  | .number n => n.text
  | .string l => '\"' :: l.body

/-- A sign around values. -/
inductive Mark where
  | openList
  | closeList
  | openObject
  | closeObject
  | comma
  | colon

/-- The character of a sign. -/
def Mark.char : Mark → Char
  | .openList => '['
  | .closeList => ']'
  | .openObject => '{'
  | .closeObject => '}'
  | .comma => ','
  | .colon => ':'

/-- A scalar or a sign. -/
inductive Token where
  | mark (m : Mark)
  | scalar (s : Scalar)

/-- The text of a token. -/
def Token.text : Token → List Char
  | .mark m => [m.char]
  | .scalar s => s.text

/-- White space. -/
def isSpace (c : Char) : Bool := c = ' ' || c = '\t' || c = '\n' || c = '\r'

/-- A text is a row of tokens with any white space before each of them and at the end. -/
def Laid : List Token → List Char → Prop
  | [], s => ∀ c ∈ s, isSpace c = true
  | tok :: toks, s =>
    ∃ blanks r, (∀ c ∈ blanks, isSpace c = true) ∧ s = blanks ++ (tok.text ++ r) ∧ Laid toks r

/-! ## Documents -/

/-- A document. -/
inductive Tree where
  | scalar (s : Scalar)
  | list (items : List Tree)
  | object (members : List (Literal × Tree))

/-- The items after the first, each behind a comma, and the closing sign. -/
def separated (close : Mark) : List (List Token) → List Token
  | [] => [.mark close]
  | toks :: rest => .mark .comma :: (toks ++ separated close rest)

/-- Items with commas between them, and the closing sign. -/
def enclosed (close : Mark) : List (List Token) → List Token
  | [] => [.mark close]
  | toks :: rest => toks ++ separated close rest

mutual

/-- The tokens of a document. -/
def Tree.tokens : Tree → List Token
  | .scalar s => [.scalar s]
  | .list ts => .mark .openList :: enclosed .closeList (itemTokens ts)
  | .object ms => .mark .openObject :: enclosed .closeObject (memberTokens ms)

/-- The tokens of each item. -/
def itemTokens : List Tree → List (List Token)
  | [] => []
  | t :: ts => t.tokens :: itemTokens ts

/-- The tokens of each member. -/
def memberTokens : List (Literal × Tree) → List (List Token)
  | [] => []
  | (key, t) :: ms =>
    (.scalar (.string key) :: .mark .colon :: t.tokens) :: memberTokens ms

end

/-- A source is a spelling of a document. -/
def Tree.Spells (t : Tree) (source : String) : Prop := Laid t.tokens source.toList

/-- What holds of scalars, and of lists and objects if it holds of the values in them, holds of
every document. -/
@[induction_eliminator]
theorem Tree.induct {P : Tree → Prop} (scalar : ∀ s, P (.scalar s))
    (list : ∀ ts : List Tree, (∀ t ∈ ts, P t) → P (.list ts))
    (object : ∀ ms : List (Literal × Tree), (∀ m ∈ ms, P m.2) → P (.object ms)) : ∀ t, P t
  | .scalar s => scalar s
  | .list ts => list ts fun t _ => Tree.induct scalar list object t
  | .object ms => object ms fun m hm =>
    have hvalue : sizeOf m.2 ≤ sizeOf m := by cases m; simp
    have : sizeOf m.2 < 1 + sizeOf ms :=
      Nat.lt_add_left 1 (Nat.lt_of_le_of_lt hvalue (List.sizeOf_lt_of_mem hm))
    Tree.induct scalar list object m.2
termination_by t => sizeOf t

/-! ## Lemmas -/

theorem itemTokens_eq_map (ts : List Tree) : itemTokens ts = ts.map Tree.tokens := by
  induction ts with
  | nil => rfl
  | cons t ts ih => rw [itemTokens, ih, List.map_cons]

theorem memberTokens_eq_map (ms : List (Literal × Tree)) :
    memberTokens ms =
      ms.map fun m => .scalar (.string m.1) :: .mark .colon :: m.2.tokens := by
  induction ms with
  | nil => rfl
  | cons m ms ih => rw [memberTokens, ih, List.map_cons]

theorem digit_ne {c d : Char} (hc : c.isDigit = true) (hd : d.isDigit = false) : c ≠ d := by
  rintro rfl
  exact Bool.noConfusion (hc.symm.trans hd)

theorem isSpace_eq_false {c : Char} (h : c.isDigit = true) : isSpace c = false := by
  have hne (d : Char) (hd : d.isDigit = false) : c ≠ d := digit_ne h hd
  simp [isSpace, hne ' ' rfl, hne '\t' rfl, hne '\n' rfl, hne '\r' rfl]

/-- A number starts with a minus sign or a digit. -/
theorem NumberLiteral.exists_text_eq (n : NumberLiteral) :
    ∃ c cs, n.text = c :: cs ∧ (c = '-' ∨ c.isDigit = true) := by
  obtain ⟨hne, hdigits⟩ := n.whole_isDigits
  obtain ⟨d, ds, hwhole⟩ := List.exists_cons_of_ne_nil hne
  rw [hwhole, List.forall_mem_cons] at hdigits
  unfold NumberLiteral.text
  rw [hwhole]
  cases n.negative with
  | false => exact ⟨d, _, rfl, Or.inr hdigits.1⟩
  | true => exact ⟨'-', _, rfl, Or.inl rfl⟩

/-- A token does not start with white space. -/
theorem Token.exists_text_eq (tok : Token) :
    ∃ c cs, tok.text = c :: cs ∧ isSpace c = false := by
  cases tok with
  | mark m => cases m <;> exact ⟨_, _, rfl, rfl⟩
  | scalar s =>
    cases s with
    | null => exact ⟨_, _, rfl, rfl⟩
    | boolean b => cases b <;> exact ⟨_, _, rfl, rfl⟩
    | string l => exact ⟨_, _, rfl, rfl⟩
    | number n =>
      obtain ⟨c, cs, h, rfl | hc⟩ := n.exists_text_eq
      · exact ⟨_, _, h, rfl⟩
      · exact ⟨_, _, h, isSpace_eq_false hc⟩

end ErSchema.Json
