import ErSchema.Json.Reader

/-!
# Reading JSON numbers

A numeral has digits before the point, perhaps digits behind it, and perhaps an exponent. Its value
is an integer where it has neither point nor exponent and fits 64 bits. Otherwise it is a float: the
leading digits, as many as stay below 2 ^ 64, make a significand, the digits that are left out
before the point raise the exponent, and the significand is scaled by that power of ten.

* `absorb_lt`: a significand stays below its limit.
-/

namespace ErSchema.Json

open Reader

/-- A number as it is written. The digits before the point are never empty, and those behind it and
in the exponent are not empty where they are given. -/
structure Numeral where
  negative : Bool
  whole : List Char
  fraction : Option (List Char)
  exponent : Option (Bool × List Char)
  deriving DecidableEq, Repr

/-! ## Reading -/

/-- The digit behind a minus sign. A text that ends here stops with the cause `atEnd`. -/
def leadDigit (atEnd : Cause) : Reader Char := do
  match ← peek with
  | none => fail atEnd 0
  | some d =>
    if d.isDigit then
      advance
      pure d
    else
      fail .invalidNumber 1

/-- The digits before the point, of which `lead` has been passed. A leading zero stands alone. -/
def wholeFrom (lead : Char) : Reader (List Char) := do
  if lead = '0' then
    match ← peek with
    | some d => if d.isDigit then fail .invalidNumber 1 else pure [lead]
    | none => pure [lead]
  else
    let digits ← takeWhile Char.isDigit
    pure (lead :: digits)

/-- The digits behind a point or in an exponent, of which there is at least one. -/
def someDigits (atEnd : Cause) : Reader (List Char) := do
  let digits ← takeWhile Char.isDigit
  if digits.isEmpty then
    match ← peek with
    | none => fail atEnd 0
    | some _ => fail .invalidNumber 1
  else
    pure digits

/-- The point and the digits behind it, if there is a point. -/
def fraction? (atEnd : Cause) : Reader (Option (List Char)) := do
  if (← peek) = some '.' then
    advance
    let digits ← someDigits atEnd
    pure (some digits)
  else
    pure none

/-- The sign of an exponent: whether it is negative. -/
def exponentSign : Reader Bool := do
  match ← peek with
  | some '-' =>
    advance
    pure true
  | some '+' =>
    advance
    pure false
  | _ => pure false

/-- The exponent, if there is one. -/
def exponent? (atEnd : Cause) : Reader (Option (Bool × List Char)) := do
  let mark ← peek
  if mark = some 'e' ∨ mark = some 'E' then
    advance
    let negative ← exponentSign
    let digits ← someDigits atEnd
    pure (some (negative, digits))
  else
    pure none

/-- A numeral of which the first character, a digit or a minus sign, has been passed. -/
def numeralFrom (first : Char) (atEnd : Cause) : Reader Numeral := do
  let negative := first = '-'
  let lead ← if negative then leadDigit atEnd else pure first
  let whole ← wholeFrom lead
  let fraction ← fraction? atEnd
  let exponent ← exponent? atEnd
  pure ⟨negative, whole, fraction, exponent⟩

/-! ## Values -/

/-- Appends digits to `n` for as long as the result stays below `limit`; the other digits are
left. -/
def absorb (limit n : Nat) : List Char → Nat × List Char
  | [] => (n, [])
  | d :: ds =>
    let next := 10 * n + (d.toNat - '0'.toNat)
    if next < limit then absorb limit next ds else (n, d :: ds)

/-- The float next to `10 ^ n`. -/
def powerOfTen (n : Nat) : Float := Float.ofScientific 1 false n

/-- The significand scaled by a power of ten, unless that is infinite. A significand of 64 bits
vanishes below `10 ^ -616`; between that and `10 ^ -308` it is scaled in two steps. -/
def scale? (significand : Nat) (exponent : Int) : Option Float :=
  let f := significand.toUInt64.toFloat
  if 0 ≤ exponent then
    if significand = 0 then some f
    else if 308 < exponent then none
    else
      let x := f * powerOfTen exponent.toNat
      if x.isInf then none else some x
  else if -308 ≤ exponent then some (f / powerOfTen (-exponent).toNat)
  else if -616 ≤ exponent then some (f / powerOfTen 308 / powerOfTen (-exponent - 308).toNat)
  else some 0.0

/-- The value of a numeral. One that is too great for a float is refused together with the digits of
its exponent that no longer count. -/
def Numeral.value (n : Numeral) : Except (List Char) Number :=
  let (front, dropped) := absorb (Nat.pow 2 64) 0 n.whole
  let signed (x : Float) : Number := .floating (if n.negative then -x else x)
  let finish (significand : Nat) (exponent : Int) : Except (List Char) Number :=
    match scale? significand exponent with
    | some x => .ok (signed x)
    | none => .error []
  if n.fraction.isNone && n.exponent.isNone && dropped.isEmpty then
    if !n.negative then .ok (.integer front)
    else if 0 < front ∧ front ≤ Nat.pow 2 63 then .ok (.integer (-front))
    else .ok (signed front.toUInt64.toFloat)
  else
    let behind := n.fraction.getD []
    let (significand, ignored) := absorb (Nat.pow 2 64) front behind
    let shift : Int := dropped.length - (behind.length - ignored.length : Nat)
    match n.exponent with
    | none => finish significand shift
    | some (negative, digits) =>
      match absorb (Nat.pow 2 31) 0 digits with
      | (e, []) => finish significand (if negative then shift - e else shift + e)
      | (_, _ :: unread) =>
        if significand ≠ 0 ∧ !negative then .error unread else .ok (signed 0.0)

/-- A number of which the first character has been passed. -/
def numberFrom (first : Char) : Reader Number := do
  let n ← numeralFrom first .endInValue
  match n.value with
  | .ok v => pure v
  | .error unread => failBefore .numberOutOfRange unread

/-- Passes a number of any size, of which the first character has been passed. -/
def skipNumberFrom (first : Char) : Reader Unit := do
  let _ ← numeralFrom first .invalidNumber
  pure ()

/-! ## Lemmas -/

theorem absorb_lt {limit n m : Nat} {digits rest : List Char} (hn : n < limit)
    (h : absorb limit n digits = (m, rest)) : m < limit := by
  induction digits generalizing n with
  | nil => simp_all [absorb]
  | cons d ds ih =>
    simp only [absorb] at h
    split at h
    · exact ih ‹_› h
    · cases h; exact hn

end ErSchema.Json
