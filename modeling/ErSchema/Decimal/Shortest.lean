/-!
# The shortest decimal of a floating-point number

A finite binary64 number stands for the whole interval of reals that round to it. Its shortest
decimal is the point of the coarsest grid of multiples of a power of ten that has a point in that
interval; of two such points the nearer is taken, and of two equally near ones the even.

All of it is exact arithmetic on natural numbers. `Layout` says how the chosen decimal is written.

* `accepts_of_shortest?`: the decimal that is found rounds to the number.
-/

namespace ErSchema

/-- The decimal `digits * 10 ^ exponent`. -/
structure Decimal where
  digits : Nat
  exponent : Int
  deriving DecidableEq, Repr

namespace Decimal

/-- A positive binary64 number `4 * mantissa * 2 ^ scale`, with the ends of the interval that rounds
to it at the distances `below` and `2` from `4 * mantissa`. The ends belong to the interval when
the mantissa is even. -/
structure Binary where
  mantissa : Nat
  scale : Int
  below : Nat
  deriving DecidableEq, Repr

/-- The magnitude of a float as mantissa and scale. Under a power of two the floats are twice as
dense, so there the lower end is nearer. -/
def Binary.ofFloat (x : Float) : Binary :=
  let bits := x.toBits.toNat
  let exponent : Nat := bits / Nat.pow 2 52 % Nat.pow 2 11
  let fraction := bits % Nat.pow 2 52
  if exponent = 0 then ⟨fraction, -1076, 2⟩
  else
    let below := if fraction = 0 ∧ 1 < exponent then 1 else 2
    ⟨fraction + Nat.pow 2 52, (exponent : Int) - 1077, below⟩

/-- Whether a float carries the sign bit. -/
def isNegative (x : Float) : Bool := Nat.pow 2 63 ≤ x.toBits.toNat

/-- The factor of `d` when `d * 10 ^ k` is compared with `n * 2 ^ b.scale` over whole numbers. -/
def Binary.decimalFactor (b : Binary) (k : Int) : Nat :=
  Nat.pow 10 k.toNat * Nat.pow 2 (-b.scale).toNat

/-- The factor of `n` in that comparison. -/
def Binary.binaryFactor (b : Binary) (k : Int) : Nat :=
  Nat.pow 2 b.scale.toNat * Nat.pow 10 (-k).toNat

/-- Whether `d * 10 ^ k` rounds to `b`. -/
def Binary.accepts (b : Binary) (k : Int) (d : Nat) : Bool :=
  let point := d * b.decimalFactor k
  let low := (4 * b.mantissa - b.below) * b.binaryFactor k
  let high := (4 * b.mantissa + 2) * b.binaryFactor k
  if b.mantissa % 2 = 0 then low ≤ point && point ≤ high else low < point && point < high

/-- The best of the two neighbours of `b` on the grid of multiples of `10 ^ k`, if one rounds to
`b`. -/
def Binary.onGrid? (b : Binary) (k : Int) : Option Decimal :=
  let value := 4 * b.mantissa * b.binaryFactor k
  let unit := b.decimalFactor k
  let low := value / unit
  let rest := value % unit
  match b.accepts k low, b.accepts k (low + 1) with
  | false, false => none
  | true, false => some ⟨low, k⟩
  | false, true => some ⟨low + 1, k⟩
  | true, true =>
    if 2 * rest < unit || (2 * rest = unit && low % 2 = 0) then some ⟨low, k⟩
    else some ⟨low + 1, k⟩

/-- The shortest decimal of a positive number; the grids go from `10 ^ 309`, above every finite
float, down to `10 ^ -324`, below the least one. -/
def Binary.shortest? (b : Binary) : Option Decimal :=
  if b.mantissa = 0 then none
  else (List.range 634).findSome? fun (i : Nat) => b.onGrid? (309 - (i : Int))

/-- How a decimal is written: without an exponent as long as the exponent of its first digit is at
least `plainFrom` and below `plainBelow`. -/
structure Layout where
  plainFrom : Int
  plainBelow : Int
  deriving DecidableEq, Repr

/-- A decimal in its layout. Without an exponent it has a digit on both sides of the point; with
one the exponent has its sign. -/
def text (layout : Layout) (d : Decimal) : String :=
  let digits := Nat.toDigits 10 d.digits
  let lead : Int := d.exponent + digits.length - 1
  if layout.plainFrom ≤ lead ∧ lead < layout.plainBelow then
    if 0 ≤ d.exponent then
      String.ofList (digits ++ List.replicate d.exponent.toNat '0') ++ ".0"
    else if 0 ≤ lead then
      String.ofList (digits.take (lead.toNat + 1)) ++ "."
        ++ String.ofList (digits.drop (lead.toNat + 1))
    else
      "0." ++ String.ofList (List.replicate (-lead - 1).toNat '0' ++ digits)
  else
    let tail := digits.drop 1
    String.ofList (digits.take 1) ++ (if tail.isEmpty then "" else "." ++ String.ofList tail)
      ++ "e" ++ (if lead < 0 then "-" else "+") ++ toString lead.natAbs

/-- The text of a finite float: its shortest decimal, or zero, after the sign. -/
def floatText (layout : Layout) (x : Float) : String :=
  let magnitude :=
    match (Binary.ofFloat x).shortest? with
    | some d => d.text layout
    | none => "0.0"
  if isNegative x then "-" ++ magnitude else magnitude

/-! ## Lemmas -/

theorem accepts_of_onGrid? {b : Binary} {k : Int} {d : Decimal} (h : b.onGrid? k = some d) :
    b.accepts d.exponent d.digits = true := by
  unfold Binary.onGrid? at h
  simp only at h
  split at h
  · contradiction
  · cases h; assumption
  · cases h; assumption
  · split at h <;> cases h <;> assumption

theorem accepts_of_shortest? {b : Binary} {d : Decimal} (h : b.shortest? = some d) :
    b.accepts d.exponent d.digits = true := by
  unfold Binary.shortest? at h
  split at h
  · contradiction
  obtain ⟨i, -, hi⟩ := List.exists_of_findSome?_eq_some h
  exact accepts_of_onGrid? hi

end Decimal

end ErSchema
