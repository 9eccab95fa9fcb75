/-!
# The shortest decimal of a binary number

A floating-point number is written with the fewest digits that read back as the
same number, and of the decimals with that many digits the nearest one is taken.

The number is taken apart into `m * 2 ^ q`, and the reals that round to it form an
interval around it whose ends belong to it exactly when `m` is even. For one
digit, two digits and so on, the two neighbours of the number on the decimal grid
with that many digits are tested against the interval in exact arithmetic. If any
point of a grid lies in the interval then so does one of these two, so the first
grid with a hit has the fewest digits.
-/

namespace SignatureSnippets

/-- A positive decimal number, `digits * 10 ^ exponent`. -/
structure Decimal where
  digits : Nat
  exponent : Int
  deriving DecidableEq, Repr

namespace Decimal

/-- The number of decimal digits of a natural number; zero has one. -/
def digitCount (n : Nat) : Nat :=
  (Nat.toDigits 10 n).length

/-- Moves trailing zeros of the digits into the exponent, `fuel` of them at most. -/
def trim : (fuel : Nat) → Decimal → Decimal
  | 0, d => d
  | fuel + 1, d =>
    if d.digits % 10 = 0 then trim fuel ⟨d.digits / 10, d.exponent + 1⟩ else d

/-- A positive binary number `m * 2 ^ q`, with the interval of reals that round to
it. `narrow` says that the neighbour below is only half as far as the one above,
which is so at a power of two. -/
structure Binary where
  m : Nat
  q : Int
  narrow : Bool

namespace Binary

/-- The value times four, as a natural number over `denominator`. -/
def numerator (b : Binary) : Nat :=
  4 * b.m * Nat.pow 2 b.q.toNat

/-- See `numerator`. -/
def denominator (b : Binary) : Nat :=
  4 * Nat.pow 2 (-b.q).toNat

/-- The distance from the value down to the end of its interval. -/
def gapBelow (b : Binary) : Nat :=
  (if b.narrow then 1 else 2) * Nat.pow 2 b.q.toNat

/-- The distance from the value up to the end of its interval. -/
def gapAbove (b : Binary) : Nat :=
  2 * Nat.pow 2 b.q.toNat

/-- Whether `scaled`, a number over `denominator * unit`, rounds to the value. -/
def covers (b : Binary) (unit scaled : Nat) : Bool :=
  let low := (b.numerator - b.gapBelow) * unit
  let high := (b.numerator + b.gapAbove) * unit
  if b.m % 2 = 0 then low ≤ scaled && scaled ≤ high else low < scaled && scaled < high

/-- The exponent of the leading decimal digit. -/
def leading (b : Binary) : Int :=
  if b.denominator ≤ b.numerator then
    Int.ofNat (digitCount (b.numerator / b.denominator) - 1)
  else
    let places := digitCount (b.denominator / b.numerator)
    if b.denominator ≤ b.numerator * Nat.pow 10 (places - 1) then 1 - Int.ofNat places
    else -Int.ofNat places

/-- The nearest decimal on the grid of `count` digits that rounds to the value, if
either of the value's neighbours on the grid does; an exact tie goes to the even
digit. -/
def onGrid? (b : Binary) (count : Nat) : Option Decimal :=
  let exponent := b.leading + 1 - Int.ofNat count
  let unit := Nat.pow 10 (-exponent).toNat
  let weight := b.denominator * Nat.pow 10 exponent.toNat
  let value := b.numerator * unit
  let below := value / weight
  let above := below + 1
  let hitsBelow := b.covers unit (below * weight)
  let hitsAbove := b.covers unit (above * weight)
  let toBelow := value - below * weight
  let toAbove := above * weight - value
  let nearerBelow := toBelow < toAbove || (toBelow = toAbove && below % 2 = 0)
  if hitsBelow && (nearerBelow || !hitsAbove) then some ⟨below, exponent⟩
  else if hitsAbove then some ⟨above, exponent⟩
  else none

/-- The shortest decimal that reads back as the value. Seventeen digits always
suffice for a number of 53 bits. -/
def shortest (b : Binary) : Decimal :=
  trim 20 (((List.range 17).findSome? fun count => b.onGrid? (count + 1)).getD ⟨b.m, b.q⟩)

end Binary

/-- A finite, nonzero floating-point number without its sign, taken apart into its
mantissa and exponent. -/
def Binary.ofFloat (x : Float) : Binary :=
  let bits := x.toBits.toNat
  let fraction := bits % Nat.pow 2 52
  let biased := bits / Nat.pow 2 52 % Nat.pow 2 11
  if biased = 0 then ⟨fraction, -1074, false⟩
  else ⟨Nat.pow 2 52 + fraction, Int.ofNat biased - 1075, fraction = 0 && 1 < biased⟩

/-- A decimal is written out in place when its leading digit stands for at least
`10 ^ -4` and less than `10 ^ 16`, and with an exponent of two digits or more
otherwise. A number written out in place always shows a fraction. -/
def text (d : Decimal) : String :=
  let digits := Nat.toDigits 10 d.digits
  let leading := d.exponent + Int.ofNat digits.length - 1
  if -4 ≤ leading && leading < 16 then
    if 0 ≤ d.exponent then
      String.ofList (digits ++ List.replicate d.exponent.toNat '0') ++ ".0"
    else
      let places := (-d.exponent).toNat
      let padded := List.replicate (places + 1 - digits.length) '0' ++ digits
      String.ofList (padded.take (padded.length - places)) ++ "." ++
        String.ofList (padded.drop (padded.length - places))
  else
    let exponent := Nat.toDigits 10 leading.natAbs
    String.ofList (digits.take 1) ++
      (if digits.length = 1 then "" else "." ++ String.ofList (digits.drop 1)) ++
      (if leading < 0 then "e-" else "e+") ++
      (if exponent.length = 1 then "0" else "") ++ String.ofList exponent

end Decimal

/-- The text of a finite floating-point number: the shortest decimal that reads
back, with a minus sign in front of negative numbers and of negative zero. -/
def finiteFloatText (x : Float) : String :=
  let sign := if x.toBits.toNat / Nat.pow 2 63 = 1 then "-" else ""
  if x == 0.0 then sign ++ "0.0" else sign ++ (Decimal.Binary.ofFloat x).shortest.text

end SignatureSnippets
