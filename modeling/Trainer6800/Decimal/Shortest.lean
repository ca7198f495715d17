/-!
# Shortest decimal text of a binary fraction

A 64-bit binary floating-point number is a sign, a significand `m` and an exponent `q` with value
`m · 2^q`.  All reals in an interval around it round to it; the ends belong to the interval when the
significand is even.  `shortest` gives the decimal `d · 10^k` with the fewest digits in that
interval, and the nearest to the value of those; of two that are equally near, the one whose last
digit is even.  For one digit, two digits, and so on, it looks at the two neighbours of the value on
the grid of decimals with that many digits, in exact arithmetic.
-/

namespace Trainer6800.Decimal

/-- A finite number `significand · 2^exponent` with a sign.  `atBoundary` says that the distance to
the next smaller number is half the distance to the next larger one. -/
structure Binary where
  negative : Bool
  significand : Nat
  exponent : Int
  atBoundary : Bool
  deriving DecidableEq, Repr

/-- The number with the given bits: one sign bit, eleven exponent bits, 52 fraction bits. -/
def Binary.ofBits (bits : UInt64) : Binary :=
  let n := bits.toNat
  let fraction : Nat := n % 0x10000000000000
  let biased : Nat := n / 0x10000000000000 % 0x800
  if biased = 0 then ⟨n / 0x8000000000000000 = 1, fraction, -1074, false⟩
  else ⟨n / 0x8000000000000000 = 1, 0x10000000000000 + fraction, (biased : Int) - 1075, fraction = 0 ∧ 1 < biased⟩

/-- A decimal number `digits · 10^exponent`. -/
structure Scientific where
  digits : Nat
  exponent : Int
  deriving DecidableEq, Repr

/-- The fraction `numerator / denominator` as a multiple of `10^k`, rounded down. -/
private def floorOnGrid (numerator denominator : Nat) (k : Int) : Nat :=
  if 0 ≤ k then numerator / (denominator * Nat.pow 10 k.toNat)
  else numerator * Nat.pow 10 (-k).toNat / denominator

/-- `d · 10^k` as a fraction with the given denominator, times `10^(-k)` when `k` is negative:
the pair of numbers to compare with a numerator over the same denominator. -/
private def onGrid (d denominator : Nat) (k : Int) : Nat × Nat :=
  if 0 ≤ k then (d * Nat.pow 10 k.toNat * denominator, 1) else (d * denominator, Nat.pow 10 (-k).toNat)

/-- The number of decimal digits. -/
def digitCount (n : Nat) : Nat :=
  (Nat.toDigits 10 n).length

/-- The exponent `e` with `10^e ≤ numerator / denominator < 10^(e+1)`, searched upwards from a
lower bound. -/
private def magnitude (numerator denominator : Nat) : Nat → Int → Int
  | 0, e => e
  | fuel + 1, e =>
    let (next, scale) := onGrid 1 denominator (e + 1)
    if next ≤ numerator * scale then magnitude numerator denominator fuel (e + 1) else e

/-- The shortest decimal that rounds to a positive number. -/
def shortest (b : Binary) : Scientific :=
  -- four times the value, so that the ends of the interval are whole multiples
  let q := b.exponent - 2
  let up := if 0 ≤ q then Nat.pow 2 q.toNat else 1
  let denominator := if 0 ≤ q then 1 else Nat.pow 2 (-q).toNat
  let value := 4 * b.significand * up
  let low := (4 * b.significand - if b.atBoundary then 1 else 2) * up
  let high := (4 * b.significand + 2) * up
  let even := b.significand % 2 = 0
  let inside (d : Nat) (k : Int) : Bool :=
    let (n, scale) := onGrid d denominator k
    if even then low * scale ≤ n && n ≤ high * scale else low * scale < n && n < high * scale
  -- more digits make a finer grid; the first grid with a point inside has the fewest digits
  let e := magnitude value denominator 700 (-330)
  let candidate? (count : Nat) : Option Scientific :=
    let k := e - count + 1
    let d := floorOnGrid value denominator k
    let (below, scale) := onGrid d denominator k
    let (above, _) := onGrid (d + 1) denominator k
    -- twice the value against the sum of its neighbours: below the middle, or in it
    let takesLower := 2 * (value * scale) < below + above ∨
      (2 * (value * scale) = below + above ∧ d % 2 = 0)
    match inside d k, inside (d + 1) k with
    | true, true => some ⟨if takesLower then d else d + 1, k⟩
    | true, false => some ⟨d, k⟩
    | false, true => some ⟨d + 1, k⟩
    | false, false => none
  ((List.range 17).findSome? fun i => candidate? (i + 1)).getD ⟨floorOnGrid value denominator (e - 16), e - 16⟩

/-- Zero digits. -/
private def zeros (n : Nat) : String :=
  String.ofList (List.replicate n '0')

/-- The text of a positive decimal: positional for values from `0.00001` up to `10^16`, with at
least one digit after the point, and scientific (`1e+30`, `1.5e-7`) beyond.  The exponent of the
scientific form always has a sign. -/
def Scientific.text (d : Scientific) : String :=
  let digits := Nat.repr d.digits
  let length : Int := digits.length
  let point := length + d.exponent
  if 0 ≤ d.exponent ∧ point ≤ 16 then digits ++ zeros d.exponent.toNat ++ ".0"
  else if 0 < point ∧ point ≤ 16 then
    String.ofList (digits.toList.take point.toNat) ++ "." ++
      String.ofList (digits.toList.drop point.toNat)
  else if -5 < point ∧ point ≤ 0 then "0." ++ zeros (-point).toNat ++ digits
  else
    let fraction := digits.toList.drop 1
    String.ofList (digits.toList.take 1) ++
      (if fraction.isEmpty then "" else "." ++ String.ofList fraction) ++
      (if point < 1 then "e-" else "e+") ++ Nat.repr (point - 1).natAbs

/-- A decimal without zeros at the end of its digits. -/
def Scientific.trim (d : Scientific) : Nat → Scientific
  | 0 => d
  | fuel + 1 =>
    if d.digits % 10 = 0 ∧ d.digits ≠ 0 then trim ⟨d.digits / 10, d.exponent + 1⟩ fuel else d

/-- The shortest text that reads back as the number with the given bits. -/
def floatText (bits : UInt64) : String :=
  let b := Binary.ofBits bits
  let sign := if b.negative then "-" else ""
  if b.significand = 0 then sign ++ "0.0" else sign ++ ((shortest b).trim 20).text

end Trainer6800.Decimal
