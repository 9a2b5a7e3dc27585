import ScriptHost.Text.Outline

/-!
# Numbers

A number is a 64-bit binary floating-point value, kept as its bits. Nothing in this library
computes with numbers: they are stored, compared and written, so the bits are all there is.

* `Number` — the bits.
* `Number.sign`, `Number.exponent`, `Number.fraction` — the three fields.
* `Number.isNaN`, `Number.isInfinite`, `Number.isZero` — the special values.
* `Number.beq` — numeric equality: a NaN equals nothing, and the two zeros are equal.
* `Number.ofInt64` — the nearest number to an integer.
* `Number.Decimal`, `Number.shortest` — the fewest decimal digits that read back as a number.
* `Number.Neighborhood.onGrid?` — the point of a decimal grid that reads back, if there is one.
* `Number.display` — positional, however long; no decimal point for a whole number.
* `Number.inspect` — always a point or an exponent; very large and very small values take the
  exponent form.
-/

namespace ScriptHost

/-- A 64-bit binary floating-point value, by its bits. -/
structure Number where
  bits : UInt64
  deriving Repr, Inhabited

namespace Number

/-! ## Fields -/

/-- Whether the sign bit is set. -/
def sign (x : Number) : Bool := x.bits.toNat / Nat.pow 2 63 == 1

/-- The eleven bits of the biased exponent. -/
def exponent (x : Number) : Nat := x.bits.toNat / Nat.pow 2 52 % Nat.pow 2 11

/-- The fifty-two bits of the fraction. -/
def fraction (x : Number) : Nat := x.bits.toNat % Nat.pow 2 52

/-- The greatest biased exponent marks the infinities and the NaNs. -/
def specialExponent : Nat := Nat.pow 2 11 - 1

/-- A NaN has the special exponent and a fraction. -/
def isNaN (x : Number) : Bool := x.exponent == specialExponent && x.fraction != 0

/-- An infinity has the special exponent and no fraction. -/
def isInfinite (x : Number) : Bool := x.exponent == specialExponent && x.fraction == 0

/-- Both zeros: every bit but the sign is clear. -/
def isZero (x : Number) : Bool := x.bits.toNat % Nat.pow 2 63 == 0

/-! ## Equality -/

/-- Numeric equality. A NaN equals nothing, not even itself; a zero equals either zero; any
other value equals the same bits. -/
def beq (x y : Number) : Bool :=
  !x.isNaN && !y.isNaN && (x.bits == y.bits || (x.isZero && y.isZero))

instance : BEq Number := ⟨beq⟩

/-! ## Integers -/

/-- The number nearest to an integer, a tie going to the even one. -/
def ofInt64 (n : Int64) : Number := ⟨n.toFloat.toBits⟩

/-! ## Shortest decimals

A finite positive number is `m * 2 ^ q`. The reals that round to it form an interval around it,
which contains its ends exactly when `m` is even. A decimal grid of step `10 ^ k` hits the
interval if one of the two grid points around the number lies in it, so it is enough to try
those two, on finer and finer grids. -/

/-- The decimal `0.d₁d₂… * 10 ^ point`. The first digit is not zero. -/
structure Decimal where
  digits : List Nat
  point : Int
  deriving Repr, DecidableEq

/-- A positive number `m * 2 ^ q` and the interval of reals that round to it, in units of
`2 ^ (q - 2)`: the number is `4 * m`, the interval reaches `below` under it and 2 over it. -/
structure Neighborhood where
  significand : Nat
  power : Int
  below : Nat
  deriving Repr, DecidableEq

namespace Neighborhood

/-- The significand and power of two of a finite number, its sign aside. Where the significand
is the least normal one, the next number below is only half as far away. -/
def ofNumber (x : Number) : Neighborhood :=
  if x.exponent = 0 then ⟨x.fraction, -1074, 2⟩
  else ⟨Nat.pow 2 52 + x.fraction, (x.exponent : Int) - 1075, if x.fraction = 0 then 1 else 2⟩

/-- Numerator and denominator of `n * 2 ^ (power - 2) / 10 ^ k`. -/
def scaled (v : Neighborhood) (k : Int) (n : Nat) : Nat × Nat :=
  (n * Nat.pow 2 (v.power - 2).toNat * Nat.pow 10 (-k).toNat,
    Nat.pow 2 (2 - v.power).toNat * Nat.pow 10 k.toNat)

/-- Whether `s * 10 ^ k` lies in the interval. -/
def admits (v : Neighborhood) (k : Int) (s : Nat) : Bool :=
  let (low, den) := v.scaled k (4 * v.significand - v.below)
  let (high, _) := v.scaled k (4 * v.significand + 2)
  if v.significand % 2 = 0 then low ≤ s * den && s * den ≤ high
  else low < s * den && s * den < high

/-- The point of the grid of step `10 ^ k` that lies in the interval. Of two the nearer one is
taken, and the upper one if they are equally near. -/
def onGrid? (v : Neighborhood) (k : Int) : Option Nat :=
  let (num, den) := v.scaled k (4 * v.significand)
  let s := num / den
  match v.admits k s, v.admits k (s + 1) with
  | true, true => some (if 2 * (num % den) < den then s else s + 1)
  | true, false => some s
  | false, true => some (s + 1)
  | false, false => none

/-- Whether `10 ^ k` is at most the number. -/
def reaches (v : Neighborhood) (k : Int) : Bool :=
  let (num, den) := v.scaled k (4 * v.significand)
  den ≤ num

/-- The power of ten of the leading digit, searched upward for `n` steps from `k`. -/
def leadingFrom (v : Neighborhood) : Nat → Int → Int
  | 0, k => k
  | n + 1, k => if v.reaches (k + 1) then leadingFrom v n (k + 1) else k

/-- The power of ten of the leading digit. The search starts from an estimate by the length of
the significand that is never too high and at most three too low. -/
def leading (v : Neighborhood) : Int :=
  v.leadingFrom 4 (((v.significand.log2 : Int) + v.power) * 30103 / 100000 - 2)

/-- The first grid with a hit, trying `n` steps downward from `k`. -/
def search (v : Neighborhood) : Nat → Int → Nat × Int
  | 0, k => ((v.scaled k (4 * v.significand)).1 / (v.scaled k (4 * v.significand)).2, k)
  | n + 1, k =>
    match v.onGrid? k with
    | some s => (s, k)
    | none => v.search n (k - 1)

end Neighborhood

/-- The digits of a positive natural number, the most significant first, ahead of `tail`. -/
def digitsOnto (n : Nat) (tail : List Nat) : List Nat :=
  if h : n < 10 then n :: tail else digitsOnto (n / 10) (n % 10 :: tail)
termination_by n
decreasing_by omega

/-- The shortest decimal that reads back as the given finite number other than zero, its sign
aside. Seventeen digits always suffice. -/
def shortest (x : Number) : Decimal :=
  let v := Neighborhood.ofNumber x
  let (s, k) := v.search 17 v.leading
  let digits := digitsOnto s []
  ⟨(digits.reverse.dropWhile (· == 0)).reverse, digits.length + k⟩

/-! ## How numbers are written

Numbers are written in two ways, which share their digits: plainly, for people who read a
program's output, and in full, for people who look into a value. -/

/-- The text of a digit sequence. -/
def digitText (digits : List Nat) : String :=
  String.ofList (digits.map Nat.digitChar)

/-- The choices of one way of writing numbers. -/
structure Style where
  /-- Positions of the decimal point for which the exponent form is used. -/
  exponential : Int → Bool
  /-- Whether a whole number in positional form ends in `.0`. -/
  marksWhole : Bool

namespace Style

/-- Output for people: always positional, nothing marks a whole number. -/
def plain : Style := ⟨fun _ => false, false⟩

/-- Inspection: the exponent form from `10 ^ 16` upward and below `10 ^ -4`, and whole numbers
end in `.0`. -/
def full : Style := ⟨fun point => 16 < point || point < -3, true⟩

end Style

namespace Decimal

/-- Positional form. -/
def positional (style : Style) (d : Decimal) : String :=
  let whole := if style.marksWhole then ".0" else ""
  if d.point ≤ 0 then
    "0." ++ digitText (List.replicate (-d.point).toNat 0 ++ d.digits)
  else if d.digits.length ≤ d.point.toNat then
    digitText (d.digits ++ List.replicate (d.point.toNat - d.digits.length) 0) ++ whole
  else
    digitText (d.digits.take d.point.toNat) ++ "." ++ digitText (d.digits.drop d.point.toNat)

/-- Exponent form: one digit before the point, the point only if digits follow it. -/
def exponentForm (d : Decimal) : String :=
  let tail := d.digits.drop 1
  digitText (d.digits.take 1) ++ (if tail.isEmpty then "" else "." ++ digitText tail)
    ++ "e" ++ toString (d.point - 1)

/-- The form that the style chooses. -/
def render (style : Style) (d : Decimal) : String :=
  if style.exponential d.point then d.exponentForm else d.positional style

end Decimal

/-- A number in the given style. The sign of a zero is written, that of a NaN is not. -/
def render (style : Style) (x : Number) : String :=
  if x.isNaN then "NaN"
  else
    let sign := if x.sign then "-" else ""
    if x.isInfinite then sign ++ "inf"
    else if x.isZero then sign ++ (if style.marksWhole then "0.0" else "0")
    else sign ++ x.shortest.render style

/-- The number as program output shows it. -/
def display (x : Number) : String := x.render .plain

/-- The number as an inspection shows it. -/
def inspect (x : Number) : String := x.render .full

instance : Text.Display Number := ⟨display⟩
instance : Text.Inspect Number := ⟨fun x => .atom x.inspect⟩

end Number

end ScriptHost
