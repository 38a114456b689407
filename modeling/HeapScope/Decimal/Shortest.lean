import HeapScope.Text.Numeral

/-!
# Shortest decimals

A binary floating-point number is written with the fewest decimal digits that read back to it. The
numbers that read back to `m * 2^q` form an interval that reaches halfway to its two neighbours,
ends included when `m` is even. For one digit, two digits and so on the two points of that decimal
grid next to the number are tested; the first grid with a hit wins, of two hits the nearer one, and
of two that are equally near the upper one.

The digits are laid out positionally, never with an exponent, and a whole number has no point.
-/

namespace HeapScope.Decimal

/-- The widths of a binary format: the bits of the fraction and of the exponent. -/
structure BinaryFormat where
  fractionBits : Nat
  exponentBits : Nat
deriving DecidableEq, Repr

/-- The 32-bit format. -/
def BinaryFormat.single : BinaryFormat := ⟨23, 8⟩

/-- The 64-bit format. -/
def BinaryFormat.double : BinaryFormat := ⟨52, 11⟩

/-- A finite non-negative number `m * 2^q`. The gap to the number below is half the gap to the
number above when `narrowBelow`. -/
structure Binary where
  m : Nat
  q : Int
  narrowBelow : Bool
deriving DecidableEq, Repr

/-- What the bits of a format stand for. -/
inductive Reading where
  | notANumber
  | infinite (negative : Bool)
  | finite (negative : Bool) (value : Binary)
deriving DecidableEq, Repr

/-- Reads the bits of a format. -/
def BinaryFormat.read (f : BinaryFormat) (bits : Nat) : Reading :=
  let fraction := bits % Nat.pow 2 f.fractionBits
  let exponent := bits / Nat.pow 2 f.fractionBits % Nat.pow 2 f.exponentBits
  let negative := bits / Nat.pow 2 (f.fractionBits + f.exponentBits) % 2 == 1
  let bias : Int := Nat.pow 2 (f.exponentBits - 1) - 1 + f.fractionBits
  if exponent = Nat.pow 2 f.exponentBits - 1 then
    if fraction = 0 then .infinite negative else .notANumber
  else if exponent = 0 then .finite negative ⟨fraction, 1 - bias, false⟩
  else .finite negative
    ⟨Nat.pow 2 f.fractionBits + fraction, exponent - bias, fraction == 0 && exponent > 1⟩

/-- A decimal `digits * 10^exponent`. -/
structure Dec where
  digits : Nat
  exponent : Int
deriving DecidableEq, Repr

/-- Compares `a * 10^i` with `n * 2^j` exactly. -/
def compareScaled (a : Nat) (i : Int) (n : Nat) (j : Int) : Ordering :=
  compare (a * Nat.pow 10 i.toNat * Nat.pow 2 (-j).toNat)
    (n * Nat.pow 2 j.toNat * Nat.pow 10 (-i).toNat)

/-- Whether a decimal lies among the numbers that read back to `x`. -/
def Binary.readsBack (x : Binary) (d : Dec) : Bool :=
  let low := compareScaled d.digits d.exponent
    (if x.narrowBelow then 4 * x.m - 1 else 4 * x.m - 2) (x.q - 2)
  let high := compareScaled d.digits d.exponent (4 * x.m + 2) (x.q - 2)
  let ends := x.m % 2 == 0
  (low == .gt || (ends && low == .eq)) && (high == .lt || (ends && high == .eq))

/-- The greatest multiple of `10^e` that is at most `x`, as a count of those units. -/
def Binary.floorAt (x : Binary) (e : Int) : Nat :=
  (x.m * Nat.pow 2 x.q.toNat * Nat.pow 10 (-e).toNat) /
    (Nat.pow 2 (-x.q).toNat * Nat.pow 10 e.toNat)

/-- The number of decimal digits before the point, negative for a number below one tenth, for a
number that is not zero: the least `k` with `x < 10^k`. -/
def Binary.magnitude (x : Binary) : Int :=
  let num := x.m * Nat.pow 2 x.q.toNat
  let den := Nat.pow 2 (-x.q).toNat
  if den ≤ num then (digitCount (num / den) : Int)
  else 1 - (digitCount ((den - 1) / num) : Int)
where
  /-- The number of decimal digits of a number. -/
  digitCount (n : Nat) : Nat := (Text.writeDigits 10 n).length

/-- The point of the grid of `10^e` nearest to `x` that reads back to it. -/
def Binary.onGrid (x : Binary) (e : Int) : Option Dec :=
  let n := x.floorAt e
  let below : Dec := ⟨n, e⟩
  let above : Dec := ⟨n + 1, e⟩
  match x.readsBack below, x.readsBack above with
  | false, false => none
  | true, false => some below
  | false, true => some above
  | true, true =>
    if compareScaled (2 * n + 1) e (2 * x.m) x.q == .gt then some below else some above

/-- The exact decimal value of a number. -/
def Binary.exact (x : Binary) : Dec :=
  if x.q < 0 then ⟨x.m * Nat.pow 5 x.q.natAbs, x.q⟩ else ⟨x.m * Nat.pow 2 x.q.toNat, 0⟩

/-- The shortest decimal that reads back to a number other than zero. -/
def Binary.shortest (x : Binary) : Dec :=
  ((List.range 17).findSome? fun i : Nat => x.onGrid (x.magnitude - (i + 1 : Nat))).getD x.exact

/-- Writes a decimal positionally, without trailing zeros behind the point. -/
def Dec.positional (d : Dec) : List Char :=
  let ds := Text.writeDigits 10 d.digits
  if 0 ≤ d.exponent then ds ++ List.replicate d.exponent.toNat '0'
  else
    let places := d.exponent.natAbs
    let padded := List.replicate (places + 1 - ds.length) '0' ++ ds
    let fraction := ((padded.drop (padded.length - places)).reverse.dropWhile (· = '0')).reverse
    let whole := padded.take (padded.length - places)
    if fraction.isEmpty then whole else whole ++ '.' :: fraction

/-- The text of the number that the bits of a format stand for. -/
def BinaryFormat.text (f : BinaryFormat) (bits : Nat) : String :=
  match f.read bits with
  | .notANumber => "NaN"
  | .infinite negative => if negative then "-inf" else "inf"
  | .finite negative x =>
    let digits := if x.m = 0 then ['0'] else x.shortest.positional
    String.ofList (if negative then '-' :: digits else digits)

end HeapScope.Decimal
