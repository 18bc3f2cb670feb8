import FieldSchema.Number.Binary64

/-!
# Decimal Text of Doubles

Doubles written in decimal, and decimals read as doubles.

A double is written with the fewest digits that read back as the same double,
and of those the ones nearest to its value. To find them, the value is looked
at on coarser and finer decimal grids: on the grid of one significant digit,
of two, and so on, only the two points around the value can lie in the
interval of numbers that round to it, because any other point is farther
away. The first grid with a hit wins. Seventeen digits always suffice.

Where the digits go is a decision of the format alone and is made in
`Layout`: which magnitudes are written positionally, and that a whole number
keeps one digit after the point.

## Main definitions

* `Digits`: Significant digits with a decimal exponent.
* `shortest`: The fewest digits that read back as the value.
* `Binary64.text`: The written form of a double.
* `Binary64.ofText?`: The double that a decimal text denotes, rounded.
-/

namespace FieldSchema

namespace Decimal

/-- Significant digits `d₀d₁d₂…` for the number `d₀.d₁d₂… * 10 ^ exponent`. -/
structure Digits where
  digits : List Char
  exponent : Int

/-- The numerator and denominator of `num / den / 10 ^ p`. -/
def scaleBy (num den : Nat) (p : Int) : Nat × Nat :=
  if p < 0 then (num * Nat.pow 10 (-p).toNat, den) else (num, den * Nat.pow 10 p.toNat)

/-- The exponent of the leading decimal digit of a positive quotient. -/
def leadingExponent (num den : Nat) : Int :=
  let guess := (((num.log2 : Int) - den.log2) * 1233) / 4096 - 1
  let fits (k : Int) : Bool :=
    let scaled := scaleBy num den (k + 1)
    scaled.1 < scaled.2
  (([0, 1, 2].map fun i => guess + i).find? fits).getD (guess + 3)

/-- A quotient lies between two bounds, which belong to the interval if it is closed. -/
structure Interval where
  lowNum : Nat
  highNum : Nat
  den : Nat
  closed : Bool

/-- The quotient lies in the interval. -/
def Interval.contains (i : Interval) (num den : Nat) : Bool :=
  let low := i.lowNum * den
  let high := i.highNum * den
  let x := num * i.den
  if i.closed then low ≤ x && x ≤ high else low < x && x < high

/--
The numbers that round to `m * 2 ^ e`, as multiples of a quarter of `2 ^ e`. Below a power of two
the doubles lie twice as close, so the lower half of the interval is half as wide there.
-/
def roundingInterval (m : Nat) (e : Int) : Interval :=
  let low := if m = Binary64.leastFull && Binary64.minExponent < e then 4 * m - 1 else 4 * m - 2
  let high := 4 * m + 2
  if e < 2 then ⟨low, high, Nat.pow 2 (2 - e).toNat, m % 2 == 0⟩
  else ⟨low * Nat.pow 2 (e - 2).toNat, high * Nat.pow 2 (e - 2).toNat, 1, m % 2 == 0⟩

/--
The point of a decimal grid that stands for the value `num / den`: of the two points around it,
the nearer one that lies in the interval, and the upper one if both are equally near.
-/
def gridPoint? (i : Interval) (num den : Nat) (p : Int) : Option Nat :=
  let scaled := scaleBy num den p
  let lower := scaled.1 / scaled.2
  let inside (point : Nat) : Bool :=
    if p < 0 then i.contains point (Nat.pow 10 (-p).toNat)
    else i.contains (point * Nat.pow 10 p.toNat) 1
  let upperFirst := 2 * (scaled.1 % scaled.2) ≥ scaled.2
  let candidates := if upperFirst then [lower + 1, lower] else [lower, lower + 1]
  candidates.find? inside

/-- The digits of a point on the grid of step `10 ^ p`, without the zeros at the end. -/
def Digits.ofPoint (point : Nat) (p : Int) : Digits :=
  let all := Nat.toDigits 10 point
  ⟨(all.reverse.dropWhile (· == '0')).reverse, p + all.length - 1⟩

/-- The fewest digits that read back as `m * 2 ^ e`, for a positive significand. -/
def shortest (m : Nat) (e : Int) : Digits :=
  let value := Binary64.scaleBy m 1 (-e)
  let i := roundingInterval m e
  let lead := leadingExponent value.1 value.2
  let grids := (List.range 17).map fun (n : Nat) => lead - n
  let hit (p : Int) : Option Digits := (gridPoint? i value.1 value.2 p).map (Digits.ofPoint · p)
  (grids.findSome? hit).getD (Digits.ofPoint 0 0)

/-- Where the digits of a double are put. -/
structure Layout where
  /-- The least decimal exponent that is written positionally. -/
  least : Int
  /-- The first decimal exponent above those that are written positionally. -/
  beyond : Int

/-- Magnitudes from `0.0001` to below `10 ^ 16` are written positionally. -/
def layout : Layout := ⟨-4, 16⟩

/-- Digits with the point set by the exponent and at least one digit on either side of it. -/
def positional (d : Digits) : List Char :=
  if d.exponent < 0 then
    ['0', '.'] ++ List.replicate (-d.exponent - 1).toNat '0' ++ d.digits
  else
    let whole := d.exponent.toNat + 1
    let padded := d.digits ++ List.replicate (whole - d.digits.length) '0'
    let fraction := padded.drop whole
    padded.take whole ++ '.' :: (if fraction.isEmpty then ['0'] else fraction)

/-- One digit before the point, none after it if there is only one, and the exponent. -/
def scientific (d : Digits) : List Char :=
  let mantissa :=
    match d.digits with
    | [] => ['0']
    | [c] => [c]
    | c :: rest => c :: '.' :: rest
  mantissa ++ 'e' :: (toString d.exponent).toList

/-- The written form of digits under a layout. -/
def Layout.write (l : Layout) (d : Digits) : List Char :=
  if l.least ≤ d.exponent && d.exponent < l.beyond then positional d else scientific d

/-- A run of decimal digits and what follows it. -/
def spanDigits (s : List Char) : List Char × List Char :=
  (s.takeWhile Char.isDigit, s.dropWhile Char.isDigit)

/-- The number that decimal digits denote. -/
def digitsValue (s : List Char) : Nat :=
  s.foldl (fun n c => 10 * n + (c.toNat - '0'.toNat)) 0

/-- The exponent part of a decimal, zero if there is none. -/
def exponentPart? : List Char → Option Int
  | [] => some 0
  | c :: rest =>
      if c = 'e' || c = 'E' then
        let (negative, ds) :=
          match rest with
          | '-' :: ds => (true, ds)
          | '+' :: ds => (false, ds)
          | ds => (false, ds)
        if ds.isEmpty || !ds.all Char.isDigit then none
        else some (Binary64.signed negative (digitsValue ds))
      else none

/-- The double nearest to `n * 10 ^ p`; far outside the range of doubles no power is computed. -/
def scaledDouble (negative : Bool) (n : Nat) (p : Int) : Binary64 :=
  let magnitude := (Nat.toDigits 10 n).length + p
  if n = 0 || magnitude < -330 then .finite negative 0 Binary64.minExponent
  else if magnitude > 310 then .infinite negative
  else
    let scaled := scaleBy n 1 (-p)
    Binary64.ofRatio negative scaled.1 scaled.2

/-- The double that an unsigned decimal denotes. -/
def unsigned? (negative : Bool) (s : List Char) : Option Binary64 :=
  let word := s.map Char.toLower
  if word = ['n', 'a', 'n'] then some .nan
  else if word = ['i', 'n', 'f'] || word = ['i', 'n', 'f', 'i', 'n', 'i', 't', 'y'] then
    some (.infinite negative)
  else
    let (whole, afterWhole) := spanDigits s
    let (fraction, afterFraction) :=
      match afterWhole with
      | '.' :: rest => spanDigits rest
      | rest => ([], rest)
    if whole.isEmpty && fraction.isEmpty then none
    else
      (exponentPart? afterFraction).map fun p =>
        scaledDouble negative (digitsValue (whole ++ fraction)) (p - fraction.length)

end Decimal

namespace Binary64

/-- The written form of a double. -/
def text : Binary64 → List Char
  | .nan => ['N', 'a', 'N']
  | .infinite negative => (if negative then ['-'] else []) ++ ['i', 'n', 'f']
  | .finite negative m e =>
      (if negative then ['-'] else []) ++
        (if m = 0 then ['0', '.', '0'] else Decimal.layout.write (Decimal.shortest m e))

/-- The double that a decimal text denotes, rounded to the nearest. -/
def ofText? : List Char → Option Binary64
  | '-' :: rest => Decimal.unsigned? true rest
  | '+' :: rest => Decimal.unsigned? false rest
  | s => Decimal.unsigned? false s

end Binary64

end FieldSchema
