/-!
# Binary floating-point numbers

A finite double is a sign and a magnitude `significand * 2 ^ scale`. Arithmetic rounds an exact ratio of natural
numbers to the nearest double, a tie going to the even significand, so that every value here is computed in whole
numbers. A magnitude too large for a double is `none`. A double is written with the fewest decimal digits that lie
within half a unit in its last binary place, and of those the nearest; positionally between two magnitudes, and with an
exponent outside them.
-/

namespace SchemaMutation.Decimal

/-- A finite double. The significand is below `2 ^ 53`, and at least `2 ^ 52` unless the scale is the least. -/
structure Binary64 where
  negative : Bool
  significand : Nat
  scale : Int
deriving DecidableEq, Repr, Inhabited

namespace Binary64

def precision : Nat := 53
def leastScale : Int := -1074
def greatestScale : Int := 971

def zero (negative : Bool) : Binary64 := ⟨negative, 0, leastScale⟩

def isZero (x : Binary64) : Bool := x.significand == 0

def neg (x : Binary64) : Binary64 := { x with negative := !x.negative }

/-- The ratio rounded to a whole number, a half going to the even neighbour. -/
def roundHalfEven (num den : Nat) : Nat :=
  let floor := num / den
  let rest := 2 * (num % den)
  if rest < den then floor
  else if den < rest then floor + 1
  else if floor % 2 = 0 then floor else floor + 1

/-- A natural number times two to an integer power, as a ratio. -/
def scaledRatio (m : Nat) (scale : Int) : Nat × Nat :=
  if scale < 0 then (m, Nat.pow 2 (-scale).toNat) else (m * Nat.pow 2 scale.toNat, 1)

def log2Ratio (num den : Nat) : Int :=
  let guess : Int := Int.ofNat num.log2 - Int.ofNat den.log2
  let (up, down) := if guess < 0 then (num * Nat.pow 2 (-guess).toNat, den) else (num, den * Nat.pow 2 guess.toNat)
  if up < down then guess - 1 else guess

/-- The double nearest to a ratio, or `none` when it would be infinite. -/
def ofRatio (negative : Bool) (num den : Nat) : Option Binary64 :=
  if num = 0 then some (zero negative)
  else
    let scale := max (log2Ratio num den - 52) leastScale
    let m := if scale < 0 then roundHalfEven (num * Nat.pow 2 (-scale).toNat) den
             else roundHalfEven num (den * Nat.pow 2 scale.toNat)
    let (m, scale) := if m = Nat.pow 2 precision then (Nat.pow 2 52, scale + 1) else (m, scale)
    if greatestScale < scale then none
    else if m = 0 then some (zero negative) else some ⟨negative, m, scale⟩

def ratio (x : Binary64) : Nat × Nat := scaledRatio x.significand x.scale

def ofNat (n : Nat) : Option Binary64 := ofRatio false n 1

def tenPower (n : Nat) : Option Binary64 := ofNat (Nat.pow 10 n)

def mul (x y : Binary64) : Option Binary64 :=
  let (a, b) := x.ratio
  let (c, d) := y.ratio
  ofRatio (x.negative != y.negative) (a * c) (b * d)

def div (x y : Binary64) : Option Binary64 :=
  let (a, b) := x.ratio
  let (c, d) := y.ratio
  ofRatio (x.negative != y.negative) (a * d) (b * c)

def greatestTenPower : Nat := 308

/-- Division by a power of ten in steps of at most the greatest one, each of them rounded. -/
def divTenPower (x : Binary64) (n : Nat) : Option Binary64 :=
  if _h : greatestTenPower < n then
    if x.isZero then some x
    else do (← x.div (← tenPower greatestTenPower)).divTenPower (n - greatestTenPower)
  else do x.div (← tenPower n)
termination_by n
decreasing_by simp only [greatestTenPower] at *; omega

/-- Multiplication by a power of ten. Beyond the greatest one only zero is left. -/
def mulTenPower (x : Binary64) (n : Nat) : Option Binary64 :=
  if greatestTenPower < n then if x.isZero then some x else none
  else do x.mul (← tenPower n)

/-- `significand * 10 ^ exponent` with one rounding for the significand and one for each power of ten. -/
def ofParts (negative : Bool) (significand : Nat) (exponent : Int) : Option Binary64 := do
  let x ← ofNat significand
  let y ← if exponent < 0 then x.divTenPower (-exponent).toNat else x.mulTenPower exponent.toNat
  return if negative then y.neg else y

/-- `significand * 10 ^ exponent` rounded once. An exponent far below the range of doubles gives zero. -/
def nearestDecimal (negative : Bool) (significand : Nat) (exponent : Int) : Option Binary64 :=
  if significand = 0 then some (zero negative)
  else
    let digits := Int.ofNat (Nat.toDigits 10 significand).length
    if digits + exponent < -400 then some (zero negative)
    else if 400 < digits + exponent then none
    else if exponent < 0 then ofRatio negative significand (Nat.pow 10 (-exponent).toNat)
    else ofRatio negative (significand * Nat.pow 10 exponent.toNat) 1

end Binary64

/-- The reals that round to a positive double, as ratios over one denominator. -/
structure Interval where
  low : Nat
  value : Nat
  high : Nat
  den : Nat
  /-- Whether the two ends round to the double too. -/
  closed : Bool

/-- A decimal `0.d₁d₂… * 10 ^ point`. -/
structure Digits where
  digits : Nat
  count : Nat
  point : Int
deriving DecidableEq, Repr

/-- The interval of a double that is not zero. Below a power of two the doubles are twice as dense. -/
def Interval.ofBinary64 (x : Binary64) : Interval :=
  let m := x.significand
  let lower := if m = Nat.pow 2 52 ∧ x.scale ≠ Binary64.leastScale then 4 * m - 1 else 4 * m - 2
  let (one, den) := Binary64.scaledRatio 1 (x.scale - 2)
  ⟨lower * one, 4 * m * one, (4 * m + 2) * one, den, m % 2 == 0⟩

def Interval.contains (i : Interval) (num den : Nat) : Bool :=
  let x := num * i.den
  if i.closed then decide (i.low * den ≤ x ∧ x ≤ i.high * den) else decide (i.low * den < x ∧ x < i.high * den)

def digitCount (n : Nat) : Nat := (Nat.toDigits 10 n).length

/-- The `point` with `10 ^ (point - 1) ≤ num / den < 10 ^ point`, for a positive ratio. -/
def decimalPoint (num den : Nat) : Int :=
  if num < den then 1 - Int.ofNat (digitCount ((den - 1) / num)) else Int.ofNat (digitCount (num / den))

/-- The neighbours of the value on the grid of `count` digits: the nearer one that lies in the interval. -/
def Interval.pick? (i : Interval) (point : Int) (count : Nat) : Option Digits :=
  let exponent := point - Int.ofNat count
  let (gridNum, gridDen) := if exponent < 0 then (1, Nat.pow 10 (-exponent).toNat) else (Nat.pow 10 exponent.toNat, 1)
  let below := i.value * gridDen / (i.den * gridNum)
  let inside (d : Nat) : Bool := i.contains (d * gridNum) gridDen
  let nearest := Binary64.roundHalfEven (i.value * gridDen) (i.den * gridNum)
  let make (d : Nat) : Digits :=
    if d = Nat.pow 10 count then ⟨Nat.pow 10 (count - 1), count, point + 1⟩ else ⟨d, count, point⟩
  if inside nearest then some (make nearest)
  else if inside below then some (make below)
  else if inside (below + 1) then some (make (below + 1))
  else none

def Digits.trim (d : Digits) : Digits :=
  if _h : d.count ≤ 1 then d
  else if d.digits % 10 = 0 then Digits.trim ⟨d.digits / 10, d.count - 1, d.point⟩ else d
termination_by d.count
decreasing_by omega

/-- The shortest digits of a double; zero has the single digit 0. -/
def shortest (x : Binary64) : Digits :=
  if x.isZero then ⟨0, 1, 1⟩
  else
    let i := Interval.ofBinary64 x
    let point := decimalPoint i.value i.den
    match (List.range 17).findSome? fun n => i.pick? point (n + 1) with
    | some d => d.trim
    | none => ⟨0, 1, 1⟩

/-- Positional notation is used when the decimal point stands between these two places (`none`: without bound),
    counted from the first digit. -/
structure Notation where
  leastPoint : Option Int
  greatestPoint : Option Int

def Notation.positional (n : Notation) (point : Int) : Bool :=
  n.leastPoint.all (· ≤ point) && n.greatestPoint.all (point ≤ ·)

/-- The digits of a number as characters, with the zeros in front that the count asks for. -/
def Digits.chars (d : Digits) : List Char :=
  let ds := Nat.toDigits 10 d.digits
  List.replicate (d.count - ds.length) '0' ++ ds

/-- Digits around the point, with at least one on either side. -/
def Digits.positional (d : Digits) : List Char :=
  let ds := d.chars
  if d.point ≤ 0 then '0' :: '.' :: List.replicate (-d.point).toNat '0' ++ ds
  else
    let whole := d.point.toNat
    if d.count ≤ whole then ds ++ List.replicate (whole - d.count) '0' ++ ['.', '0']
    else ds.take whole ++ '.' :: ds.drop whole

def Digits.scientific (d : Digits) : List Char :=
  let exponent := d.point - 1
  let mantissa := match d.chars with
    | [] => []
    | [c] => [c]
    | c :: cs => c :: '.' :: cs
  mantissa ++ 'e' :: (if exponent < 0 then '-' else '+') :: Nat.toDigits 10 exponent.natAbs

def Notation.write (n : Notation) (x : Binary64) : String :=
  let d := shortest x
  let body := if x.isZero || n.positional d.point then d.positional else d.scientific
  String.ofList (if x.negative then '-' :: body else body)

end SchemaMutation.Decimal
