import Shorthand.Text.Basic

/-! Double precision numbers in exact arithmetic. A finite one is a mantissa of at most 53 bits times a
power of two from 2^-1074 on; reading a decimal gives the nearest one, and of two equally near ones
the one with the even mantissa. -/
namespace Shorthand

inductive Double where
  | nan
  | infinity (negative : Bool)
  /-- The number `mantissa * 2 ^ exponent`, with its sign, which zero has too. -/
  | finite (negative : Bool) (mantissa : Nat) (exponent : Int)
deriving DecidableEq, Repr

namespace Double

def leastExponent : Int := -1074

def greatestExponent : Int := 971

/-- The quotient rounded to the nearest integer, and to the even one of two equally near. -/
def roundDiv (num den : Nat) : Nat :=
  let quotient := num / den
  let twice := 2 * (num % den)
  if den < twice ∨ (den = twice ∧ quotient % 2 = 1) then quotient + 1 else quotient

def unscale (num den : Nat) (exponent : Int) : Nat × Nat :=
  (num * Nat.pow 2 (-exponent).toNat, den * Nat.pow 2 exponent.toNat)

/-- The exponent at which the fraction has a mantissa of 53 bits, or the least one. -/
def exponentOf (num den : Nat) : Int :=
  let guess : Int := (Nat.log2 num : Int) - Nat.log2 den - 53
  let (n, d) := unscale num den guess
  max leastExponent (if Nat.pow 2 53 * d ≤ n then guess + 1 else guess)

def ofFraction (negative : Bool) (num den : Nat) : Double :=
  if num = 0 then .finite negative 0 leastExponent
  else
    let exponent := exponentOf num den
    let (n, d) := unscale num den exponent
    let mantissa := roundDiv n d
    let (mantissa, exponent) :=
      if mantissa = Nat.pow 2 53 then (Nat.pow 2 52, exponent + 1) else (mantissa, exponent)
    if greatestExponent < exponent then .infinity negative
    else .finite negative mantissa exponent

/-- The number nearest to `digits * 10 ^ exponent`. Beyond 10^400 and below 10^-400, where every number
rounds to infinity or zero, no power is computed. -/
def ofDecimal (negative : Bool) (digits : Nat) (exponent : Int) : Double :=
  let magnitude := (Nat.toDigits 10 digits).length + exponent
  if digits = 0 ∨ magnitude < -400 then .finite negative 0 leastExponent
  else if 400 < magnitude then .infinity negative
  else ofFraction negative (digits * Nat.pow 10 exponent.toNat) (Nat.pow 10 (-exponent).toNat)

example : ofDecimal false 1 (-1) = .finite false 7205759403792794 (-56) := by decide +kernel

end Double

/-! The shortest decimal that reads back as a given double precision number. Of all decimals that
round to the number, those with the fewest digits are on a grid on which a neighbour of the number
rounds to it; of two such neighbours the nearer is taken, and the even one if both are equally near. -/
namespace Decimal

def compareScaled (a : Nat) (p : Int) (b : Nat) (q : Int) : Ordering :=
  compare (a * Nat.pow 10 p.toNat * Nat.pow 2 (-q).toNat)
    (b * Nat.pow 2 q.toNat * Nat.pow 10 (-p).toNat)

/-- Whether `a * 10 ^ p` rounds to `mantissa * 2 ^ exponent`: it lies between the midpoints to the
neighbours of that number, or on a midpoint if the mantissa is even. Below a power of two the
neighbour is only half as far. -/
def roundsTo (mantissa : Nat) (exponent : Int) (a : Nat) (p : Int) : Bool :=
  let gap := if mantissa = Nat.pow 2 52 ∧ Double.leastExponent < exponent then 1 else 2
  let even := mantissa % 2 = 0
  (match compareScaled a p (4 * mantissa - gap) (exponent - 2) with
    | .gt => true
    | .eq => even
    | .lt => false) &&
  (match compareScaled a p (4 * mantissa + 2) (exponent - 2) with
    | .lt => true
    | .eq => even
    | .gt => false)

/-- The number of decimal digits in front of the point of a fraction that is at least one, and minus
the number of zeros behind the point of a positive one that is less. -/
def pointOf (num den : Nat) : Int :=
  if den ≤ num then (Nat.toDigits 10 (num / den)).length
  else 1 - (Nat.toDigits 10 ((den - 1) / num)).length

/-- The neighbour of `mantissa * 2 ^ exponent` on the grid of multiples of `10 ^ p` that rounds to it,
counted in grid steps: the nearer one if both do. -/
def onGrid? (mantissa : Nat) (exponent p : Int) : Option Nat :=
  let num := mantissa * Nat.pow 2 exponent.toNat * Nat.pow 10 (-p).toNat
  let below := num / (Nat.pow 2 (-exponent).toNat * Nat.pow 10 p.toNat)
  let above := below + 1
  match roundsTo mantissa exponent below p, roundsTo mantissa exponent above p with
  | true, false => some below
  | false, true => some above
  | false, false => none
  | true, true =>
    match compareScaled (below + above) p (2 * mantissa) exponent with
    | .gt => some below
    | .lt => some above
    | .eq => some (if below % 2 = 0 then below else above)

/-- The digits of the shortest decimal, without zeros at the end, and the place of its point: `d` digits
and the point `p` stand for the number `0.d * 10 ^ p`. -/
def shortest (mantissa : Nat) (exponent : Int) : Text × Int :=
  let point := pointOf (mantissa * Nat.pow 2 exponent.toNat) (Nat.pow 2 (-exponent).toNat)
  let candidate (count : Nat) : Option (Nat × Int) :=
    (onGrid? mantissa exponent (point - count)).map fun steps => (steps, point - count)
  let (steps, p) := ((List.range' 1 17).findSome? candidate).getD (0, 0)
  let digits := Text.ofNat steps
  ((digits.reverse.dropWhile (· = '0')).reverse, p + digits.length)

/-- A decimal below 10^16 and from 0.0001 on is written with a point, which has a digit on either side;
any other has one digit before the point and an exponent of at least two digits with its sign. -/
def layout (digits : Text) (point : Int) : Text :=
  if -4 < point ∧ point ≤ 16 then
    if point ≤ 0 then "0.".toList ++ List.replicate (-point).toNat '0' ++ digits
    else
      let whole := (digits.take point.toNat).rightpad point.toNat '0'
      let rest := digits.drop point.toNat
      whole ++ '.' :: (if rest = [] then ['0'] else rest)
  else
    let fraction := digits.drop 1
    let exponent := point - 1
    digits.take 1 ++ (if fraction = [] then [] else '.' :: fraction) ++
      'e' :: (if exponent < 0 then '-' else '+') :: (Text.ofNat exponent.natAbs).leftpad 2 '0'

def write : Double → Text
  | .nan => "nan".toList
  | .infinity negative => if negative then "-inf".toList else "inf".toList
  | .finite negative mantissa exponent =>
    let magnitude :=
      if mantissa = 0 then "0.0".toList
      else
        let (digits, point) := shortest mantissa exponent
        layout digits point
    if negative then '-' :: magnitude else magnitude

example : write (.ofDecimal false 1 (-1)) = "0.1".toList := by decide +kernel

example : write (.ofDecimal true 5 (-324)) = "-5e-324".toList := by decide +kernel

end Decimal

end Shorthand
