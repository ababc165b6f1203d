import RobotGrid.Number.Shortest
/-!
# The text of a binary64 number

The shortest digits, positional from `10 ^ -4` up to but not including `10 ^ 16` and with an
exponent of at least two digits outside. A positional text always has a point.
-/

set_option autoImplicit false

namespace RobotGrid.Binary64

/-- The smallest leading exponent that is written positionally. -/
def positionalFrom : Int := -4

def positionalBelow : Int := 16

def significantDigits (d : Decimal) : List Char :=
  ((Nat.toDigits 10 d.coefficient).reverse.dropWhile (· == '0')).reverse

def positional (digits : List Char) (e : Int) : List Char :=
  if e < 0 then '0' :: '.' :: List.replicate (-e - 1).toNat '0' ++ digits
  else
    let whole := e.toNat + 1
    if digits.length ≤ whole then
      digits ++ List.replicate (whole - digits.length) '0' ++ ['.', '0']
    else digits.take whole ++ '.' :: digits.drop whole

def exponential (digits : List Char) (e : Int) : List Char :=
  let head :=
    match digits with
    | d :: r@(_ :: _) => d :: '.' :: r
    | _ => digits
  let size := Nat.toDigits 10 e.natAbs
  let padded := List.replicate (2 - size.length) '0' ++ size
  head ++ 'e' :: (if e < 0 then '-' else '+') :: padded

def magnitudeChars (x : Binary64) : List Char :=
  if x.significand = 0 then ['0', '.', '0']
  else
    let d := x.shortest
    let digits := significantDigits d
    let e := d.exponent + (digitCount d.coefficient : Int) - 1
    if positionalFrom ≤ e ∧ e < positionalBelow then positional digits e else exponential digits e

def text (x : Binary64) : String :=
  if x.isFinite then
    String.ofList (if x.negative then '-' :: x.magnitudeChars else x.magnitudeChars)
  else if x.fraction ≠ 0 then "nan"
  else if x.negative then "-inf" else "inf"

end RobotGrid.Binary64
