import RobotGrid.Number.Binary64
/-!
# Rounding to binary64

The binary64 number nearest to a rational, and of two equally near the one with the even
significand. A rational is first measured in units of the last bit, which is the smallest unit
unless the number is normal; the rounded count of units is then the significand, and a count that
reaches the next power of two carries into the exponent by itself.
-/

set_option autoImplicit false

namespace RobotGrid

/-- The natural number nearest to a quotient, of two equally near the even one. -/
def roundQuotient (n d : Nat) : Nat :=
  let low := n / d
  let twice := 2 * (n - low * d)
  if twice < d then low
  else if d < twice then low + 1
  else if low % 2 = 0 then low else low + 1

namespace Binary64

def leastPower : Int := -1074

/-- The power of two that the last bit of a positive quotient stands for. -/
def lastBit (n d : Nat) : Int :=
  let guess : Int := (Nat.log2 n : Int) - Nat.log2 d - 52
  let small : Bool := n * Nat.pow 2 (-(guess + 52)).toNat < d * Nat.pow 2 (guess + 52).toNat
  max leastPower (if small then guess - 1 else guess)

def nearestWord (n d : Nat) : Nat :=
  let p := lastBit n d
  (p - leastPower).toNat * Nat.pow 2 52 +
    roundQuotient (n * Nat.pow 2 (-p).toNat) (d * Nat.pow 2 p.toNat)

def infinityWord : Nat := 2047 * Nat.pow 2 52

def nearest (q : Rat) : Option Binary64 :=
  let w := if q.num = 0 then 0 else nearestWord q.num.natAbs q.den
  if infinityWord ≤ w then none
  else some ⟨UInt64.ofNat (if q.num < 0 then Nat.pow 2 63 + w else w)⟩

end Binary64
end RobotGrid
