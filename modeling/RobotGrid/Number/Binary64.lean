/-!
# Numbers of the binary64 format

A number is its word of 64 bits: a sign, eleven bits of exponent and 52 of fraction. Its exact
value is a rational, so that nothing here computes with machine floating point.
-/

set_option autoImplicit false

namespace RobotGrid

structure Binary64 where
  bits : UInt64
  deriving DecidableEq

namespace Binary64

def negative (x : Binary64) : Bool := decide (Nat.pow 2 63 ≤ x.bits.toNat)

def exponentField (x : Binary64) : Nat := x.bits.toNat / Nat.pow 2 52 % Nat.pow 2 11

def fraction (x : Binary64) : Nat := x.bits.toNat % Nat.pow 2 52

/-- Neither an infinity nor a NaN. -/
def isFinite (x : Binary64) : Bool := x.exponentField != 2047

/-- The integral significand, with the leading one that a normal number leaves out. -/
def significand (x : Binary64) : Nat :=
  if x.exponentField = 0 then x.fraction else Nat.pow 2 52 + x.fraction

def power (x : Binary64) : Int := (max x.exponentField 1 : Nat) - 1075

def magnitude (x : Binary64) : Rat :=
  if 0 ≤ x.power then ((x.significand * Nat.pow 2 x.power.toNat : Nat) : Rat)
  else mkRat x.significand (Nat.pow 2 (-x.power).toNat)

def value (x : Binary64) : Rat := if x.negative then -x.magnitude else x.magnitude

def integer? (x : Binary64) : Option Int :=
  if x.isFinite && x.value.den == 1 then some x.value.num else none

end Binary64

/-- The integer next to a rational on the side of zero. -/
def truncate (q : Rat) : Int := Int.tdiv q.num q.den

end RobotGrid
