import RobotGrid.Number.Binary64
/-!
# Shortest decimals

The fewest decimal digits that read back as a given binary64 number, and of the decimals with so
few digits the nearest one. A decimal reads back when it lies between the midpoints to the two
neighbouring numbers; a midpoint itself counts when the significand is even.
-/

set_option autoImplicit false

namespace RobotGrid

structure Decimal where
  coefficient : Nat
  exponent : Int

namespace Binary64

def quarters (x : Binary64) : Nat := 4 * x.significand

/-- The midpoint below in the same quarters; nearer where the exponent steps down. -/
def quartersBelow (x : Binary64) : Nat :=
  if x.fraction = 0 ∧ 1 < x.exponentField then x.quarters - 1 else x.quarters - 2

def quartersAbove (x : Binary64) : Nat := x.quarters + 2

def units (x : Binary64) (k : Int) : Nat × Nat :=
  let p := x.power - 2
  (Nat.pow 10 k.toNat * Nat.pow 2 (-p).toNat, Nat.pow 2 p.toNat * Nat.pow 10 (-k).toNat)

def readsBack (x : Binary64) (k : Int) (c : Nat) : Bool :=
  let (ten, two) := x.units k
  if x.significand % 2 = 0 then
    decide (x.quartersBelow * two ≤ c * ten) && decide (c * ten ≤ x.quartersAbove * two)
  else
    decide (x.quartersBelow * two < c * ten) && decide (c * ten < x.quartersAbove * two)

/-- The nearest multiple of `10 ^ k` that reads back, if one does; of two equally near the even. -/
def onGrid? (x : Binary64) (k : Int) : Option Nat :=
  let (ten, two) := x.units k
  let exact := x.quarters * two
  let low := exact / ten
  let below := exact - low * ten
  let above := (low + 1) * ten - exact
  match x.readsBack k low, x.readsBack k (low + 1) with
  | true, true =>
    if below < above then some low
    else if above < below then some (low + 1)
    else if low % 2 = 0 then some low else some (low + 1)
  | true, false => some low
  | false, true => some (low + 1)
  | false, false => none

def digitCount (n : Nat) : Nat := (Nat.toDigits 10 n).length

def leadingExponent (x : Binary64) : Int :=
  let p := x.power
  let num := x.significand * Nat.pow 2 p.toNat
  let den := Nat.pow 2 (-p).toNat
  if den ≤ num then (digitCount (num / den) : Int) - 1
  else -(digitCount ((den + num - 1) / num - 1) : Int)

/-- The shortest decimal of a finite number other than zero; seventeen digits always suffice. -/
def shortest (x : Binary64) : Decimal :=
  let e := x.leadingExponent
  let hit := (List.range 17).findSome? fun (i : Nat) =>
    (x.onGrid? (e - i)).map fun c => (c, e - (i : Int))
  let (c, k) := hit.getD (0, 0)
  ⟨c, k⟩

end Binary64
end RobotGrid
