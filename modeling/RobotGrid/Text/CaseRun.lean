/-!
# Runs of letters

The mappings between upper and lower case move whole runs of letters by a common distance, where a
run takes every letter or every second one.
-/

set_option autoImplicit false

namespace RobotGrid.Text

/-- Every `step`-th code point from `first` to `last`; the run is moved to begin at `image`. -/
structure CaseRun where
  first : Nat
  last : Nat
  step : Nat
  image : Nat

def CaseRun.holds (r : CaseRun) (n : Nat) : Bool :=
  decide (r.first ≤ n) && decide (n ≤ r.last) && (n - r.first) % r.step == 0

def CaseRun.apply (r : CaseRun) (n : Nat) : Nat := r.image + (n - r.first)

end RobotGrid.Text
