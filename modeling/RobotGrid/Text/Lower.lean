import RobotGrid.Text.LowerTable
/-!
# Lower case

The lower-case form of a text, letter by letter. The capital sigma always becomes the sigma of the
middle of a word.
-/

set_option autoImplicit false

namespace RobotGrid.Text

/-- The lower-case form of one character. Only the dotted capital I becomes two characters. -/
def lowerChar (c : Char) : List Char :=
  if c.toNat < 128 then [c.toLower]
  else if c.toNat = 0x0130 then ['i', Char.ofNat 0x0307]
  else
    match lowerRuns.find? fun r => r.holds c.toNat with
    | some r => [Char.ofNat (r.apply c.toNat)]
    | none => [c]

def lower (s : List Char) : List Char := s.flatMap lowerChar

end RobotGrid.Text
