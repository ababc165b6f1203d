import RobotGrid.Text.Blank
import RobotGrid.Text.Numeral
/-!
# Integers written as texts

The texts that count as an integer where a number is expected. White space may stand around, a sign
and any run of zeros and low lines in front, single low lines between the digits, and a point with
zeros behind. A minus sign may also follow the leading zeros when none stands before them. A text
that opens with too many digits is refused for its size, whatever follows.
-/

set_option autoImplicit false

namespace RobotGrid.Validation

/-- The white space around an integer text: Unicode's, which leaves the four separators out. -/
def isSpace (c : Char) : Bool :=
  Text.isBlank c && !(decide (0x1C ≤ c.toNat) && decide (c.toNat ≤ 0x1F))

def trimSpace (s : List Char) : List Char :=
  ((s.dropWhile isSpace).reverse.dropWhile isSpace).reverse

def isLeadingDigit (c : Char) : Bool := c.isDigit && c != '0'

def isFiller (c : Char) : Bool := c == '0' || c == '_'

/-- The text without a leading run that begins with a zero and holds zeros and low lines. The last
zero stays when nothing or a point follows. -/
def dropFiller : List Char → Option (List Char)
  | [] => none
  | c :: r =>
    let filler := r.takeWhile isFiller
    let rest := r.dropWhile isFiller
    if isLeadingDigit c then some (c :: r)
    else if c ≠ '0' then none
    else if rest.head?.any fun d => isLeadingDigit d || d == '-' then some rest
    else if rest.head?.all (· == '.') && filler.getLast? != some '_' then some ('0' :: rest)
    else none

def dropZeroFraction (s : List Char) : List Char :=
  match s.dropWhile (· != '.') with
  | '.' :: zeros =>
    if !zeros.isEmpty && zeros.all (· == '0') then s.takeWhile (· != '.') else s
  | _ => s

def joinGroups (s : List Char) : Option (List Char) :=
  let groups := Text.pieces (· == '_') s
  if groups.all fun g => !g.isEmpty then some groups.flatten else none

def significant (s : List Char) : Option (List Char) :=
  (dropFiller s).bind fun s => joinGroups (dropZeroFraction s)

def plainNatural (s : List Char) : Option Nat :=
  if s ≠ [] ∧ s.all Char.isDigit ∧ (s = ['0'] ∨ s.head? ≠ some '0') ∧
      s.length ≤ Text.Numeral.digitLimit then
    some (Nat.ofDigitChars 10 s 0)
  else none

def plainInteger : List Char → Option Int
  | '-' :: digits => (plainNatural digits).map fun n : Nat => -(n : Int)
  | digits => (plainNatural digits).map Int.ofNat

def integerOf (s : List Char) : Option Int :=
  match trimSpace s with
  | '+' :: r => (significant r).bind plainInteger
  | '-' :: r => ((significant r).bind plainNatural).map fun n : Nat => -(n : Int)
  | r => (significant r).bind plainInteger

def openingDigits : List Char → List Char
  | '-' :: r => r.takeWhile Char.isDigit
  | r => r.takeWhile Char.isDigit

/-- The text opens with more digits than are converted, and not with a zero. -/
def isOversized (s : List Char) : Bool :=
  let digits := openingDigits s
  digits.head?.any isLeadingDigit && decide (Text.Numeral.digitLimit < digits.length)

end RobotGrid.Validation
