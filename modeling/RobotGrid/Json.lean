import RobotGrid.Scalar
import RobotGrid.Text.Quoted
/-!
# JSON values

Trees of scalars, lists and objects, with the compact text that travels over the wire and the text
that a message shows. The members of an object keep their order; a name occurs once.
-/

set_option autoImplicit false

namespace RobotGrid

inductive Json where
  | scalar (s : Scalar)
  | list (items : List Json)
  | object (members : List (String × Json))

namespace Json

def null : Json := .scalar .absent

def flag (b : Bool) : Json := .scalar (.flag b)

def int (n : Int) : Json := .scalar (.int n)

def text (s : String) : Json := .scalar (.text s)

def optionalText : Option String → Json
  | none => null
  | some s => text s

def member? : Json → String → Option Json
  | .object members, name => members.lookup name
  | _, _ => none

/-- Null, false, zero and whatever is empty do not hold; all else does. -/
def holds : Json → Bool
  | .scalar .absent => false
  | .scalar (.flag b) => b
  | .scalar (.int n) => n != 0
  | .scalar (.real x) => !x.isFinite || x.significand != 0
  | .scalar (.text s) => !s.isEmpty
  | .list items => !items.isEmpty
  | .object members => !members.isEmpty

def escaped (c : Char) : List Char :=
  let n := c.toNat
  if c = Text.doubleQuote ∨ c = Text.backslash then [Text.backslash, c]
  else if n = 0x08 then [Text.backslash, 'b']
  else if n = 0x09 then [Text.backslash, 't']
  else if n = 0x0A then [Text.backslash, 'n']
  else if n = 0x0C then [Text.backslash, 'f']
  else if n = 0x0D then [Text.backslash, 'r']
  else if n < 0x20 then Text.backslash :: 'u' :: Text.hexDigits 4 n
  else [c]

def textLiteral (s : String) : String :=
  String.ofList (Text.doubleQuote :: s.toList.flatMap escaped ++ [Text.doubleQuote])

def realLiteral (x : Binary64) : String :=
  if x.isFinite then x.text
  else if x.fraction ≠ 0 then "NaN"
  else if x.negative then "-Infinity" else "Infinity"

def scalarLiteral : Scalar → Except Oversized String
  | .absent => .ok "null"
  | .flag b => .ok (if b then "true" else "false")
  | .int n => Text.Numeral.write n
  | .real x => .ok (realLiteral x)
  | .text s => .ok (textLiteral s)

mutual

/-- The text on the wire, which no integer with too many digits has. -/
def compact : Json → Except Oversized String
  | .scalar s => scalarLiteral s
  | .list items => do return "[" ++ ",".intercalate (← compactItems items) ++ "]"
  | .object members => do return "\x7b" ++ ",".intercalate (← compactMembers members) ++ "\x7d"

def compactItems : List Json → Except Oversized (List String)
  | [] => .ok []
  | item :: rest => do return (← item.compact) :: (← compactItems rest)

def compactMembers : List (String × Json) → Except Oversized (List String)
  | [] => .ok []
  | (name, value) :: rest =>
    do return (textLiteral name ++ ":" ++ (← value.compact)) :: (← compactMembers rest)

end

mutual

/-- The text of a value inside another, where texts are quoted. -/
def shown : Json → Except Oversized String
  | .scalar (.text s) => .ok (Text.quoted s)
  | .scalar s => s.display
  | .list items => do return "[" ++ ", ".intercalate (← shownItems items) ++ "]"
  | .object members => do return "\x7b" ++ ", ".intercalate (← shownMembers members) ++ "\x7d"

def shownItems : List Json → Except Oversized (List String)
  | [] => .ok []
  | item :: rest => do return (← item.shown) :: (← shownItems rest)

def shownMembers : List (String × Json) → Except Oversized (List String)
  | [] => .ok []
  | (name, value) :: rest =>
    do return (Text.quoted name ++ ": " ++ (← value.shown)) :: (← shownMembers rest)

end

mutual

/-- Every integer in the value has few enough digits to be written. -/
def isWritten : Json → Bool
  | .scalar s => s.isWritten
  | .list items => itemsWritten items
  | .object members => membersWritten members

def itemsWritten : List Json → Bool
  | [] => true
  | item :: rest => item.isWritten && itemsWritten rest

def membersWritten : List (String × Json) → Bool
  | [] => true
  | (_, value) :: rest => value.isWritten && membersWritten rest

end

def display : Json → Except Oversized String
  | .scalar s => s.display
  | j => j.shown

end Json
end RobotGrid
