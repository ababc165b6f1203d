import RobotGrid.Json
import RobotGrid.Validation.IntegerText
/-!
# Validation of input values

Checks of JSON values against the types that a caller must provide. A check yields the value or
all the issues found, in the order of the fields, each with its place and its kind. An integer may
also come as a Boolean, as a number without fraction, or as a text.
-/

set_option autoImplicit false

namespace RobotGrid

inductive Place where
  | member (name : String)
  | index (n : Nat)
  deriving DecidableEq

inductive IssueKind where
  | missing
  | integerText
  | integerSize
  | fraction
  | infinite
  | notInteger
  | notGreater
  | notText
  | notList
  | notObject
  deriving DecidableEq

def IssueKind.name : IssueKind → String
  | .missing => "missing"
  | .integerText => "int_parsing"
  | .integerSize => "int_parsing_size"
  | .fraction => "int_from_float"
  | .infinite => "finite_number"
  | .notInteger => "int_type"
  | .notGreater => "greater_than"
  | .notText => "string_type"
  | .notList => "list_type"
  | .notObject => "model_attributes_type"

structure Issue where
  location : List Place
  kind : IssueKind
  deriving DecidableEq

abbrev Checked (α : Type) := Except (List Issue) α

namespace Checked

/-- Two checks made side by side; the issues of the first come first. -/
def both {α β : Type} : Checked α → Checked β → Checked (α × β)
  | .ok a, .ok b => .ok (a, b)
  | .ok _, .error f => .error f
  | .error e, .ok _ => .error e
  | .error e, .error f => .error (e ++ f)

def all {α : Type} : List (Checked α) → Checked (List α)
  | [] => .ok []
  | c :: rest => (both c (all rest)).map fun (a, l) => a :: l

def fail {α : Type} (location : List Place) (kind : IssueKind) : Checked α :=
  .error [⟨location, kind⟩]

theorem both_eq_ok_iff {α β : Type} {a : Checked α} {b : Checked β} {p : α × β} :
    both a b = .ok p ↔ a = .ok p.1 ∧ b = .ok p.2 := by
  obtain ⟨x, y⟩ := p
  cases a <;> cases b <;> simp [both]

end Checked

namespace Validation

/-- The least power of two that a number without fraction must stay below. -/
def realLimit : Int := 0x8000000000000000

def integerText (s : List Char) : Except IssueKind Int :=
  if isOversized s then .error .integerSize
  else
    match integerOf s with
    | some n => .ok n
    | none => .error .integerText

def integerReal (x : Binary64) : Except IssueKind Int :=
  if !x.isFinite then .error .infinite
  else
    match x.integer? with
    | none => .error .fraction
    | some n => if -realLimit < n ∧ n < realLimit then .ok n else .error .integerSize

def readInteger : Json → Except IssueKind Int
  | .scalar (.int n) => .ok n
  | .scalar (.flag b) => .ok (if b then 1 else 0)
  | .scalar (.real x) => integerReal x
  | .scalar (.text s) => integerText s.toList
  | _ => .error .notInteger

def readText : Json → Except IssueKind String
  | .scalar (.text s) => .ok s
  | _ => .error .notText

def integer (location : List Place) (j : Json) : Checked Int :=
  (readInteger j).mapError fun kind => [⟨location, kind⟩]

def positive (location : List Place) (j : Json) : Checked { n : Int // 0 < n } :=
  (integer location j).bind fun n =>
    if h : 0 < n then .ok ⟨n, h⟩ else Checked.fail location .notGreater

def text (location : List Place) (j : Json) : Checked String :=
  (readText j).mapError fun kind => [⟨location, kind⟩]

def list {α : Type} (check : List Place → Json → Checked α) (location : List Place) :
    Json → Checked (List α)
  | .list items => Checked.all (items.mapIdx fun i item => check (location ++ [.index i]) item)
  | _ => Checked.fail location .notList

/-- A member of an object at a given place; without a default it must be there. -/
def member {α : Type} (check : List Place → Json → Checked α) (default : Option α)
    (location : List Place) (object : Json) (name : String) : Checked α :=
  let here := location ++ [.member name]
  match object.member? name, default with
  | some value, _ => check here value
  | none, some value => .ok value
  | none, none => Checked.fail here .missing

def object {α : Type} (check : List Place → Json → Checked α) (location : List Place) (j : Json) :
    Checked α :=
  match j with
  | .object _ => check location j
  | _ => Checked.fail location .notObject

end Validation
end RobotGrid
