import RobotGrid.Text.Lower
import RobotGrid.Validation
/-!
# Settings

The runtime settings with their defaults. A value given directly counts before one from the
environment, and that before the default. Names are taken in any case, and in the environment they
begin with `RULES_ENGINE_`. Of two names that differ only in case the first given directly counts,
and in the environment the last. Some arguments are no settings: they change how the environment is
read.
-/

set_option autoImplicit false

namespace RobotGrid

structure Settings where
  host : String
  port : Int
  tabletopWidth : Int
  tabletopHeight : Int
  logLevel : String
  width_pos : 0 < tabletopWidth
  height_pos : 0 < tabletopHeight

namespace Settings

def standard : Settings :=
  { host := "0.0.0.0"
    port := 5000
    tabletopWidth := 5
    tabletopHeight := 5
    logLevel := "WARNING"
    width_pos := by decide
    height_pos := by decide }

def standardSides : { n : Int // 0 < n } × { n : Int // 0 < n } :=
  (⟨standard.tabletopWidth, standard.width_pos⟩, ⟨standard.tabletopHeight, standard.height_pos⟩)

end Settings

/-- Settings with sides that can be written, as every environment gives them. -/
structure LegibleSettings extends Settings where
  width_written : Text.Numeral.isWritten tabletopWidth = true
  height_written : Text.Numeral.isWritten tabletopHeight = true

def LegibleSettings.standard : LegibleSettings :=
  { Settings.standard with
    width_written := by decide
    height_written := by decide }

namespace Settings

/-- How the environment is read: whether the case of a name counts, what every name begins with,
whether an empty value counts as none, and which value stands for null. -/
structure Lookup where
  caseCounts : Bool
  mark : String
  skipsEmpty : Bool
  nullText : Option String
  deriving DecidableEq

namespace Lookup

def standard : Lookup := ⟨false, "RULES_ENGINE_", false, none⟩

def markOf (arguments : List (String × Json)) : Except Json String :=
  match arguments.lookup "_env_prefix" with
  | none => .ok standard.mark
  | some (.scalar .absent) => .ok standard.mark
  | some (.scalar (.text mark)) => .ok mark
  | some j => .error j

def ofArguments (arguments : List (String × Json)) : Except Json Lookup :=
  let holds (name : String) : Bool := (arguments.lookup name).any Json.holds
  let nullText : Option String :=
    match arguments.lookup "_env_parse_none_str" with
    | some (.scalar (.text s)) => some s
    | _ => none
  (markOf arguments).map fun mark =>
    ⟨holds "_case_sensitive", mark, holds "_env_ignore_empty", nullText⟩

def key (l : Lookup) (name : String) : List Char :=
  if l.caseCounts then name.toList else Text.lower name.toList

def value (l : Lookup) (s : String) : Json := if l.nullText = some s then .null else .text s

def find? (l : Lookup) (environment : List (String × String)) (name : String) : Option Json :=
  let counts (e : String × String) : Bool :=
    !(l.skipsEmpty && e.2.isEmpty) && l.key e.1 == l.key (l.mark ++ name)
  (environment.reverse.find? counts).map fun e => l.value e.2

end Lookup

/-- The first value that is given directly for a setting, whose name may be in any case. -/
def fromArguments (arguments : List (String × Json)) (name : String) : Option Json :=
  (arguments.find? fun a => Text.lower a.1.toList == name.toList).map Prod.snd

def given? (l : Lookup) (environment : List (String × String)) (arguments : List (String × Json))
    (name : String) : Option Json :=
  (fromArguments arguments name).or (l.find? environment name)

def setting {α : Type} (l : Lookup) (environment : List (String × String))
    (arguments : List (String × Json)) (check : List Place → Json → Checked α) (default : α)
    (name : String) : Checked α :=
  match given? l environment arguments name with
  | some value => check [.member name] value
  | none => .ok default

def load (l : Lookup) (environment : List (String × String)) (arguments : List (String × Json)) :
    Checked Settings :=
  let host := setting l environment arguments Validation.text standard.host "host"
  let port := setting l environment arguments Validation.integer standard.port "port"
  let width :=
    setting l environment arguments Validation.positive standardSides.1 "tabletop_width"
  let height :=
    setting l environment arguments Validation.positive standardSides.2 "tabletop_height"
  let level := setting l environment arguments Validation.text standard.logLevel "log_level"
  (host.both (port.both (width.both (height.both level)))).map
    fun (host, port, width, height, level) =>
      ⟨host, port, width, height, level, width.2, height.2⟩

end Settings
end RobotGrid
