import GuestHost.Text.Blank
/-!
How much the host writes to its log.
-/
namespace GuestHost.Config

inductive LogLevel where
  | error | warn | info | debug | trace
  deriving DecidableEq, Repr

namespace LogLevel

/-- Reads a level's name or its other spelling, whatever the case of the letters and the blanks around
them. -/
def parse (spec : String) : Option LogLevel :=
  match Text.asciiLower (Text.trim spec) with
  | "error" => some error
  | "err" => some error
  | "warn" => some warn
  | "warning" => some warn
  | "info" => some info
  | "debug" => some debug
  | "trace" => some trace
  | "verbose" => some trace
  | _ => none

def name : LogLevel → String
  | error => "error"
  | warn => "warn"
  | info => "info"
  | debug => "debug"
  | trace => "trace"

/-- Levels by how much they let through, the quietest first. -/
def rank : LogLevel → Nat
  | error => 0
  | warn => 1
  | info => 2
  | debug => 3
  | trace => 4

/-- The level that a setting asks for. What cannot be read asks for the usual one. -/
def ofSetting (spec : Option String) : LogLevel := (spec.bind parse).getD info

@[simp] theorem parse_name (l : LogLevel) : parse l.name = some l := by
  cases l <;> decide +kernel

end LogLevel
end GuestHost.Config
