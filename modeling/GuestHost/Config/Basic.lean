import GuestHost.Collect.Policy
import GuestHost.Config.LogLevel
import GuestHost.Json.Content
import GuestHost.Json.Read
/-!
The settings of the host: defaults, a JSON document that replaces some of them, and variables of the
environment that have the last word.
-/
namespace GuestHost

open Json (Document Misfit Failure)

structure Config where
  gc : Collect.Thresholds := {}
  /-- The store to open before a program starts. -/
  database : Option String := none
  logLevel : Option String := none
  args : List String := []
  deriving DecidableEq, Repr

namespace Config

inductive Error where
  | json (failure : Failure)
  | notObject
  | badNumber (name value : String)

def Error.message : Error → String
  | json f => "invalid config document: " ++ f.message
  | notObject => "config document must be a JSON object"
  | badNumber name value =>
    name ++ ": expected a non-negative integer, got " ++ Text.quoted value

/-- Takes one member of a document; unknown names are passed over. -/
def readMember (c : Config) (member : String × Document) : Except Misfit Config :=
  match member with
  | ("gc_request_threshold", d) => do
    return { c with gc := { c.gc with requests := ← Json.readNatural d } }
  | ("gc_heap_growth_bytes", d) => do
    return { c with gc := { c.gc with heapGrowth := ← Json.readNatural d } }
  | ("gc_interval_secs", d) => do
    return { c with gc := { c.gc with intervalSeconds := ← Json.readNatural d } }
  | ("database", d) => do return { c with database := ← Json.readOptional Json.readText d }
  | ("log_level", d) => do return { c with logLevel := ← Json.readOptional Json.readText d }
  | ("args", d) => do return { c with args := ← Json.readTexts d }
  | _ => .ok c

/-- The settings of a document over the defaults. -/
def ofJson (text : String) : Except Error Config :=
  match Json.parseDocument text with
  | .error f => .error (.json f)
  | .ok (.object members) =>
    ((Members.ofPairs members).foldlM readMember {}).mapError fun m => .json (.ofMisfit m)
  | .ok _ => .error .notObject

/-- Digits, perhaps behind a plus sign, of a number below `2 ^ 64`. -/
def natural? (text : String) : Option Nat :=
  let digits := match text.toList with
    | '+' :: cs => cs
    | cs => cs
  (Text.readDigits? digits).bind fun n => if n < UInt64.size then some n else none

/-- The number in a variable of the environment, if it is set. -/
def numberFrom (lookup : String → Option String) (name : String) : Except Error (Option Nat) :=
  match lookup name with
  | none => .ok none
  | some value =>
    match natural? (Text.trim value) with
    | some n => .ok (some n)
    | none => .error (.badNumber name value)

/-- The settings with those of the environment put over them. -/
def withOverrides (c : Config) (lookup : String → Option String) : Except Error Config := do
  let requests ← numberFrom lookup "SABLE_GC_REQUESTS"
  let heapGrowth ← numberFrom lookup "SABLE_GC_HEAP_BYTES"
  let interval ← numberFrom lookup "SABLE_GC_INTERVAL_SECS"
  return { c with
    gc := ⟨requests.getD c.gc.requests, heapGrowth.getD c.gc.heapGrowth,
      interval.getD c.gc.intervalSeconds⟩
    database := lookup "SABLE_DATABASE" <|> c.database
    logLevel := lookup "SABLE_LOG" <|> c.logLevel }

def withArgs (c : Config) (args : List String) : Config := { c with args }

def level (c : Config) : LogLevel := .ofSetting c.logLevel

end Config
end GuestHost
