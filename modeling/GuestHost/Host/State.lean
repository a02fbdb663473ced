import GuestHost.Collect.Policy
import GuestHost.Host.Memory
import GuestHost.Host.Trap
/-!
The state of the host for one guest program, and the steps that calls of the program are made of.
-/
namespace GuestHost.Host

/-- What the host tells the world besides the program's output. -/
inductive Event where
  | log (line : String)
  | collection (trigger : Collect.Trigger) (count : Nat)
  | failure (handler method path message : String)
  | warning (text : String)
  deriving DecidableEq, Repr

structure Options where
  /-- Whether the program's standard output is that of the host. -/
  inherits : Bool := false
  args : List String := []
  gc : Collect.Thresholds := {}
  /-- The variables of the environment. -/
  env : List (String × String) := []
  /-- Directories that do not exist. -/
  missing : List String := []
  /-- How storage fails the program's statements, one after the other. -/
  mishaps : List (Option Store.Failure) := []
  readings : Collect.Readings := {}

/-- The state of the host around one program, whose values `β` keeps. -/
structure State (β : Type) where
  bridge : β
  /-- The program's memory, unless it keeps that to itself. -/
  memory : Option Memory
  output : Output := {}
  database : Store.Database := {}
  registry : Serve.Registry := {}
  args : List String := []
  env : List (String × String) := []
  policy : Collect.Policy
  /-- What the host measures of itself. -/
  readings : Collect.Readings := {}
  /-- The code with which the program has ended itself. -/
  exitCode : Option Int := none
  /-- What has been told so far, the latest last. -/
  events : List Event := []

variable {β γ : Type}

namespace State

def start [Bridge β γ] (o : Options) (memory : Option Memory) : State β where
  bridge := Bridge.start
  memory := memory
  output := { inherits := o.inherits }
  database := { missing := o.missing, mishaps := o.mishaps }
  args := o.args
  env := o.env
  policy := .start o.gc o.readings
  readings := o.readings

def tell (s : State β) (events : List Event) : State β := { s with events := s.events ++ events }

/-- Reclaims what can be reclaimed. -/
def collect (s : State β) (t : Collect.Trigger) : State β :=
  let policy := s.policy.collected s.readings
  { s with policy }.tell [.collection t policy.collections]

/-- Counts a served request, and reclaims if that is due. -/
def afterRequest (s : State β) : State β :=
  match s.policy.afterRequest s.readings s.readings with
  | (policy, none) => { s with policy }
  | (policy, some t) => { s with policy }.tell [.collection t policy.collections]

/-- Hands on the open line of the log. -/
def flushLog (s : State β) : State β :=
  let (output, lines) := s.output.flushLog
  { s with output }.tell (lines.map .log)

end State

/-- A step of a call: it may stop the program, but what it has changed stays changed. -/
abbrev Action (β : Type) := ExceptT Trap (StateM (State β))

namespace Action

/-- Takes the outcome of an operation, with what a failure means for the program. -/
def lift {ε α : Type} (trap : ε → Trap) (r : Except ε α) : Action β α :=
  match r with
  | .ok a => pure a
  | .error e => throw (trap e)

/-- Copies a reference of the program to the host's side. -/
def toHost [Bridge β γ] (op : String) (g : γ) : Action β Value := do
  lift (.bridge op) (Bridge.toHost (← get).bridge g)

/-- Takes over the references that an operation has made. -/
def made {α : Type} (op : String) (r : β → Except BridgeError α × β) : Action β α := do
  let (result, bridge) := r (← get).bridge
  modify fun s => { s with bridge }
  lift (.bridge op) result

/-- Takes over a change to a container. -/
def changed (op : String) (r : β → Except BridgeError β) : Action β Unit := do
  let bridge ← lift (.bridge op) (r (← get).bridge)
  modify fun s => { s with bridge }

/-- Copies a value to the program's side. -/
def toGuest [Bridge β γ] (op : String) (v : Value) : Action β γ :=
  made op fun b => Bridge.toGuest b v

/-- The text that a reference has to lead to. -/
def text [Bridge β γ] (op : String) (g : γ) : Action β String := do
  lift .builtin (Builtin.toText op (← toHost op g))

def memory (op : String) : Action β Memory := do
  match (← get).memory with
  | some m => return m
  | none => throw (.noMemory op)

def readBytes (op : String) (pointer length : Int) : Action β (List UInt8) := do
  let m ← memory op
  match m.read? (unsigned pointer) (unsigned length) with
  | some bytes => return bytes
  | none => throw (.outsideMemory op (unsigned pointer) (unsigned length))

def readText (op : String) (pointer length : Int) : Action β String := do
  match Text.decode? (← readBytes op pointer length) with
  | some s => return s
  | none => throw (.invalidText op)

/-- Writes to a file of the program, and tells the lines of the log. -/
def write (file : Int) (bytes : List UInt8) : Action β (Except Errno Unit) := do
  match (← get).output.write file bytes with
  | .error e => return .error e
  | .ok (output, lines) =>
    modify fun s => { s with output }.tell (lines.map .log)
    return .ok ()

/-- Runs an operation on the database. -/
def withDatabase {α : Type} (r : Store.Database → Except Store.StoreError α × Store.Database) :
    Action β (Except Store.StoreError α) := do
  let (result, database) := r (← get).database
  modify fun s => { s with database }
  return result

/-- Takes over a change to the registry of servers. -/
def register (op : String) (r : Serve.Registry → Except Serve.RegistryError Serve.Registry) :
    Action β Unit := do
  let registry ← lift (.registry op) (r (← get).registry)
  modify fun s => { s with registry }

end Action
end GuestHost.Host
