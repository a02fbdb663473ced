import GuestHost.Host.Perform
import GuestHost.Program.Basic
/-!
Running a function: its steps one after the other, until one stops the program or ends the function.
-/
namespace GuestHost.Program

open Host (Action Argument Call Signature State Trap WordType)

variable {β γ : Type} [Bridge β γ]

/-- An argument as one of the wanted type. References are words where they are numbers, and a word
is widened with its sign. -/
def convert (β : Type) {γ : Type} [Bridge β γ] : WordType → Argument γ → Option (Argument γ)
  | .guest, .guest g => some (.guest g)
  | .guest, .word n => (Bridge.ofNumber? β n).map .guest
  | .word, .word n => some (.word n)
  | .word, .guest g => (Bridge.number? β g).map .word
  | .wide, .wide n => some (.wide n)
  | .wide, .word n => some (.wide (Int64.ofInt n))
  | .wide, .guest g => (Bridge.number? β g).map fun n => .wide (Int64.ofInt n)
  | .real, .real x => some (.real x)
  | _, _ => none

/-- What a function knows while it runs. -/
structure Frame (γ : Type) where
  parameter : Option γ := none
  registers : Array (Option (Argument γ)) := #[]

namespace Frame

def push (f : Frame γ) (a : Option (Argument γ)) : Frame γ :=
  { f with registers := f.registers.push a }

end Frame

/-- What no accepted module contains stops the program. -/
def wanted {α : Type} (a : Option α) : Action β α :=
  match a with
  | some a => pure a
  | none => throw .unreachable

namespace Operand

/-- The argument that an operand is. A text becomes a value in passing. -/
def read (frame : Frame γ) : Operand → Action β (Argument γ)
  | register k => wanted (frame.registers[k]?.getD none)
  | parameter => wanted (frame.parameter.map .guest)
  | text s => do
    let _ ← Action.memory "str_from_utf8"
    return .guest (← Action.toGuest "str_from_utf8" (.string s))
  | raw n => wanted ((Bridge.ofNumber? β n).map .guest)
  | nullReference => wanted ((Bridge.nullReference? β).map .guest)
  | word n => return .word n
  | wide n => return .wide n
  | real x => return .real x

/-- The operand as an argument of the wanted type. -/
def eval (frame : Frame γ) (type : WordType) (o : Operand) : Action β (Argument γ) := do
  wanted (convert β type (← o.read frame))

/-- The operand as a reference. -/
def evalGuest (frame : Frame γ) (o : Operand) : Action β γ := do
  match ← o.eval frame .guest with
  | .guest g => return g
  | _ => throw .unreachable

end Operand

/-- The arguments of a call, read in order. -/
def evalArgs (frame : Frame γ) : List WordType → List Operand → Action β (List (Argument γ))
  | type :: types, o :: rest => do
    let a ← o.eval frame type
    return a :: (← evalArgs frame types rest)
  | [], [] => return []
  | _, _ => throw .unreachable

/-- Makes a call with arguments that have been read. -/
def callWith (module name : String) (args : List (Argument γ)) : Action β (Option (Argument γ)) := do
  (← wanted (Call.of? module name args)).perform

def runCall (frame : Frame γ) (module name : String) (operands : List Operand) :
    Action β (Option (Argument γ)) := do
  let signature ← wanted (Signature.ofName? module name)
  callWith module name (← evalArgs frame signature.params operands)

/-- How a step leaves a function. -/
inductive Flow (γ : Type) where
  | next (frame : Frame γ)
  | returned (result : Option γ)

namespace Step

def run (frame : Frame γ) : Step → Action β (Flow γ)
  | call module name operands => return .next (frame.push (← runCall frame module name operands))
  | unreachable => throw .unreachable
  | returnIf condition result => do
    match ← condition.eval frame .word with
    | .word 0 => return .next (frame.push none)
    | _ =>
      match result with
      | none => return .returned none
      | some o => return .returned (some (← o.evalGuest frame))

end Step

/-- Runs steps to the end of a function, which then has the given result. -/
def runSteps (result : Option Operand) : Frame γ → List Step → Action β (Option γ)
  | frame, [] =>
    match result with
    | none => return none
    | some o => return some (← o.evalGuest frame)
  | frame, s :: rest => do
    match ← s.run frame with
    | .returned g => return g
    | .next frame => runSteps result frame rest

namespace Function

/-- Runs a function that is called with a parameter, or without one. -/
def run (f : Function) (parameter : Option γ) : Action β (Option γ) :=
  runSteps f.result { parameter } f.body

end Function
end GuestHost.Program
