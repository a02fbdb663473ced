import GuestHost.Host.Call
/-!
Guest programs. A function is a sequence of calls to the host; what a call returns is kept in a register
of the number of its step.
-/
namespace GuestHost

open Host (Signature)

namespace Program

inductive Operand where
  | register (step : Nat)
  /-- The value that the function has been called with. -/
  | parameter
  /-- A text of the program's memory, made a value on the spot. -/
  | text (s : String)
  /-- A number that is taken for a reference. -/
  | raw (n : Int)
  | nullReference
  | word (n : Int)
  | wide (n : Int64)
  | real (x : Float)

inductive Step where
  | call (module name : String) (args : List Operand)
  | unreachable
  /-- Ends the function if the condition is not zero, with a result if the function has one. -/
  | returnIf (condition : Operand) (result : Option Operand)

/-- A function for an entry takes and returns nothing, one for a handler a value each. -/
inductive FunctionKind where
  | start | handler
  deriving DecidableEq, Repr

structure Function where
  name : String
  kind : FunctionKind
  body : List Step
  /-- What a handler returns at the end of its body. -/
  result : Option Operand := none

end Program

/-- A program: functions, all of them exported, and what its memory holds at the start. -/
structure Program where
  /-- The encoding that its handlers are typed for. -/
  encoding : Encoding := .handle
  functions : List Program.Function := []
  data : List (Nat × List UInt8) := []
  /-- Imports that it declares, without parameters and results, and never calls. -/
  extraImports : List (String × String) := []
  exportsMemory : Bool := true

namespace Program

def memorySize : Nat := 131072

def Operand.isText : Operand → Bool
  | text _ => true
  | _ => false

def Step.operands : Step → List Operand
  | call _ _ args => args
  | unreachable => []
  | returnIf c r => c :: r.toList

/-- The call that a step makes, by module and name. -/
def Step.import? : Step → Option (String × String)
  | call module name _ => some (module, name)
  | _ => none

def Function.operands (f : Function) : List Operand := f.body.flatMap Step.operands ++ f.result.toList

/-- The call that makes texts of memory into values. -/
def textImport : String × String := (Host.hostModule, "str_from_utf8")

/-- The imports that the functions of a program use. -/
def usedImports (p : Program) : List (String × String) :=
  let called := p.functions.flatMap fun f => f.body.filterMap Step.import?
  if p.functions.any fun f => f.operands.any Operand.isText then called ++ [textImport] else called

/-- All imports that a program declares. -/
def imports (p : Program) : List (String × String) := p.usedImports ++ p.extraImports

/-- Whether a host call takes or returns references. -/
def usesGuest (i : String × String) : Bool :=
  i.1 == Host.hostModule && ((Signature.ofName? i.1 i.2).map Signature.usesGuest).getD false

/-- The encoding under which a program runs. One that declares no references of the engine is run with
handles, whatever its handlers are typed for. -/
def runEncoding (p : Program) : Encoding :=
  if p.encoding = .reference && p.usedImports.any usesGuest then .reference else .handle

/-- The names that a program exports. -/
def exports (p : Program) : List String :=
  (if p.exportsMemory then ["memory"] else []) ++ p.functions.map Function.name

def function? (p : Program) (name : String) : Option Function :=
  p.functions.find? fun f => f.name = name

/-- The function to start with. -/
def entry? (p : Program) : Option Function :=
  ["_start", "main"].findSome? fun name => (p.function? name).filter fun f => f.kind = .start

/-- The first eight bytes of a module. -/
def header : List UInt8 := [0x00, 0x61, 0x73, 0x6d, 0x01, 0x00, 0x00, 0x00]

/-- The program of a module that is nothing but its header; other bytes are no module. -/
def ofBytes? (bytes : List UInt8) : Option Program :=
  if bytes = header then some { exportsMemory := false } else none

/-- Whether a module of this program is accepted: no two exports may have one name. -/
def isValid (p : Program) : Bool := decide p.exports.Nodup

end Program
end GuestHost
