import GuestHost.Program.Function
/-!
A program in its host: instantiating it, running its entry, and calling what it exports.
-/
namespace GuestHost.Program

open Host (Action Options State Trap)

variable {β γ : Type}

/-- Why a function cannot be called with a value. -/
inductive ExportError where
  | missing (name : String)
  /-- The function takes no parameter. -/
  | noParameter (name : String)
  /-- The function is typed for the other encoding. -/
  | otherEncoding (name : String)
  deriving DecidableEq, Repr

namespace ExportError

/-- What is wrong, without the reason. -/
def summary : ExportError → String
  | missing name => "failed to find function export `" ++ name ++ "`"
  | noParameter name => "failed to convert function `" ++ name ++ "` to given type"
  | otherEncoding name => "failed to convert function `" ++ name ++ "` to given type"

def message : ExportError → String
  | missing name => summary (missing name)
  | noParameter name =>
    summary (noParameter name) ++ ": type mismatch with parameters: expected 1 types, found 0"
  | otherEncoding name =>
    summary (otherEncoding name) ++ ": type mismatch: expected (ref null extern), found i32"

end ExportError

/-- Why a call from outside gives no value. -/
inductive CallError where
  | noExport (e : ExportError)
  | argument (e : BridgeError)
  | trapped (t : Trap)
  | result (e : BridgeError)

inductive RunError where
  | load
  | unknownImport (module name : String)
  /-- An import of another type than the host call that it names, and the type of that. -/
  | otherImportType (module name found : String)
  | dataOutside
  | openDatabase (e : Store.StoreError)
  | noEntry
  | entryTrapped (t : Trap)
  | call (e : CallError)
  | serve (e : Serve.BindError)

namespace RunError

/-- The stage at which a run failed. -/
def context : RunError → String
  | load => "run_module::load"
  | unknownImport _ _ => "run_module::instantiate"
  | otherImportType _ _ _ => "run_module::instantiate"
  | dataOutside => "run_module::instantiate"
  | openDatabase _ => "run_module::open_database"
  | noEntry => "run_module::get_entry"
  | entryTrapped _ => "run_module::call_entry"
  | call (.noExport _) => "call::get_func"
  | call (.argument _) => "call::argument"
  | call (.trapped _) => "call::invoke"
  | call (.result _) => "call::result"
  | serve _ => "run_module::serve"

/-- Modules that cannot be loaded are not told what is wrong with them. -/
def message : RunError → String
  | load => ""
  | unknownImport module name =>
    "unknown import: `" ++ module ++ "::" ++ name ++ "` has not been defined"
  | otherImportType module name found =>
    "incompatible import type for `" ++ module ++ "::" ++ name ++
      "`: types incompatible: expected type `(func)`, found type `" ++ found ++ "`"
  | dataOutside => "wasm trap: out of bounds memory access"
  | openDatabase e => e.message
  | noEntry => "no `_start` or `main` export"
  | entryTrapped t => t.message
  | call (.noExport e) => e.message
  | call (.argument e) => e.message
  | call (.trapped t) => t.message
  | call (.result e) => e.message
  | serve e => e.message

/-- Stage and message in one line. -/
def text (e : RunError) : String :=
  "[" ++ e.context ++ "]" ++ (if e.message = "" then "" else " " ++ e.message)

end RunError

/-- A program whose imports are met, and the state of its host. -/
structure Instance (β : Type) where
  program : Program
  state : State β

namespace Instance

/-- Runs an action of the host. -/
def act {α : Type} (i : Instance β) (a : Action β α) : Except Trap α × Instance β :=
  let (result, state) := a.run.run i.state
  (result, { i with state })

def mapState (i : Instance β) (f : State β → State β) : Instance β := { i with state := f i.state }

/-- Takes over what an operation leaves of the database. -/
def onDatabase {α : Type} (i : Instance β)
    (r : Store.Database → Except Store.StoreError α × Store.Database) :
    Except Store.StoreError α × Instance β :=
  let (result, database) := r i.state.database
  (result, i.mapState fun s => { s with database })

/-- Takes over the references that an operation on the bridge has made. -/
def onBridge {α : Type} (i : Instance β) (r : β → Except BridgeError α × β) :
    Except BridgeError α × Instance β :=
  let (result, bridge) := r i.state.bridge
  (result, i.mapState fun s => { s with bridge })

variable [Bridge β γ]

/-- Opens a store before the program starts. -/
def openDatabase (i : Instance β) (path : String) : Except RunError Unit × Instance β :=
  let (r, i) := i.onDatabase fun db => db.opened path
  (r.mapError .openDatabase, i)

/-- Runs the entry. A program that ends itself has not failed. In any case the open line of the log is
told, and a pass of the collector follows. -/
def runEntry (i : Instance β) : Except RunError Int × Instance β :=
  match i.program.entry? with
  | none => (.error .noEntry, i)
  | some f =>
    let (r, i) := i.act (f.run none)
    let i := i.mapState fun s => s.flushLog.collect .entryReturned
    match r with
    | .ok _ => (.ok (i.state.exitCode.getD 0), i)
    | .error (.exit code) => (.ok code, i)
    | .error t => (.error (.entryTrapped t), i)

/-- The exported handler of a name. -/
def handler (i : Instance β) (name : String) : Except ExportError Function :=
  match i.program.function? name with
  | none => .error (.missing name)
  | some f =>
    match f.kind with
    | .start => .error (.noParameter name)
    | .handler =>
      if i.program.encoding = Bridge.encoding β then .ok f else .error (.otherEncoding name)

/-- Calls an exported handler with a host value. -/
def call (i : Instance β) (name : String) (arg : Value) : Except CallError Value × Instance β :=
  match i.handler name with
  | .error e => (.error (.noExport e), i)
  | .ok f =>
    match i.onBridge fun b => Bridge.toGuest b arg with
    | (.error e, i) => (.error (.argument e), i)
    | (.ok g, i) =>
      match i.act (f.run (some g)) with
      | (.error t, i) => (.error (.trapped t), i)
      | (.ok none, i) => (.error (.trapped .unreachable), i)
      | (.ok (some g), i) => ((Bridge.toHost i.state.bridge g).mapError .result, i)

end Instance

/-- The memory of a program before it starts, unless its data do not fit. -/
def initialMemory? (p : Program) : Option Host.Memory :=
  p.data.foldlM (fun m d => m.write? d.1 d.2) (.zeroed memorySize)

/-- The first import that no host function meets. -/
def unknownImport? (p : Program) : Option (String × String) :=
  p.imports.find? fun i => (Host.Signature.ofName? i.1 i.2).isNone

/-- The first import that names a host call of another type, and the type of that. What the functions of
the program use is declared with the type of the host, all else without parameters and results. -/
def otherImportType? (e : Encoding) (p : Program) : Option ((String × String) × String) :=
  p.extraImports.findSome? fun i =>
    if i ∈ p.usedImports then none
    else (Host.Signature.ofName? i.1 i.2).bind fun s =>
      if s = ⟨[], none⟩ then none else some (i, s.text e)

/-- Puts a program into a new host. All imports are looked for before their types are compared. -/
def instantiate (β : Type) {γ : Type} [Bridge β γ] (p : Program) (o : Options) :
    Except RunError (Instance β) :=
  match p.unknownImport?, p.otherImportType? (Bridge.encoding β), p.initialMemory? with
  | some (module, name), _, _ => .error (.unknownImport module name)
  | none, some ((module, name), found), _ => .error (.otherImportType module name found)
  | none, none, none => .error .dataOutside
  | none, none, some m => .ok ⟨p, .start o (if p.exportsMemory then some m else none)⟩

end GuestHost.Program
