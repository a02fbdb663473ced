import GuestHost.Config.Basic
import GuestHost.Bridge.HandleTable
import GuestHost.Bridge.NodeHeap
import GuestHost.Program.Session
/-!
Whole runs of a program: shut in, with all its output kept, or as the host's own work.
-/
namespace GuestHost.Program

open Host (Event Options)

/-- A program that its module has been accepted for. -/
def load (p : Option Program) : Except RunError Program :=
  match p with
  | none => .error .load
  | some p => if p.isValid then .ok p else .error .load

/-- What is left of a run whose output is kept. -/
structure Captured where
  stdout : String := ""
  html : String := ""
  exitCode : Int
  error : Option RunError := none

def Captured.ofError (e : RunError) : Captured := { exitCode := 1, error := some e }

/-- Runs the entry with all output kept. Nothing can listen from in here. -/
def captureWith (β : Type) {γ : Type} [Bridge β γ] (p : Program) (o : Options) :
    Captured × List Event :=
  match instantiate β p o with
  | .error e => (.ofError e, [])
  | .ok i =>
    let (r, i) := i.runEntry
    let s := match i.state.registry.pending with
      | some _ => i.state.tell [.warning "sandboxed guest requested a listener; ignoring"]
      | none => i.state
    let (exitCode, error) := match r with
      | .ok code => (code, none)
      | .error e => (1, some e)
    (⟨s.output.stdoutText, s.output.htmlText, exitCode, error⟩, s.events)

/-- What a run leaves besides its code: the bytes that went to standard output, and events. -/
structure Trace where
  stdout : List UInt8 := []
  events : List Event := []

/-- The code of a run, or why there is none. -/
def runCode {β γ : Type} [Bridge β γ] (i : Instance β) : Except RunError Int × Instance β :=
  match i.runEntry with
  | (.error e, i) => (.error e, i)
  | (.ok code, i) =>
    if code ≠ 0 then (.ok code, i)
    else
      match i.intoServer with
      | (none, i) => (.ok code, i)
      | (some (address, _), i) =>
        match Serve.serviceNumber? address with
        | .error e => (.error (.serve e), i)
        | .ok _ => (.ok 0, i)

/-- Runs a program as the host's own work: the store of the settings is opened, the entry is run, and
what has asked to listen is served if it ended well. -/
def runWith (β : Type) {γ : Type} [Bridge β γ] (p : Program) (database : Option String) (o : Options) :
    Except RunError Int × Trace :=
  match instantiate β p o with
  | .error e => (.error e, {})
  | .ok i =>
    let opened : Except RunError Unit × Instance β := match database with
      | none => (.ok (), i)
      | some path => i.openDatabase path
    match opened with
    | (.error e, i) => (.error e, ⟨i.state.output.passed, i.state.events⟩)
    | (.ok (), i) =>
      let (r, i) := runCode i
      (r, ⟨i.state.output.passed, i.state.events⟩)

/-- Runs a program shut in, under the encoding that it asks for. -/
def capture (p : Option Program) (o : Options) : Captured × List Event :=
  match load p with
  | .error e => (.ofError e, [])
  | .ok p =>
    match p.runEncoding with
    | .handle => captureWith HandleTable p o
    | .reference => captureWith NodeHeap p o

/-- Runs a program under some settings. `o` tells what is around the host. -/
def run (p : Option Program) (c : Config) (o : Options) : Except RunError Int × Trace :=
  let o := { o with inherits := true, args := c.args, gc := c.gc }
  match load p with
  | .error e => (.error e, {})
  | .ok p =>
    match p.runEncoding with
    | .handle => runWith HandleTable p c.database o
    | .reference => runWith NodeHeap p c.database o

end GuestHost.Program
