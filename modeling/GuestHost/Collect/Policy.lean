/-!
When to reclaim the references that guest programs have dropped. Served requests, growth of the heap and
elapsed time each have a threshold; reaching any of them calls for a pass, which resets all three.
-/
namespace GuestHost.Collect

structure Thresholds where
  requests : Nat := 100
  heapGrowth : Nat := 64 * 1024 * 1024
  intervalSeconds : Nat := 30
  deriving DecidableEq, Repr

inductive Trigger where
  | requests | heapGrowth | elapsed | entryReturned | explicit
  deriving DecidableEq, Repr

def Trigger.text : Trigger → String
  | requests => "request count"
  | heapGrowth => "heap growth"
  | elapsed => "elapsed time"
  | entryReturned => "entry point returned"
  | explicit => "guest request"

/-- What the host measures at one moment: its heap, if it can, and the seconds of its clock. -/
structure Readings where
  heap : Option Nat := none
  seconds : Nat := 0
  deriving DecidableEq, Repr

structure Policy where
  thresholds : Thresholds
  /-- Requests served since the last pass. -/
  served : Nat := 0
  /-- The heap at the last pass. -/
  baseline : Option Nat
  /-- The clock at the last pass. -/
  last : Nat
  /-- Passes so far, counted exactly as long as there are fewer than 2^64. -/
  collections : Nat := 0
  deriving DecidableEq, Repr

namespace Policy

def start (thresholds : Thresholds) (now : Readings) : Policy where
  thresholds := thresholds
  baseline := now.heap
  last := now.seconds

def noteRequests (p : Policy) (count : Nat) : Policy := { p with served := p.served + count }

def noteRequest (p : Policy) : Policy := p.noteRequests 1

/-- Whether the heap has grown enough. A heap that was or is unknown has not. -/
def heapGrown (p : Policy) (now : Readings) : Bool :=
  match p.baseline, now.heap with
  | some base, some heap => p.thresholds.heapGrowth ≤ heap - base
  | _, _ => false

/-- The first threshold that has been reached. -/
def due (p : Policy) (now : Readings) : Option Trigger :=
  if p.thresholds.requests ≤ p.served then some .requests
  else if p.heapGrown now then some .heapGrowth
  else if p.thresholds.intervalSeconds ≤ now.seconds - p.last then some .elapsed
  else none

/-- The policy after a pass. -/
def collected (p : Policy) (now : Readings) : Policy :=
  { p with served := 0, baseline := now.heap, last := now.seconds, collections := p.collections + 1 }

/-- Counts a served request, and passes if that is due. The pass takes readings of its own. -/
def afterRequest (p : Policy) (atCheck atPass : Readings) : Policy × Option Trigger :=
  let p := p.noteRequest
  match p.due atCheck with
  | some t => (p.collected atPass, some t)
  | none => (p, none)

@[simp] theorem served_collected (p : Policy) (now : Readings) : (p.collected now).served = 0 := rfl

@[simp] theorem collections_collected (p : Policy) (now : Readings) :
    (p.collected now).collections = p.collections + 1 := rfl

end Policy
end GuestHost.Collect
