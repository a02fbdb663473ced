import GuestHost.Bridge.Basic
/-!
What passes between a guest program and a bridge, call by call: every exchange ends with an outcome and a
bridge, and a sequence of them leaves a log.
-/
namespace GuestHost

/-- What can be asked of a bridge that makes, changes or gives out references. -/
inductive Exchange (γ : Type) where
  | copyIn (v : Value)
  | newArray (length : Nat)
  | newObject
  | arrayGet (a : γ) (index : Nat)
  | arraySet (a : γ) (index : Nat) (item : γ)
  | objectGet (o : γ) (key : String)
  | objectSet (o : γ) (key : String) (item : γ)
  | intern (pointer length : Nat) (text : String)

namespace Exchange

/-- A failure, or a success that may come with a reference. -/
abbrev Result (γ : Type) := Except BridgeError (Option γ)

/-- The reference that an outcome comes with. -/
def Result.given {γ : Type} : Result γ → List γ
  | .ok (some g) => [g]
  | _ => []

theorem Result.mem_given_iff {γ : Type} {o : Result γ} {g : γ} :
    g ∈ o.given ↔ o = .ok (some g) := by
  rcases o with _ | _ | g' <;> simp [Result.given, eq_comm]

variable {β γ : Type}

/-- The references that an exchange is made with. -/
def references : Exchange γ → List γ
  | arrayGet a _ => [a]
  | arraySet a _ item => [a, item]
  | objectGet o _ => [o]
  | objectSet o _ item => [o, item]
  | _ => []

/-- The container that an exchange is meant to change. -/
def target? : Exchange γ → Option γ
  | arraySet a _ _ => some a
  | objectSet o _ _ => some o
  | _ => none

/-- A reference that is made, in the bridge that is left in any case. -/
def made (r : Except BridgeError γ × β) : Result γ × β := (r.1.map some, r.2)

theorem made_eq_iff {r : Except BridgeError γ × β} {g : γ} {b : β} :
    made r = (.ok (some g), b) ↔ r = (.ok g, b) := by
  rcases r with ⟨_ | g', b'⟩ <;> simp [made, Except.map]

theorem mem_given_made {r : Except BridgeError γ × β} {g : γ} :
    g ∈ (made r).1.given ↔ r.1 = .ok g := by
  rcases r with ⟨_ | g', b'⟩ <;> simp [made, Except.map, Result.given, eq_comm]

/-- A change that leaves the bridge alone if it fails. -/
def changed (b : β) : Except BridgeError β → Result γ × β
  | .ok b' => (.ok none, b')
  | .error e => (.error e, b)

def perform [Bridge β γ] (b : β) : Exchange γ → Result γ × β
  | copyIn v => made (Bridge.toGuest b v)
  | newArray length => made (Bridge.newArray b length)
  | newObject => made (Bridge.newObject b)
  | arrayGet a index => ((Bridge.arrayGet b a index).map some, b)
  | arraySet a index item => changed b (Bridge.arraySet b a index item)
  | objectGet o key => (Bridge.objectGet b o key, b)
  | objectSet o key item => changed b (Bridge.objectSet b o key item)
  | intern pointer length text => made (Bridge.intern b pointer length text)

/-- Makes the exchanges one after the other, whatever becomes of each. -/
def run [Bridge β γ] (b : β) : List (Exchange γ) → List (Exchange γ × Result γ) × β
  | [] => ([], b)
  | e :: rest =>
    ((e, (perform b e).1) :: (run (perform b e).2 rest).1, (run (perform b e).2 rest).2)

end Exchange

/-- The states of a bridge that a program can bring about, with the references that it was given on the
way. It makes its exchanges with these, and with what it has for free. -/
inductive Reached {β γ : Type} [Bridge β γ] (free : γ → Prop) : β → List γ → Prop where
  | start : Reached free Bridge.start [Bridge.undefined β]
  | step {b : β} {held : List γ} (h : Reached free b held) (e : Exchange γ)
    (he : ∀ g ∈ e.references, g ∈ held ∨ free g) :
    Reached free (e.perform b).2 ((e.perform b).1.given ++ held)

end GuestHost
