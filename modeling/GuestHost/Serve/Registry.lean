import GuestHost.Route.Table
import GuestHost.Serve.Address
/-!
The servers that a guest program sets up while it runs. Asking to listen only leaves a token, which the
host takes once the program's entry point has returned.
-/
namespace GuestHost.Serve

inductive RegistryError where
  | unknownServer (id : Int)
  | alreadyListening
  deriving DecidableEq, Repr

def RegistryError.message : RegistryError → String
  | unknownServer id => "unknown server id " ++ toString id
  | alreadyListening => "listen was already requested in this execution"

/-- The wish to listen. -/
structure Token where
  server : Nat
  address : String
  deriving DecidableEq, Repr

/-- Servers are numbered in the order of their creation. -/
structure Registry where
  servers : List Route.Table := []
  pending : Option Token := none
  deriving DecidableEq, Repr

namespace Registry

def create (r : Registry) : Int × Registry :=
  (r.servers.length, { r with servers := r.servers ++ [{}] })

/-- The place of an existing server. -/
def server (r : Registry) (id : Int) : Except RegistryError Nat :=
  if 0 ≤ id ∧ id < r.servers.length then .ok id.toNat else .error (.unknownServer id)

/-- The routes of a server as they are now. -/
def routesOf (r : Registry) (server : Nat) : Route.Table := r.servers[server]?.getD {}

def addRoute (r : Registry) (id : Int) (method pattern handler : String) :
    Except RegistryError Registry := do
  let i ← r.server id
  return { r with servers := r.servers.modify i fun t => t.add method pattern handler }

def listen (r : Registry) (id : Int) (address : String) : Except RegistryError Registry := do
  let i ← r.server id
  match r.pending with
  | some _ => throw .alreadyListening
  | none => return { r with pending := some ⟨i, normalizeAddress address⟩ }

/-- Hands out the token, which is then gone. The routes stay with the registry, where later additions
show. -/
def takePending (r : Registry) : Option Token × Registry :=
  match r.pending with
  | none => (none, r)
  | some t => (if t.server < r.servers.length then some t else none, { r with pending := none })

end Registry
end GuestHost.Serve
