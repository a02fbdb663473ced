import GuestHost.Program.Instance
import GuestHost.Serve.Response
/-!
Serving requests with a program. Each request runs in one transaction, which is given up if anything
about the request fails.
-/
namespace GuestHost.Program

open Serve (BadReply Outcome Reply Request)

/-- Why a request has no reply. The world is told, but not who asked. -/
inductive HandlerFailure where
  | noExport (e : ExportError) (name : String)
  | trapped (t : Host.Trap)
  | badReply (e : BadReply)
  | bridge (e : BridgeError)
  | transaction (e : Store.StoreError)

namespace HandlerFailure

def message : HandlerFailure → String
  | noExport e name => "handler export `" ++ name ++ "` unavailable: " ++ e.summary
  | trapped t => "handler trapped: " ++ t.message
  | badReply e => e.message
  | bridge e => "bridge: " ++ e.message
  | transaction e => "transaction: " ++ e.message

def ofCall (name : String) : CallError → HandlerFailure
  | .noExport e => noExport e name
  | .argument e => bridge e
  | .trapped t => trapped t
  | .result e => bridge e

end HandlerFailure

variable {β γ : Type} [Bridge β γ]

namespace Instance

/-- Calls the handler of a route, reads its reply, and keeps what it has stored. -/
def answer (i : Instance β) (m : Route.Match) (r : Request) :
    Except HandlerFailure Reply × Instance β :=
  match i.call m.handler (Serve.requestValue m.params r) with
  | (.error e, i) => (.error (.ofCall m.handler e), i)
  | (.ok v, i) =>
    match Serve.interpret v with
    | .error e => (.error (.badReply e), i)
    | .ok reply =>
      match i.onDatabase Store.Database.commit with
      | (.error e, i) => (.error (.transaction e), i)
      | (.ok (), i) => (.ok reply, i)

/-- Gives up the open transaction. -/
def abandon (i : Instance β) : Instance β :=
  match i.onDatabase Store.Database.rollback with
  | (.ok (), i) => i
  | (.error _, i) => i.mapState fun s => s.tell [.warning "rollback failed"]

/-- Serves one request in one transaction. -/
def invoke (i : Instance β) (m : Route.Match) (r : Request) :
    Except HandlerFailure Reply × Instance β :=
  match i.onDatabase Store.Database.begin with
  | (.error e, i) => (.error (.transaction e), i)
  | (.ok (), i) =>
    match i.answer m r with
    | (.ok reply, i) => (.ok reply, i.mapState Host.State.afterRequest)
    | (.error f, i) => (.error f, i.abandon)

end Instance

/-- A program that listens, and the server among its own whose routes count. -/
structure Dispatcher (β : Type) where
  guest : Instance β
  server : Nat

namespace Dispatcher

/-- The routes as they are now; handlers may add to them. -/
def routes (d : Dispatcher β) : Route.Table := d.guest.state.registry.routesOf d.server

/-- Finds the route of a request. -/
def resolve (d : Dispatcher β) (r : Request) : Option Route.Match := d.routes.resolve r.method r.path

/-- Serves a request whose route has been found. -/
def serve (d : Dispatcher β) (m : Route.Match) (r : Request) : Outcome × Dispatcher β :=
  match d.guest.invoke m r with
  | (.ok reply, guest) => (.reply reply, { d with guest })
  | (.error f, guest) =>
    let told := guest.mapState fun s => s.tell [.failure m.handler r.method r.path f.message]
    (.failed, { d with guest := told })

/-- Finds the route of a request and serves it. -/
def handle (d : Dispatcher β) (r : Request) : Outcome × Dispatcher β :=
  match d.resolve r with
  | none => (.notFound, d)
  | some m => d.serve m r

end Dispatcher

/-- Takes the wish to listen, if the program has left one. -/
def Instance.intoServer (i : Instance β) : Option (String × Dispatcher β) × Instance β :=
  let (token, registry) := i.state.registry.takePending
  let i := i.mapState fun s => { s with registry }
  (token.map fun t => (t.address, ⟨i, t.server⟩), i)

end GuestHost.Program
