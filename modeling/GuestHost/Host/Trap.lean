import GuestHost.Bridge.Basic
import GuestHost.Host.Output
import GuestHost.Serve.Registry
import GuestHost.Store.Database
import GuestHost.Value.Builtin
/-!
Why a guest program is stopped in the middle of a call. Failures that a program is meant to handle do
not stop it; they come back to it as error values.
-/
namespace GuestHost.Host

inductive Trap where
  | bridge (op : String) (e : BridgeError)
  | builtin (e : Builtin.Error)
  | store (op : String) (e : Store.StoreError)
  | registry (op : String) (e : Serve.RegistryError)
  | nonFinite (op : String) (x : Float)
  | noMemory (op : String)
  | outsideMemory (op : String) (start length : Nat)
  | invalidText (op : String)
  | writeOutside (op : String)
  | rejectedFile (op : String) (file : Int) (errno : Errno)
  /-- The program ends itself with a code. -/
  | exit (code : Int)
  | unreachable

namespace Trap

def message : Trap → String
  | bridge op e => op ++ ": " ++ e.message
  | builtin e => e.message
  | store op e => op ++ ": " ++ e.message
  | registry op e => op ++ ": " ++ e.message
  | nonFinite op x => op ++ ": " ++ Builtin.nonFiniteMessage x
  | noMemory op => op ++ ": guest exports no memory"
  | outsideMemory op start length =>
    op ++ ": range " ++ toString start ++ "+" ++ toString length ++ " outside guest memory"
  | invalidText op => op ++ ": invalid UTF-8"
  | writeOutside op => op ++ ": out of bounds memory access"
  | rejectedFile op file errno =>
    op ++ ": fd " ++ toString file ++ " rejected with errno " ++ toString errno.code
  | exit code => "guest exited with code " ++ toString code
  | unreachable => "wasm trap: wasm `unreachable` instruction executed"

end Trap
end GuestHost.Host
