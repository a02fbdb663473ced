import GuestHost.Proofs.Program.Atomicity
/-!
Where a handler slips out of its request's transaction. A call finds a transaction open unless the last call
that turned it has turned it off. Opening a store does, and none is begun on the new connection; and so does a
statement that fails in such a way that the store gives the transaction up, which nothing begins again. What
is done without one stays when the request fails.
-/
namespace GuestHost

open Host Store

namespace Host.Performed

variable {β γ : Type} [Bridge β γ]

end Host.Performed

namespace Program

open Performed (sheltered fallback)
open Serve (Request)

variable {β γ : Type} [Bridge β γ]

namespace Instance

end Instance

end Program
end GuestHost
