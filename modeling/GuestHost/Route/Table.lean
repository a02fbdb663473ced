import GuestHost.Route.Pattern
import GuestHost.Text.Blank
/-!
Route tables. Each method has its own patterns, and the wildcard has patterns for all methods that find
nothing in their own. Which route answers depends on the set of routes alone.
-/
namespace GuestHost.Route

inductive MethodKey where
  | exact (name : String)
  | any
  deriving DecidableEq, Repr

namespace MethodKey

/-- `*` and `ANY` are the wildcard; blanks around a name and the case of its letters do not count. -/
def parse (method : String) : MethodKey :=
  let name := Text.asciiUpper (Text.trim method)
  if name = "*" ∨ name = "ANY" then any else exact name

def text : MethodKey → String
  | exact name => name
  | any => "*"

end MethodKey

structure Entry where
  method : MethodKey
  pattern : String
  handler : String
  deriving DecidableEq, Repr

/-- What answers a request: a handler, and the parts of the path that its pattern names. -/
structure Match where
  handler : String
  pattern : String
  params : List (String × String)
  deriving DecidableEq, Repr

/-- The routes of a server, one for each method and pattern. -/
structure Table where
  entries : List Entry := []
  deriving DecidableEq, Repr

namespace Table

/-- Replaces the route of the same method and pattern, or adds one. -/
def put (e : Entry) : List Entry → List Entry
  | [] => [e]
  | d :: rest =>
    if d.method = e.method ∧ d.pattern = e.pattern then e :: rest else d :: put e rest

def add (t : Table) (method pattern handler : String) : Table :=
  ⟨put ⟨MethodKey.parse method, pattern, handler⟩ t.entries⟩

def size (t : Table) : Nat := t.entries.length

def isEmpty (t : Table) : Bool := t.entries.isEmpty

/-- The routes of one method. -/
def under (t : Table) (key : MethodKey) : List Entry := t.entries.filter fun e => e.method = key

/-- The order of preference between two patterns that both fit: more literals, then more bytes, then
the smaller text. -/
def prefers (p q : String) : Bool :=
  if literalCount p ≠ literalCount q then literalCount q < literalCount p
  else if p.utf8ByteSize ≠ q.utf8ByteSize then q.utf8ByteSize < p.utf8ByteSize
  else p < q

/-- Keeps the preferred one of two matches. -/
def choose (best : Option Match) (m : Match) : Option Match :=
  match best with
  | none => some m
  | some b => if prefers m.pattern b.pattern then some m else some b

def candidates (entries : List Entry) (path : String) : List Match :=
  entries.filterMap fun e =>
    if hasParams e.pattern then (bind e.pattern path).map fun ps => ⟨e.handler, e.pattern, ps⟩
    else none

/-- A pattern that is the path itself wins and binds nothing; otherwise the preferred pattern with
parameters that fits. -/
def resolveAmong (entries : List Entry) (path : String) : Option Match :=
  match entries.find? fun e => e.pattern = path with
  | some e => some ⟨e.handler, path, []⟩
  | none => (candidates entries path).foldl choose none

/-- The method's own routes come first, then those for all methods. -/
def resolve (t : Table) (method path : String) : Option Match :=
  match MethodKey.parse method with
  | .any => resolveAmong (t.under .any) path
  | key =>
    match resolveAmong (t.under key) path with
    | some m => some m
    | none => resolveAmong (t.under .any) path

/-- Methods, patterns and handlers in ascending order. -/
def routes (t : Table) : List (String × String × String) :=
  (t.entries.map fun e => (e.method.text, e.pattern, e.handler)).mergeSort fun a b =>
    if a.1 ≠ b.1 then decide (a.1 < b.1)
    else if a.2.1 ≠ b.2.1 then decide (a.2.1 < b.2.1)
    else decide (a.2.2 ≤ b.2.2)

end Table
end GuestHost.Route
