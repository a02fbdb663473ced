import GuestHost.Route.Table
import GuestHost.Serve.Form
import GuestHost.Value.Display
/-!
Requests as values for a handler, and the handler's results as replies.
-/
namespace GuestHost.Serve

def textType : String := "text/plain; charset=utf-8"

def htmlType : String := "text/html; charset=utf-8"

def jsonType : String := "application/json"

/-- The content type that makes a response a redirect. -/
def redirectType : String := "redirect"

def formType : String := "application/x-www-form-urlencoded"

def responseValue (body contentType : String) : Value :=
  .object [("body", .string body), ("contentType", .string contentType)]

def redirectValue (url : String) : Value :=
  .object [("body", .string ""), ("contentType", .string redirectType), ("redirectUrl", .string url)]

inductive Reply where
  | body (text contentType : String)
  | redirect (url : String)
  deriving DecidableEq, Repr

/-- A handler's result that is no reply. -/
inductive BadReply where
  | guestError (message : String)
  | notObject (kind : Kind)
  | missing (name : String)
  | notText (name : String) (kind : Kind)
  deriving DecidableEq, Repr

def BadReply.message : BadReply → String
  | guestError m => "handler returned an error value: " ++ m
  | notObject k => "malformed response: expected object, got " ++ k.name
  | missing name => "malformed response: missing " ++ name
  | notText name k => "malformed response: " ++ name ++ " must be a string, got " ++ k.name

def textMember (members : Members Value) (name : String) : Except BadReply String :=
  match Members.get? name members with
  | some (.string s) => .ok s
  | some v => .error (.notText name v.kind)
  | none => .error (.missing name)

/-- Reads a handler's result. The content type is looked at first, and decides which other member
matters. -/
def interpret (result : Value) : Except BadReply Reply :=
  match result with
  | .object members =>
    if result.isError then
      .error (.guestError (((Members.get? "message" members).map Value.display).getD ""))
    else do
      let contentType ← textMember members "contentType"
      if contentType = redirectType then
        return .redirect (← textMember members "redirectUrl")
      else
        return .body (← textMember members "body") contentType
  | v => .error (.notObject v.kind)

structure Request where
  method : String
  path : String
  query : Option String := none
  contentType : Option String := none
  body : List UInt8 := []

def formMembers (bytes : List UInt8) : Members Value :=
  Members.ofPairs ((Form.decode bytes).map fun p => (p.1, .string p.2))

def isForm (r : Request) : Bool :=
  match r.contentType with
  | some ct => formType.toList.isPrefixOf (Text.trimStartChars ct.toList)
  | none => false

/-- What the handler of a route is called with: path parameters count before query parameters of the
same name. -/
def requestValue (params : List (String × String)) (r : Request) : Value :=
  let query := match r.query with
    | some q => formMembers (Text.encode q)
    | none => []
  let query := Members.overlay query (params.map fun p => (p.1, .string p.2))
  let form := if isForm r then formMembers r.body else []
  .object [("path", .string r.path), ("method", .string r.method), ("query", .object query),
    ("form", .object form)]

end GuestHost.Serve
