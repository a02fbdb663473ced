import GuestHost.Bridge.Basic
/-!
The calls that a guest program can make, and the names and types under which its module declares them.
-/
namespace GuestHost.Host

/-- The types of what calls take and return. -/
inductive WordType where
  | word | wide | real | guest
  deriving DecidableEq, Repr

structure Signature where
  params : List WordType
  result : Option WordType
  deriving DecidableEq, Repr

/-- Whether references of the program occur in a signature. -/
def Signature.usesGuest (s : Signature) : Bool := s.params.contains .guest || s.result == some .guest

/-- How an engine names a type, under an encoding of references. -/
def WordType.text (e : Encoding) : WordType → String
  | word => "i32"
  | wide => "i64"
  | real => "f64"
  | guest =>
    match e with
    | .handle => "i32"
    | .reference => "externref"

/-- How an engine writes a signature: parts without types are left out. -/
def Signature.text (e : Encoding) (s : Signature) : String :=
  let part (name : String) (types : List WordType) : String :=
    if types.isEmpty then "" else " (" ++ " ".intercalate (name :: types.map (WordType.text e)) ++ ")"
  "(func" ++ part "param" s.params ++ part "result" s.result.toList ++ ")"

inductive Argument (γ : Type) where
  | word (n : Int)
  | wide (n : Int64)
  | real (x : Float)
  | guest (g : γ)

/-- A query, and what is wanted of its rows. -/
inductive SqlCall where
  | exec | query | fetchOne | fetchOptional | execute
  deriving DecidableEq, Repr

/-- Responses that can be made of a text. -/
inductive TextResponse where
  | text | html | redirect
  deriving DecidableEq, Repr

inductive RequestPart where
  | path | method | query | form
  deriving DecidableEq, Repr

def RequestPart.key : RequestPart → String
  | path => "path"
  | method => "method"
  | query => "query"
  | form => "form"

/-- A call with its arguments. Pointers, lengths, indices and file numbers are words. -/
inductive Call (γ : Type) where
  | undefined
  | null
  | ofInteger (n : Int64)
  | ofFloat (x : Float)
  | ofBoolean (n : Int)
  | toInteger (v : γ)
  | toFloat (v : γ)
  | toBoolean (v : γ)
  | kind (v : γ)
  | equal (a b : γ)
  | display (v : γ)
  | isError (v : γ)
  | text (pointer length : Int)
  | intern (pointer length : Int)
  | concat (a b : γ)
  | textEqual (a b : γ)
  | textLength (v : γ)
  | writeText (v : γ) (pointer capacity : Int)
  | newArray (length : Int)
  | arrayGet (a : γ) (index : Int)
  | arraySet (a : γ) (index : Int) (item : γ)
  | arrayLength (a : γ)
  | join (a separator : γ)
  | range (first last : Int64)
  | newObject
  | objectGet (o key : γ)
  | objectSet (o key item : γ)
  | objectKeys (o : γ)
  | objectHas (o key : γ)
  | toJson (v : γ)
  | parseJson (v : γ)
  | decodeJson (v schema : γ)
  | openDatabase (path : γ)
  | registerTables (batch : γ)
  | sql (call : SqlCall) (statement params : γ)
  | createServer
  | addRoute (server : Int) (method pattern handler : γ)
  | listen (server : Int) (address : γ)
  | respond (response : TextResponse) (v : γ)
  | respondJson (v : γ)
  | respondText (response : TextResponse) (pointer length : Int)
  | requestPart (part : RequestPart) (request : γ)
  | writeValue (file : Int) (v : γ)
  | args
  | env (name : γ)
  | collect
  | fileWrite (file buffers count written : Int)
  | exit (code : Int)

/-- The module name of the calls on values, stores, servers and the host. -/
def hostModule : String := "env"

/-- The module name of the calls of the system interface. -/
def systemModule : String := "wasi_snapshot_preview1"

namespace Signature

def hostSignatures : List (String × Signature) :=
  let g := WordType.guest
  let w := WordType.word
  [("val_undefined", ⟨[], some g⟩), ("val_null", ⟨[], some g⟩), ("val_from_i64", ⟨[.wide], some g⟩),
    ("val_from_f64", ⟨[.real], some g⟩), ("val_from_bool", ⟨[w], some g⟩),
    ("val_to_i64", ⟨[g], some .wide⟩), ("val_to_f64", ⟨[g], some .real⟩),
    ("val_to_bool", ⟨[g], some w⟩), ("val_kind", ⟨[g], some w⟩), ("val_eq", ⟨[g, g], some w⟩),
    ("val_to_string", ⟨[g], some g⟩), ("val_is_error", ⟨[g], some w⟩),
    ("str_from_utf8", ⟨[w, w], some g⟩), ("intern_string", ⟨[w, w], some g⟩),
    ("str_concat", ⟨[g, g], some g⟩), ("str_eq", ⟨[g, g], some w⟩), ("str_len", ⟨[g], some w⟩),
    ("str_write", ⟨[g, w, w], some w⟩), ("arr_new", ⟨[w], some g⟩), ("arr_get", ⟨[g, w], some g⟩),
    ("arr_set", ⟨[g, w, g], none⟩), ("arr_len", ⟨[g], some w⟩), ("arr_join", ⟨[g, g], some g⟩),
    ("arr_range", ⟨[.wide, .wide], some g⟩), ("obj_new", ⟨[], some g⟩),
    ("obj_get", ⟨[g, g], some g⟩), ("obj_set", ⟨[g, g, g], none⟩), ("obj_keys", ⟨[g], some g⟩),
    ("obj_has", ⟨[g, g], some w⟩), ("json_stringify", ⟨[g], some g⟩), ("json_parse", ⟨[g], some g⟩),
    ("json_decode", ⟨[g, g], some g⟩), ("db_open", ⟨[g], some g⟩), ("register_tables", ⟨[g], some g⟩),
    ("sql_exec", ⟨[g, g], some g⟩), ("sql_query", ⟨[g, g], some g⟩),
    ("sql_fetch_one", ⟨[g, g], some g⟩), ("sql_fetch_optional", ⟨[g, g], some g⟩),
    ("sql_execute", ⟨[g, g], some g⟩), ("http_create_server", ⟨[], some w⟩),
    ("http_add_route", ⟨[w, g, g, g], none⟩), ("http_listen", ⟨[w, g], none⟩),
    ("http_response_text", ⟨[g], some g⟩), ("http_response_html", ⟨[g], some g⟩),
    ("http_response_json", ⟨[g], some g⟩), ("http_response_redirect", ⟨[g], some g⟩),
    ("http_response_text_str", ⟨[w, w], some g⟩), ("http_response_html_str", ⟨[w, w], some g⟩),
    ("http_response_redirect_str", ⟨[w, w], some g⟩), ("http_get_path", ⟨[g], some g⟩),
    ("http_get_method", ⟨[g], some g⟩), ("http_get_query", ⟨[g], some g⟩),
    ("http_get_form", ⟨[g], some g⟩), ("write_value", ⟨[w, g], none⟩), ("get_args", ⟨[], some g⟩),
    ("get_env", ⟨[g], some g⟩), ("gc", ⟨[], none⟩)]

def systemSignatures : List (String × Signature) :=
  let w := WordType.word
  [("fd_write", ⟨[w, w, w, w], some w⟩), ("proc_exit", ⟨[w], none⟩)]

/-- The signature of a call by the names of its module and itself. -/
def ofName? (module name : String) : Option Signature :=
  if module = hostModule then hostSignatures.lookup name
  else if module = systemModule then systemSignatures.lookup name
  else none

end Signature

namespace Call

variable {γ : Type}

/-- The call of the host module by its name, if the arguments fit. -/
def ofHost? : String → List (Argument γ) → Option (Call γ)
  | "val_undefined", [] => some undefined
  | "val_null", [] => some null
  | "val_from_i64", [.wide n] => some (ofInteger n)
  | "val_from_f64", [.real x] => some (ofFloat x)
  | "val_from_bool", [.word n] => some (ofBoolean n)
  | "val_to_i64", [.guest v] => some (toInteger v)
  | "val_to_f64", [.guest v] => some (toFloat v)
  | "val_to_bool", [.guest v] => some (toBoolean v)
  | "val_kind", [.guest v] => some (kind v)
  | "val_eq", [.guest a, .guest b] => some (equal a b)
  | "val_to_string", [.guest v] => some (display v)
  | "val_is_error", [.guest v] => some (isError v)
  | "str_from_utf8", [.word p, .word n] => some (text p n)
  | "intern_string", [.word p, .word n] => some (intern p n)
  | "str_concat", [.guest a, .guest b] => some (concat a b)
  | "str_eq", [.guest a, .guest b] => some (textEqual a b)
  | "str_len", [.guest v] => some (textLength v)
  | "str_write", [.guest v, .word p, .word n] => some (writeText v p n)
  | "arr_new", [.word n] => some (newArray n)
  | "arr_get", [.guest a, .word i] => some (arrayGet a i)
  | "arr_set", [.guest a, .word i, .guest v] => some (arraySet a i v)
  | "arr_len", [.guest a] => some (arrayLength a)
  | "arr_join", [.guest a, .guest s] => some (join a s)
  | "arr_range", [.wide a, .wide b] => some (range a b)
  | "obj_new", [] => some newObject
  | "obj_get", [.guest o, .guest k] => some (objectGet o k)
  | "obj_set", [.guest o, .guest k, .guest v] => some (objectSet o k v)
  | "obj_keys", [.guest o] => some (objectKeys o)
  | "obj_has", [.guest o, .guest k] => some (objectHas o k)
  | "json_stringify", [.guest v] => some (toJson v)
  | "json_parse", [.guest v] => some (parseJson v)
  | "json_decode", [.guest v, .guest s] => some (decodeJson v s)
  | "db_open", [.guest p] => some (openDatabase p)
  | "register_tables", [.guest b] => some (registerTables b)
  | "sql_exec", [.guest s, .guest p] => some (sql .exec s p)
  | "sql_query", [.guest s, .guest p] => some (sql .query s p)
  | "sql_fetch_one", [.guest s, .guest p] => some (sql .fetchOne s p)
  | "sql_fetch_optional", [.guest s, .guest p] => some (sql .fetchOptional s p)
  | "sql_execute", [.guest s, .guest p] => some (sql .execute s p)
  | "http_create_server", [] => some createServer
  | "http_add_route", [.word s, .guest m, .guest p, .guest h] => some (addRoute s m p h)
  | "http_listen", [.word s, .guest a] => some (listen s a)
  | "http_response_text", [.guest v] => some (respond .text v)
  | "http_response_html", [.guest v] => some (respond .html v)
  | "http_response_json", [.guest v] => some (respondJson v)
  | "http_response_redirect", [.guest v] => some (respond .redirect v)
  | "http_response_text_str", [.word p, .word n] => some (respondText .text p n)
  | "http_response_html_str", [.word p, .word n] => some (respondText .html p n)
  | "http_response_redirect_str", [.word p, .word n] => some (respondText .redirect p n)
  | "http_get_path", [.guest r] => some (requestPart .path r)
  | "http_get_method", [.guest r] => some (requestPart .method r)
  | "http_get_query", [.guest r] => some (requestPart .query r)
  | "http_get_form", [.guest r] => some (requestPart .form r)
  | "write_value", [.word f, .guest v] => some (writeValue f v)
  | "get_args", [] => some args
  | "get_env", [.guest n] => some (env n)
  | "gc", [] => some collect
  | _, _ => none

/-- The call of the system module by its name, if the arguments fit. -/
def ofSystem? : String → List (Argument γ) → Option (Call γ)
  | "fd_write", [.word f, .word b, .word n, .word w] => some (fileWrite f b n w)
  | "proc_exit", [.word c] => some (exit c)
  | _, _ => none

def of? (module name : String) (args : List (Argument γ)) : Option (Call γ) :=
  if module = hostModule then ofHost? name args
  else if module = systemModule then ofSystem? name args
  else none

end Call
end GuestHost.Host
