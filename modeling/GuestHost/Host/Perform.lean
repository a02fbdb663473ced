import GuestHost.Host.Call
import GuestHost.Host.State
import GuestHost.Serve.Message
/-!
What each call does. The arguments of a call are read in a fixed order, and the first that cannot be
read stops the program.
-/
namespace GuestHost.Host

variable {β γ : Type} [Bridge β γ]

namespace Action

def ofBuiltin {α : Type} (r : Except Builtin.Error α) : Action β α := lift .builtin r

/-- A truth value as the word that stands for it. -/
def truth (b : Bool) : Argument γ := .word (if b then 1 else 0)

/-- A count as a word, the greatest there is if it does not fit. -/
def countWord (n : Nat) : Argument γ := .word (min n 0x7FFFFFFF : Nat)

/-- The slot of an array that an index names. -/
def indexOf (index : Int) : Int64 := Int64.ofInt index

/-- A member of an object, or undefined if there is none. -/
def field (op : String) (o : γ) (key : String) : Action β γ := do
  match ← lift (.bridge op) (Bridge.objectGet (← get).bridge o key) with
  | some g => return g
  | none => return Bridge.undefined β

/-- The value that stands for the result of a store operation, unless its failure stops the program. -/
def storeResult (op : String) (stops : Store.StoreError → Bool) (r : Except Store.StoreError Value) :
    Action β Value :=
  match r with
  | .ok v => pure v
  | .error e => if stops e then throw (.store op e) else pure (.error e.message none)

def runSql (c : SqlCall) (db : Store.Database) (sql : String) (params : Value) :
    Except Store.StoreError Value × Store.Database :=
  match c with
  | .exec => db.exec sql params
  | .query => db.query sql params
  | .fetchOne => db.fetchOne sql params
  | .fetchOptional => db.fetchOptional sql params
  | .execute => db.execute sql params

end Action

def SqlCall.name : SqlCall → String
  | exec => "sql_exec"
  | query => "sql_query"
  | fetchOne => "sql_fetch_one"
  | fetchOptional => "sql_fetch_optional"
  | execute => "sql_execute"

def TextResponse.name : TextResponse → String
  | text => "http_response_text"
  | html => "http_response_html"
  | redirect => "http_response_redirect"

def TextResponse.value (text : String) : TextResponse → Value
  | .text => Serve.responseValue text Serve.textType
  | .html => Serve.responseValue text Serve.htmlType
  | .redirect => Serve.redirectValue text

def RequestPart.name (p : RequestPart) : String := "http_get_" ++ p.key

/-- Whether a failed registration stops the program. -/
def stopsRegistration (e : Store.StoreError) : Bool :=
  match e with
  | .batch _ => true
  | e => e.isFatal

namespace Call

open Host.Action

/-- The calls that make values of numbers and numbers of values. -/
def performValue : Call γ → Action β (Option (Argument γ))
  | undefined => return some (.guest (Bridge.undefined β))
  | null => return some (.guest (← toGuest "val_null" .null))
  | ofInteger n => return some (.guest (← toGuest "val_from_i64" (.integer n)))
  | ofFloat x => return some (.guest (← toGuest "val_from_f64" (.float x)))
  | ofBoolean n => return some (.guest (← toGuest "val_from_bool" (.boolean (n != 0))))
  | toInteger v => do
    let v ← toHost "val_to_i64" v
    return some (.wide (← ofBuiltin (Builtin.toInt64 "val_to_i64" v)))
  | toFloat v => do
    let v ← toHost "val_to_f64" v
    return some (.real (← ofBuiltin (Builtin.toFloat "val_to_f64" v)))
  | toBoolean v => do
    let v ← toHost "val_to_bool" v
    return some (truth (← ofBuiltin (Builtin.toBool "val_to_bool" v)))
  | kind v => do
    let k ← lift (.bridge "val_kind") (Bridge.kind (← get).bridge v)
    return some (.word k.code)
  | equal a b => do
    let a ← toHost "val_eq" a
    let b ← toHost "val_eq" b
    return some (truth (a.equal b))
  | display v => do
    let v ← toHost "val_to_string" v
    return some (.guest (← toGuest "val_to_string" (.string v.display)))
  | isError v => do
    let v ← toHost "val_is_error" v
    return some (truth v.isError)
  | _ => return none

/-- The calls on texts. -/
def performText : Call γ → Action β (Option (Argument γ))
  | text p n => do
    let s ← readText "str_from_utf8" p n
    return some (.guest (← toGuest "str_from_utf8" (.string s)))
  | intern p n => do
    let s ← readText "intern_string" p n
    let g ← made "intern_string" fun b => Bridge.intern b (unsigned p) (unsigned n) s
    return some (.guest g)
  | concat a b => do
    let a ← toHost "str_concat" a
    let b ← toHost "str_concat" b
    return some (.guest (← toGuest "str_concat" (Builtin.concat a b)))
  | textEqual a b => do
    let a ← toHost "str_eq" a
    let b ← toHost "str_eq" b
    return some (truth (← ofBuiltin (Builtin.textEq a b)))
  | textLength v => do
    let v ← toHost "str_len" v
    let n ← ofBuiltin (Builtin.textLength v)
    return some (countWord n.toInt.toNat)
  | writeText v p capacity => do
    let s ← Action.text "str_write" v
    let bytes := Text.encode (Text.utf8Prefix s capacity)
    let m ← memory "str_write"
    match m.write? (unsigned p) bytes with
    | none => throw (.writeOutside "str_write")
    | some m =>
      modify fun st => { st with memory := some m }
      return some (countWord bytes.length)
  | _ => return none

/-- The calls on arrays. -/
def performArray : Call γ → Action β (Option (Argument γ))
  | newArray length => do
    let n ← ofBuiltin (Builtin.arrayLength "arr_new" (indexOf length))
    return some (.guest (← made "arr_new" fun b => Bridge.newArray b n))
  | arrayGet a index => do
    let n ← lift (.bridge "arr_get") (Bridge.arrayLength (← get).bridge a)
    match Builtin.slot? n (indexOf index) with
    | some i => return some (.guest (← lift (.bridge "arr_get") (Bridge.arrayGet (← get).bridge a i)))
    | none => return some (.guest (Bridge.undefined β))
  | arraySet a index item => do
    let n ← lift (.bridge "arr_set") (Bridge.arrayLength (← get).bridge a)
    let i ← ofBuiltin (Builtin.slot "arr_set" n (indexOf index))
    changed "arr_set" fun b => Bridge.arraySet b a i item
    return none
  | arrayLength a => do
    let n ← lift (.bridge "arr_len") (Bridge.arrayLength (← get).bridge a)
    return some (countWord n)
  | join a s => do
    let a ← toHost "arr_join" a
    let s ← toHost "arr_join" s
    let joined ← ofBuiltin (Builtin.join a s)
    return some (.guest (← toGuest "arr_join" joined))
  | range first last => do
    let v ← ofBuiltin (Builtin.range first last)
    return some (.guest (← toGuest "arr_range" v))
  | _ => return none

/-- The calls on objects. -/
def performObject : Call γ → Action β (Option (Argument γ))
  | newObject => return some (.guest (← made "obj_new" Bridge.newObject))
  | objectGet o key => do
    let key ← Action.text "obj_get" key
    return some (.guest (← field "obj_get" o key))
  | objectSet o key item => do
    let key ← Action.text "obj_set" key
    changed "obj_set" fun b => Bridge.objectSet b o key item
    return none
  | objectKeys o => do
    let keys ← lift (.bridge "obj_keys") (Bridge.objectKeys (← get).bridge o)
    return some (.guest (← toGuest "obj_keys" (Builtin.keysValue keys)))
  | objectHas o key => do
    let key ← Action.text "obj_has" key
    let found ← lift (.bridge "obj_has") (Bridge.objectGet (← get).bridge o key)
    return some (truth found.isSome)
  | _ => return none

/-- The calls on JSON text. -/
def performJson : Call γ → Action β (Option (Argument γ))
  | toJson v => do
    let v ← toHost "json_stringify" v
    let s ← ofBuiltin (Builtin.toJson v)
    return some (.guest (← toGuest "json_stringify" s))
  | parseJson v => do
    let v ← toHost "json_parse" v
    let parsed ← ofBuiltin (Builtin.fromJson v)
    return some (.guest (← toGuest "json_parse" parsed))
  | decodeJson v schema => do
    let v ← toHost "json_decode" v
    let schema ← toHost "json_decode" schema
    let decoded ← ofBuiltin (Builtin.decodeJson v schema)
    return some (.guest (← toGuest "json_decode" decoded))
  | _ => return none

/-- The calls on the database. Failures come back to the program as error values; only what makes its
declarations useless stops it. -/
def performStore : Call γ → Action β (Option (Argument γ))
  | openDatabase path => do
    let path ← Action.text "db_open" path
    let r ← withDatabase fun db => db.opened path
    let v ← storeResult "db_open" Store.StoreError.isFatal (r.map fun _ => .null)
    return some (.guest (← toGuest "db_open" v))
  | registerTables batch => do
    let batch ← Action.text "register_tables" batch
    let r ← withDatabase fun db => db.register batch
    let v ← storeResult "register_tables" stopsRegistration (r.map fun _ => .null)
    return some (.guest (← toGuest "register_tables" v))
  | sql c statement params => do
    let statement ← Action.text c.name statement
    let params ← toHost c.name params
    let r ← withDatabase fun db => runSql c db statement params
    let v ← storeResult c.name (fun _ => false) r
    return some (.guest (← toGuest c.name v))
  | _ => return none

/-- The calls on servers, requests and responses. -/
def performServe : Call γ → Action β (Option (Argument γ))
  | createServer => do
    let (id, registry) := (← get).registry.create
    modify fun s => { s with registry }
    return some (.word id)
  | addRoute server method pattern handler => do
    let method ← Action.text "http_add_route" method
    let pattern ← Action.text "http_add_route" pattern
    let handler ← Action.text "http_add_route" handler
    register "http_add_route" fun r => r.addRoute server method pattern handler
    return none
  | listen server address => do
    let address ← Action.text "http_listen" address
    register "http_listen" fun r => r.listen server address
    return none
  | respond response v => do
    let v ← toHost response.name v
    return some (.guest (← toGuest response.name (response.value v.display)))
  | respondJson v => do
    let v ← toHost "http_response_json" v
    let body ← lift (.nonFinite "http_response_json") (Json.write v)
    return some (.guest (← toGuest "http_response_json" (Serve.responseValue body Serve.jsonType)))
  | respondText response p n => do
    let op := response.name ++ "_str"
    let s ← readText op p n
    return some (.guest (← toGuest op (response.value s)))
  | requestPart part request => return some (.guest (← field part.name request part.key))
  | _ => return none

/-- Writes the bytes of some buffers to a file, and their number to memory. The answer is the code of
what went wrong, or zero. -/
def performFileWrite (file buffers count written : Int) : Action β Int := do
  match (← get).memory with
  | none => return Errno.badFile.code
  | some m =>
    match m.gather count.toNat (unsigned buffers) with
    | none => return Errno.fault.code
    | some bytes =>
      match ← write file bytes with
      | .error e => return e.code
      | .ok () =>
        match m.write? (unsigned written) (Memory.wordBytes bytes.length) with
        | none => return Errno.fault.code
        | some m =>
          modify fun s => { s with memory := some m }
          return 0

/-- The calls on the host itself and the system. -/
def performHost : Call γ → Action β (Option (Argument γ))
  | writeValue file v => do
    let v ← toHost "write_value" v
    match ← write file (Text.encode (v.display ++ "\n")) with
    | .ok () => return none
    | .error e => throw (.rejectedFile "write_value" file e)
  | args => do
    let v := Value.array ((← get).args.map .string)
    return some (.guest (← toGuest "get_args" v))
  | env name => do
    let name ← Action.text "get_env" name
    let v := (((← get).env.lookup name).map Value.string).getD .null
    return some (.guest (← toGuest "get_env" v))
  | collect => do
    modify fun s => s.collect .explicit
    return none
  | fileWrite file buffers count written =>
    return some (.word (← performFileWrite file buffers count written))
  | exit code => do
    modify fun s => { s with exitCode := some code }
    throw (.exit code)
  | _ => return none

/-- Performs a call. -/
def perform (c : Call γ) : Action β (Option (Argument γ)) :=
  match c with
  | undefined | null | ofInteger _ | ofFloat _ | ofBoolean _ | toInteger _ | toFloat _ | toBoolean _
  | kind _ | equal _ _ | display _ | isError _ => c.performValue
  | text _ _ | intern _ _ | concat _ _ | textEqual _ _ | textLength _ | writeText _ _ _ =>
    c.performText
  | newArray _ | arrayGet _ _ | arraySet _ _ _ | arrayLength _ | join _ _ | range _ _ =>
    c.performArray
  | newObject | objectGet _ _ | objectSet _ _ _ | objectKeys _ | objectHas _ _ => c.performObject
  | toJson _ | parseJson _ | decodeJson _ _ => c.performJson
  | openDatabase _ | registerTables _ | sql _ _ _ => c.performStore
  | createServer | addRoute _ _ _ _ | listen _ _ | respond _ _ | respondJson _ | respondText _ _ _
  | requestPart _ _ => c.performServe
  | writeValue _ _ | args | env _ | collect | fileWrite _ _ _ _ | exit _ => c.performHost

end Call
end GuestHost.Host
