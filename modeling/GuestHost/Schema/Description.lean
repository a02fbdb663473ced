import GuestHost.Json.Content
import GuestHost.Json.Shape
import GuestHost.Schema.Basic
/-!
Reading a schema from its description: an object whose `type` names the shape and whose other members
fill it in, or a list of the same things in order. Only the outermost description is read from the
text piece by piece; what it contains is first read as a document, so faults inside have no place.
-/
namespace GuestHost.Schema

open Json (Document Misfit Found Fault Reader Failure wrongType readText readBoolean readInteger
  readFloat readOptional)

inductive Tag where
  | json | undefined | null | string | boolean | integer | number | array | tuple | object | union
  deriving DecidableEq, Repr

namespace Tag

def all : List Tag :=
  [json, undefined, null, string, boolean, integer, number, array, tuple, object, union]

def name : Tag → String
  | json => "json"
  | undefined => "undefined"
  | null => "null"
  | string => "string"
  | boolean => "boolean"
  | integer => "integer"
  | number => "number"
  | array => "array"
  | tuple => "tuple"
  | object => "object"
  | union => "union"

def ofName (s : String) : Except Misfit Tag :=
  match all.find? fun t => t.name = s with
  | some t => .ok t
  | none => .error (.unknownVariant s (all.map name))

/-- A tag inside a document: its name, or its place in the order of declaration. -/
def ofDocument : Document → Except Misfit Tag
  | .string s => ofName s
  | .number (.integer n) =>
    if n < 0 then .error (.wrongType (.integer n) "variant identifier")
    else
      match all[n.toNat]? with
      | some t => .ok t
      | none => .error (.wrongValue (.integer n) "variant index 0 <= i < 11")
  | d => .error (.wrongType (Found.ofDocument d) "variant identifier")

end Tag

/-- What has been read of a description besides its tag. -/
structure Parts where
  stringLiteral : Option (Option String) := none
  booleanLiteral : Option (Option Bool) := none
  integerLiteral : Option (Option Int64) := none
  numberLiteral : Option (Option Float) := none
  item : Option Schema := none
  list : Option (List Schema) := none
  fields : Option (List (String × Schema)) := none
  index : Option (Option Schema) := none

def required {α : Type} (name : String) : Option α → Except Misfit α
  | some a => .ok a
  | none => .error (.missingField name)

/-- The schema of a tag, once all members have been read. -/
def assemble (p : Parts) : Tag → Except Misfit Schema
  | .json => .ok .json
  | .undefined => .ok .undefined
  | .null => .ok .null
  | .string => .ok (.string (p.stringLiteral.getD none))
  | .boolean => .ok (.boolean (p.booleanLiteral.getD none))
  | .integer => .ok (.integer (p.integerLiteral.getD none))
  | .number => .ok (.number (p.numberLiteral.getD none))
  | .array => (required "items" p.item).map .array
  | .tuple => (required "items" p.list).map .tuple
  | .object => .ok (.object (p.fields.getD []) (p.index.getD none))
  | .union => (required "variants" p.list).map .union

/-- Refuses a member that has been read before. -/
def once {α : Type} (name : String) : Option α → Except Misfit Unit
  | some _ => .error (.repeatedField name)
  | none => .ok ()

/-- The tag among the members of an object. -/
def tagAmong (found : Option Tag) : List (String × Document) → Except Misfit Tag
  | [] => required "type" found
  | (key, d) :: rest =>
    if key = "type" then do
      once "type" found
      tagAmong (some (← Tag.ofDocument d)) rest
    else tagAmong found rest

/-- The list that a description's position holds. -/
def elements (n : Nat) : String := if n = 1 then "1 element in sequence"
  else toString n ++ " elements in sequence"

/-- Refuses more than `n` items in a list. -/
def atMost {α : Type} (n : Nat) (items : List α) : Except Misfit Unit :=
  if n < items.length then .error (.wrongLength items.length (elements n)) else .ok ()

mutual

def ofDocument : Document → Except Misfit Schema
  | .object members => do
    let tag ← tagAmong none members
    let parts ← readParts tag {} members
    assemble parts tag
  | .array items =>
    match items with
    | [] => .error (.missingField "type")
    | d :: rest => do
      let tag ← Tag.ofDocument d
      ofList tag rest
  | d => wrongType d "internally tagged enum Schema"

def ofDocuments : List Document → Except Misfit (List Schema)
  | [] => .ok []
  | d :: rest => do
    let s ← ofDocument d
    let ss ← ofDocuments rest
    return s :: ss

/-- Reads the members that mean something under the tag and passes over the others. -/
def readParts (tag : Tag) (p : Parts) : List (String × Document) → Except Misfit Parts
  | [] => .ok p
  | (key, d) :: rest =>
    match tag, key with
    | .string, "literal" => do
      once key p.stringLiteral
      let l ← readOptional readText d
      readParts tag { p with stringLiteral := some l } rest
    | .boolean, "literal" => do
      once key p.booleanLiteral
      let l ← readOptional readBoolean d
      readParts tag { p with booleanLiteral := some l } rest
    | .integer, "literal" => do
      once key p.integerLiteral
      let l ← readOptional readInteger d
      readParts tag { p with integerLiteral := some l } rest
    | .number, "literal" => do
      once key p.numberLiteral
      let l ← readOptional readFloat d
      readParts tag { p with numberLiteral := some l } rest
    | .array, "items" => do
      once key p.item
      let s ← ofDocument d
      readParts tag { p with item := some s } rest
    | .tuple, "items" => do
      once key p.list
      let ss ← match d with
        | .array ds => ofDocuments ds
        | d => wrongType d "a sequence"
      readParts tag { p with list := some ss } rest
    | .union, "variants" => do
      once key p.list
      let ss ← match d with
        | .array ds => ofDocuments ds
        | d => wrongType d "a sequence"
      readParts tag { p with list := some ss } rest
    | .object, "fields" => do
      once key p.fields
      let fs ← match d with
        | .array ds => ofFields ds
        | d => wrongType d "a sequence"
      readParts tag { p with fields := some fs } rest
    | .object, "index" => do
      once key p.index
      let i ← match d with
        | .null => .ok none
        | d => (ofDocument d).map some
      readParts tag { p with index := some i } rest
    | _, _ => readParts tag p rest

/-- The same things as a list, in order of declaration. -/
def ofList (tag : Tag) : List Document → Except Misfit Schema
  | [] =>
    match tag with
    | .array => .error (.wrongLength 0 "struct variant Schema::Array with 1 element")
    | .tuple => .error (.wrongLength 0 "struct variant Schema::Tuple with 1 element")
    | .union => .error (.wrongLength 0 "struct variant Schema::Union with 1 element")
    | t => assemble {} t
  | d :: rest =>
    match tag with
    | .json => .error (.wrongLength (rest.length + 1) (elements 0))
    | .undefined => .error (.wrongLength (rest.length + 1) (elements 0))
    | .null => .error (.wrongLength (rest.length + 1) (elements 0))
    | .string => do
      let l ← readOptional readText d
      atMost 1 (d :: rest)
      return .string l
    | .boolean => do
      let l ← readOptional readBoolean d
      atMost 1 (d :: rest)
      return .boolean l
    | .integer => do
      let l ← readOptional readInteger d
      atMost 1 (d :: rest)
      return .integer l
    | .number => do
      let l ← readOptional readFloat d
      atMost 1 (d :: rest)
      return .number l
    | .array => do
      let s ← ofDocument d
      atMost 1 (d :: rest)
      return .array s
    | .tuple => do
      let ss ← match d with
        | .array ds => ofDocuments ds
        | d => wrongType d "a sequence"
      atMost 1 (d :: rest)
      return .tuple ss
    | .union => do
      let ss ← match d with
        | .array ds => ofDocuments ds
        | d => wrongType d "a sequence"
      atMost 1 (d :: rest)
      return .union ss
    | .object => do
      let fs ← match d with
        | .array ds => ofFields ds
        | d => wrongType d "a sequence"
      match rest with
      | [] => return .object fs none
      | e :: more =>
        let i ← match e with
          | .null => .ok none
          | e => (ofDocument e).map some
        atMost 2 (d :: e :: more)
        return .object fs i

def ofFields : List Document → Except Misfit (List (String × Schema))
  | [] => .ok []
  | d :: rest => do
    let f ← match d with
      | .object members => ofFieldMembers none none members
      | .array items =>
        match items with
        | [] => .error (.wrongLength 0 "struct Field with 2 elements")
        | n :: more => do
          let name ← readText n
          match more with
          | [] => .error (.wrongLength 1 "struct Field with 2 elements")
          | s :: more' => do
            let schema ← ofDocument s
            atMost 2 (n :: s :: more')
            pure (name, schema)
      | d => wrongType d "struct Field"
    let fs ← ofFields rest
    return f :: fs

def ofFieldMembers (name : Option String) (schema : Option Schema) :
    List (String × Document) → Except Misfit (String × Schema)
  | [] => do
    let n ← required "name" name
    let s ← required "schema" schema
    return (n, s)
  | (key, d) :: rest =>
    if key = "name" then do
      once key name
      let n ← readText d
      ofFieldMembers (some n) schema rest
    else if key = "schema" then do
      once key schema
      let s ← ofDocument d
      ofFieldMembers name (some s) rest
    else ofFieldMembers name schema rest

end

/-- A string, read straight from the text. -/
def readTextHere (wanted : String) : Reader String := fun cs =>
  match Json.skipSpace cs with
  | '"' :: rest => Json.readString rest
  | r => .error (Json.unfitHere wanted r)

/-- The tag of the outermost description. -/
def readTagHere : Reader Tag := fun cs => do
  let (name, rest) ← readTextHere "variant identifier" cs
  match Tag.ofName name with
  | .ok t => return (t, rest)
  | .error m => throw (.unfit m rest)

/-- A tag, once seen, and the members before and after it in reverse. -/
structure Outline where
  tag : Option Tag
  members : List (String × Document)

def readOutlineMember (o : Outline) (key : String) : Reader Outline := fun cs =>
  if key = "type" then
    match o.tag with
    | some _ => .error (.unfit (.repeatedField "type") (Json.skipCloser '}' cs))
    | none => do
      let (t, rest) ← readTagHere (← Json.readColon cs)
      return ({ o with tag := some t }, rest)
  else do
    let (d, rest) ← Json.readDocument (Json.nestingLimit - 1) (← Json.readColon cs)
    return ({ o with members := (key, d) :: o.members }, rest)

def readOutlineItem (o : Outline) : Reader Outline := fun cs =>
  match o.tag with
  | none => do
    let (t, rest) ← readTagHere cs
    return ({ o with tag := some t }, rest)
  | some _ => do
    let (d, rest) ← Json.readDocument (Json.nestingLimit - 1) cs
    return ({ o with members := ("", d) :: o.members }, rest)

/-- The outermost description as far as its text has a place: the tag, and the rest as documents. What
these amount to is settled only after the whole description has been read. -/
def readDescription : Reader (Except Misfit Schema) := fun cs =>
  match Json.skipSpace cs with
  | '{' :: rest => do
    let (o, r) ← Json.foldMembers readOutlineMember ⟨none, []⟩ rest
    match o.tag with
    | none => throw (.unfit (.missingField "type") r)
    | some t => return ((readParts t {} o.members.reverse).bind fun p => assemble p t, r)
  | '[' :: rest => do
    let (o, r) ← Json.foldItems readOutlineItem ⟨none, []⟩ rest
    match o.tag with
    | none => throw (.unfit (.missingField "type") r)
    | some t => return (ofList t (o.members.reverse.map Prod.snd), r)
  | r => .error (Json.unfitHere "internally tagged enum Schema" r)

/-- Reads a description. -/
def parse (text : String) : Except Failure Schema :=
  let cs := text.toList
  match readDescription cs with
  | .error f => .error (Failure.locate cs f)
  | .ok (.error m, _) => .error (Failure.ofMisfit m)
  | .ok (.ok s, rest) => ((Json.readEnd rest).mapError (Failure.locate cs)).map fun _ => s

end GuestHost.Schema
