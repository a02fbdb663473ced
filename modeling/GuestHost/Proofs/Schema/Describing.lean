import GuestHost.Proofs.Schema.Refitting
import GuestHost.Schema.Description
/-!
Documents that describe a schema. The members of a description may stand in any order, with others among
them, and what may be left out may also be null. Only the literals of floats have no description here.
-/
namespace GuestHost.Schema

open Json (Document)

/-- What stands under one name, in order. -/
def under (name : String) (ms : List (String × Document)) : List Document :=
  (ms.filter fun m => m.1 = name).map Prod.snd

theorem under_cons_self (name : String) (d : Document) (ms : List (String × Document)) :
    under name ((name, d) :: ms) = d :: under name ms := by
  simp [under]

theorem under_cons_of_ne {key name : String} (h : key ≠ name) (d : Document)
    (ms : List (String × Document)) : under name ((key, d) :: ms) = under name ms := by
  simp [under, h]

/-- What stands for something optional: it alone, or else nothing or a null. -/
def Given : Option Document → List Document → Prop
  | some d, ds => ds = [d]
  | none, ds => ds = [] ∨ ds = [.null]

/-- An object with one tag, besides what is asked of its members. -/
def Tagged (tag : Tag) (d : Document) (parts : List (String × Document) → Prop) : Prop :=
  ∃ ms, d = .object ms ∧ under "type" ms = [.string tag.name] ∧ parts ms

mutual

/-- The document describes the schema. Members are asked for by name, so their order does not count, nor
do members of names that mean nothing under the tag. For the literal of a float there is no description
here. -/
def Describes : Schema → Document → Prop
  | json, d => Tagged .json d fun _ => True
  | undefined, d => Tagged .undefined d fun _ => True
  | null, d => Tagged .null d fun _ => True
  | string literal, d => Tagged .string d fun ms => Given (literal.map .string) (under "literal" ms)
  | boolean literal, d => Tagged .boolean d fun ms => Given (literal.map .boolean) (under "literal" ms)
  | integer literal, d => Tagged .integer d fun ms =>
    Given (literal.map fun n => .number (.integer n.toInt)) (under "literal" ms)
  | number literal, d => literal = none ∧ Tagged .number d fun ms => Given none (under "literal" ms)
  | array items, d => Tagged .array d fun ms => ∃ e, under "items" ms = [e] ∧ Describes items e
  | tuple items, d => Tagged .tuple d fun ms =>
    ∃ es, under "items" ms = [.array es] ∧ DescribesEach items es
  | object fields index, d => Tagged .object d fun ms =>
    (fields = [] ∧ under "fields" ms = [] ∨
      ∃ es, under "fields" ms = [.array es] ∧ DescribesFields fields es) ∧
    match index with
    | none => Given none (under "index" ms)
    | some s => ∃ e, under "index" ms = [e] ∧ Describes s e
  | union variants, d => Tagged .union d fun ms =>
    ∃ es, under "variants" ms = [.array es] ∧ DescribesEach variants es

def DescribesEach : List Schema → List Document → Prop
  | [], es => es = []
  | s :: rest, es => ∃ e es', es = e :: es' ∧ Describes s e ∧ DescribesEach rest es'

def DescribesFields : List (String × Schema) → List Document → Prop
  | [], es => es = []
  | (name, s) :: rest, es => ∃ ms es', es = .object ms :: es' ∧ under "name" ms = [.string name] ∧
      (∃ e, under "schema" ms = [e] ∧ Describes s e) ∧ DescribesFields rest es'

end

/-- A schema that admits one float alone. -/
def IsNumberLiteral : Schema → Prop
  | number (some _) => True
  | _ => False

def tagged (tag : Tag) (parts : List (String × Document)) : Document :=
  .object (("type", .string tag.name) :: parts)

mutual

/-- The tag first, and of what may be left out only what says something. -/
def description : Schema → Document
  | json => tagged .json []
  | undefined => tagged .undefined []
  | null => tagged .null []
  | string none => tagged .string []
  | string (some l) => tagged .string [("literal", .string l)]
  | boolean none => tagged .boolean []
  | boolean (some l) => tagged .boolean [("literal", .boolean l)]
  | integer none => tagged .integer []
  | integer (some l) => tagged .integer [("literal", .number (.integer l.toInt))]
  | number none => tagged .number []
  | number (some x) => tagged .number [("literal", .number (.real x))]
  | array items => tagged .array [("items", description items)]
  | tuple items => tagged .tuple [("items", .array (descriptions items))]
  | object fields none => tagged .object [("fields", .array (descriptionsOfFields fields))]
  | object fields (some s) =>
    tagged .object [("fields", .array (descriptionsOfFields fields)), ("index", description s)]
  | union variants => tagged .union [("variants", .array (descriptions variants))]

def descriptions : List Schema → List Document
  | [] => []
  | s :: rest => description s :: descriptions rest

def descriptionsOfFields : List (String × Schema) → List Document
  | [] => []
  | (name, s) :: rest =>
    .object [("name", .string name), ("schema", description s)] :: descriptionsOfFields rest

end

theorem tagged_tagged {tag : Tag} {ms : List (String × Document)} {parts : List (String × Document) → Prop}
    (htype : under "type" ms = []) (hparts : parts (("type", .string tag.name) :: ms)) :
    Tagged tag (tagged tag ms) parts := by
  refine ⟨_, rfl, ?_, hparts⟩
  rw [under_cons_self, htype]

mutual

theorem describes_description : ∀ {s : Schema}, Everywhere (¬IsNumberLiteral ·) s →
    Describes s s.description
  | json, _ | undefined, _ | null, _ => tagged_tagged rfl trivial
  | string none, _ | boolean none, _ | integer none, _ => tagged_tagged rfl (.inl rfl)
  | string (some _), _ | boolean (some _), _ | integer (some _), _ => tagged_tagged rfl rfl
  | number none, _ => ⟨rfl, tagged_tagged rfl (.inl rfl)⟩
  | number (some _), h => absurd trivial h
  | array _, h => tagged_tagged rfl ⟨_, rfl, describes_description h.2⟩
  | tuple _, h => tagged_tagged rfl ⟨_, rfl, describesEach_descriptions h.2⟩
  | object _ none, h => tagged_tagged rfl ⟨.inr ⟨_, rfl, describesFields_descriptions h.2.1⟩, .inl rfl⟩
  | object _ (some _), h =>
    tagged_tagged rfl
      ⟨.inr ⟨_, rfl, describesFields_descriptions h.2.1⟩, _, rfl, describes_description h.2.2⟩
  | union _, h => tagged_tagged rfl ⟨_, rfl, describesEach_descriptions h.2⟩

theorem describesEach_descriptions : ∀ {ss : List Schema}, EverywhereInEach (¬IsNumberLiteral ·) ss →
    DescribesEach ss (descriptions ss)
  | [], _ => rfl
  | _ :: _, h => ⟨_, _, rfl, describes_description h.1, describesEach_descriptions h.2⟩

theorem describesFields_descriptions : ∀ {fields : List (String × Schema)},
    EverywhereInFields (¬IsNumberLiteral ·) fields → DescribesFields fields (descriptionsOfFields fields)
  | [], _ => rfl
  | (_, _) :: _, h =>
    ⟨_, _, rfl, rfl, ⟨_, rfl, describes_description h.1⟩, describesFields_descriptions h.2⟩

end

end GuestHost.Schema
