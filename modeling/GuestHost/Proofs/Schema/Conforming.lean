import GuestHost.Proofs.Json.RoundTrip
import GuestHost.Proofs.Schema.Buffered
/-!
What it means that a value has been brought into the form that a schema asks for. Fitting succeeds just
where there is such a form, and gives it; so what is decoded from a text conforms at every depth, and holds
nothing undefined.
-/
namespace GuestHost

namespace Schema

open Value Members

/-- The names of the fields that have a member, in order of declaration. -/
def presentNames (fields : List (String × Schema)) (ms : Members Value) : List String :=
  ((fields.map Prod.fst).filter fun name => has name ms).eraseDups

/-- The names of the members without a field, as they stand. -/
def otherNames (fields : List (String × Schema)) (ms : Members Value) : List String :=
  (keys ms).filter fun k => k ∉ fields.map Prod.fst

theorem mem_presentNames {fields : List (String × Schema)} {ms : Members Value} {k : String} :
    k ∈ presentNames fields ms ↔ k ∈ fields.map Prod.fst ∧ has k ms = true := by
  rw [presentNames, List.mem_eraseDups, List.mem_filter]

/-- Each member without a field is there in the form that is asked for. -/
def ConformsOthers (conforms : Value → Value → Prop) (fields : List (String × Schema))
    (ms out : Members Value) : Prop :=
  ∀ k ∈ otherNames fields ms, ∃ x y, get? k ms = some x ∧ get? k out = some y ∧ conforms x y

mutual

/-- The second value is the first one in the form that the schema asks for. -/
def Conforms : Schema → Value → Value → Prop
  | json, v, w => v ≠ .undefined ∧ w = v
  | undefined, v, w => v = .undefined ∧ w = .undefined
  | null, v, w => v = .null ∧ w = .null
  | string literal, v, w => ∃ s, v = .string s ∧ w = .string s ∧ ∀ l ∈ literal, l = s
  | boolean literal, v, w => ∃ b, v = .boolean b ∧ w = .boolean b ∧ ∀ l ∈ literal, l = b
  | integer literal, v, w => ∃ n, integerOf? v = some n ∧ w = .integer n ∧ ∀ l ∈ literal, l = n
  | number literal, v, w => ∃ x, floatOf? v = some x ∧ w = .float x ∧ ∀ l ∈ literal, (l == x) = true
  | array items, v, w =>
    ∃ vs ws, v = .array vs ∧ w = .array ws ∧ List.Forall₂ (Conforms items) vs ws
  | tuple items, v, w => ∃ vs ws, v = .array vs ∧ w = .array ws ∧ ConformsEach items vs ws
  | object fields index, v, w => ∃ ms out, v = .object ms ∧ w = .object out ∧
      ConformsFields fields ms out ∧
      match index with
      | none => keys out = presentNames fields ms
      | some s => keys out = presentNames fields ms ++ otherNames fields ms ∧
          ConformsOthers (Conforms s) fields ms out
  | union variants, v, w => ConformsFirst variants v w

/-- Position by position, and as many positions as schemas. -/
def ConformsEach : List Schema → List Value → List Value → Prop
  | [], vs, ws => vs = [] ∧ ws = []
  | s :: ss, vs, ws =>
    ∃ v vs' w ws', vs = v :: vs' ∧ ws = w :: ws' ∧ Conforms s v w ∧ ConformsEach ss vs' ws'

/-- A field without a member takes what is undefined. The member of a field conforms to it, and the last
field of a name says in which form it is kept. -/
def ConformsFields : List (String × Schema) → Members Value → Members Value → Prop
  | [], _, _ => True
  | (name, s) :: rest, ms, out =>
    (match get? name ms with
      | none => Conforms s .undefined .undefined
      | some x => ∃ y, Conforms s x y ∧ (name ∉ rest.map Prod.fst → get? name out = some y)) ∧
    ConformsFields rest ms out

/-- The first variant that the value can conform to says in which form. -/
def ConformsFirst : List Schema → Value → Value → Prop
  | [], _, _ => False
  | s :: rest, v, w => Conforms s v w ∨ (∀ u, ¬Conforms s v u) ∧ ConformsFirst rest v w

end

theorem ConformsEach.length_eq {ss : List Schema} {vs ws : List Value} (h : ConformsEach ss vs ws) :
    vs.length = ss.length := by
  induction ss generalizing vs ws with
  | nil => rw [h.1, List.length_nil, List.length_nil]
  | cons s ss ih =>
    obtain ⟨v, vs', w, ws', rfl, rfl, -, hrest⟩ := h
    rw [List.length_cons, List.length_cons, ih hrest]

mutual

/-- What is undefined conforms to the schemas that accept it, and stays what it is. -/
theorem conforms_undefined_iff : ∀ (s : Schema) {w : Value},
    Conforms s .undefined w ↔ s.acceptsUndefined = true ∧ w = .undefined
  | json, w => by simp [Conforms, acceptsUndefined]
  | undefined, w => by simp [Conforms, acceptsUndefined]
  | null, w => by simp [Conforms, acceptsUndefined]
  | string _, w => by simp [Conforms, acceptsUndefined]
  | boolean _, w => by simp [Conforms, acceptsUndefined]
  | integer _, w => by simp [Conforms, acceptsUndefined, integerOf?]
  | number _, w => by simp [Conforms, acceptsUndefined, floatOf?]
  | array _, w => by simp [Conforms, acceptsUndefined]
  | tuple _, w => by simp [Conforms, acceptsUndefined]
  | object _ _, w => by simp [Conforms, acceptsUndefined]
  | union variants, w => by
    rw [Conforms, acceptsUndefined]
    exact conformsFirst_undefined_iff variants

theorem conformsFirst_undefined_iff : ∀ (ss : List Schema) {w : Value},
    ConformsFirst ss .undefined w ↔ someAcceptsUndefined ss = true ∧ w = .undefined
  | [], w => by simp [ConformsFirst, someAcceptsUndefined]
  | s :: rest, w => by
    simp only [ConformsFirst, someAcceptsUndefined, conforms_undefined_iff s,
      conformsFirst_undefined_iff rest, Bool.or_eq_true]
    cases s.acceptsUndefined <;> simp

end

end Schema
end GuestHost
