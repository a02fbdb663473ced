import GuestHost.Proofs.Schema.Rejecting
/-!
Where the path of a failure leads. Followed from the value as a whole, it reaches the part that is to blame,
and the schema that it reaches on the way is the one that rejects that part by itself; where a field is
missing, the last step is the one that cannot be taken.
-/
namespace GuestHost

namespace Value

open Schema

/-- The part that one step leads to. -/
def part? : Value → Accessor → Option Value
  | array items, .item index => items[index]?
  | object members, .field name => Members.get? name members
  | _, _ => none

/-- The part at the end of a path. -/
def at? : Value → List Accessor → Option Value
  | v, [] => some v
  | v, a :: path => (v.part? a).bind fun part => part.at? path

end Value

namespace Schema

open Value Members

/-- A path leads from a schema and a value to a part of the value and what is asked of that part. In a
union it leads on through the last variant. -/
inductive Leads : Schema → Value → List Accessor → Schema → Value → Prop where
  | here (s : Schema) (v : Value) : Leads s v [] s v
  | item {s t : Schema} {vs : List Value} {v x : Value} {index : Nat} {path : List Accessor}
    (hv : vs[index]? = some v) (h : Leads s v path t x) :
    Leads (array s) (.array vs) (.item index :: path) t x
  | place {ss : List Schema} {s t : Schema} {vs : List Value} {v x : Value} {index : Nat}
    {path : List Accessor} (hs : ss[index]? = some s) (hv : vs[index]? = some v)
    (h : Leads s v path t x) : Leads (tuple ss) (.array vs) (.item index :: path) t x
  | field {fields : List (String × Schema)} {index : Option Schema} {s t : Schema}
    {ms : Members Value} {v x : Value} {name : String} {path : List Accessor}
    (hs : (name, s) ∈ fields) (hv : get? name ms = some v) (h : Leads s v path t x) :
    Leads (object fields index) (.object ms) (.field name :: path) t x
  | other {fields : List (String × Schema)} {s t : Schema} {ms : Members Value} {v x : Value}
    {key : String} {path : List Accessor} (hkey : key ∉ fields.map Prod.fst)
    (hv : get? key ms = some v) (h : Leads s v path t x) :
    Leads (object fields (some s)) (.object ms) (.field key :: path) t x
  | variant {ss : List Schema} {s t : Schema} {v x : Value} {path : List Accessor}
    (hlast : ss.getLast? = some s) (h : Leads s v path t x) : Leads (union ss) v path t x

theorem Leads.at?_eq {s t : Schema} {v x : Value} {path : List Accessor} (h : Leads s v path t x) :
    v.at? path = some x := by
  induction h with
  | here s v => rfl
  | item hv _ ih => simp only [at?, part?, hv, Option.bind_some, ih]
  | place _ hv _ ih => simp only [at?, part?, hv, Option.bind_some, ih]
  | field _ hv _ ih => simp only [at?, part?, hv, Option.bind_some, ih]
  | other _ hv _ ih => simp only [at?, part?, hv, Option.bind_some, ih]
  | variant _ _ ih => exact ih

/-- What is wrong with a part by itself, and the step that cannot be taken from it, if it is that a member
is missing. -/
inductive Fault : Schema → Value → Reason → List Accessor → Prop where
  | clash {s : Schema} {v : Value} {reason : Reason} (h : Clash s v reason) : Fault s v reason []
  | missing {fields : List (String × Schema)} {index : Option Schema} {ms : Members Value}
    {name : String} {s : Schema} (hfield : (name, s) ∈ fields) (hnone : get? name ms = none)
    (h : ¬Accepts s .undefined) :
    Fault (object fields index) (.object ms) .missingField [.field name]

/-- The path that is reported leads to a part with something wrong with it. -/
theorem Blames.exists_fault {s : Schema} {v : Value} {reason : Reason} {path : List Accessor}
    (h : Blames s v reason path) (hv : v.WellFormed) :
    ∃ start rest t x, path = start ++ rest ∧ Leads s v start t x ∧ Fault t x reason rest := by
  induction h with
  | here h => exact ⟨[], [], _, _, rfl, .here _ _, .clash h⟩
  | @item s vs before after v reason path hsplit _ _ ih =>
    have hmem : v ∈ vs := mem_of_split hsplit
    obtain ⟨start, rest, t, x, rfl, hleads, hfault⟩ := ih (wellFormed_array.mp hv v hmem)
    exact ⟨_, rest, t, x, rfl, .item (getElem?_of_split hsplit) hleads, hfault⟩
  | @place ss vs before after s v reason path _ hsplit _ _ ih =>
    have hmem : (s, v) ∈ ss.zip vs := mem_of_split hsplit
    have hwell := wellFormed_array.mp hv v (List.of_mem_zip hmem).2
    obtain ⟨start, rest, t, x, rfl, hleads, hfault⟩ := ih hwell
    obtain ⟨hs, hv⟩ := List.getElem?_zip_eq_some.mp (getElem?_of_split hsplit)
    exact ⟨_, rest, t, x, rfl, .place hs hv hleads, hfault⟩
  | @field fields before after index ms name s v reason path hsplit _ hget _ ih =>
    have hmem : (name, s) ∈ fields := mem_of_split hsplit
    obtain ⟨-, hms⟩ := wellFormed_object.mp hv
    obtain ⟨start, rest, t, x, rfl, hleads, hfault⟩ := ih (hms _ (mem_of_get? hget))
    exact ⟨_, rest, t, x, rfl, .field hmem hget hleads, hfault⟩
  | @missing fields before after index ms name s hsplit _ hnone h =>
    have hmem : (name, s) ∈ fields := mem_of_split hsplit
    exact ⟨[], _, _, _, rfl, .here _ _, .missing hmem hnone h⟩
  | @other fields s ms before after key v reason path _ hsplit _ hkey _ ih =>
    have hmem : (key, v) ∈ ms := mem_of_split hsplit
    obtain ⟨hnodup, hms⟩ := wellFormed_object.mp hv
    obtain ⟨start, rest, t, x, rfl, hleads, hfault⟩ := ih (hms _ hmem)
    exact ⟨_, rest, t, x, rfl, .other hkey (get?_of_mem hnodup hmem) hleads, hfault⟩
  | variant _ hlast _ ih =>
    obtain ⟨start, rest, t, x, rfl, hleads, hfault⟩ := ih hv
    exact ⟨start, rest, t, x, rfl, .variant hlast hleads, hfault⟩

theorem Rejection.pathText_eq (path : List Accessor) :
    pathText path = "$" ++ String.join (path.map Accessor.text) := by
  have hfold : ∀ (path : List Accessor) (start : String),
      path.foldl (fun acc a => acc ++ a.text) start = start ++ String.join (path.map Accessor.text) := by
    intro path
    induction path with
    | nil => simp
    | cons a rest ih => simp [ih, String.append_assoc]
  exact hfold path "$"

/-- Where the path of a failure leads. -/
structure Located (s : Schema) (v : Value) (r : Rejection) : Prop where
  /-- The path leads to a part, and the schema that it leads to rejects that part by itself. -/
  reaches : r.reason ≠ .missingField → ∃ t x, Leads s v r.path t x ∧ v.at? r.path = some x ∧
    t.fit x = .error ⟨r.reason, []⟩
  /-- All but the last step lead to an object, which has no member for a field that needs one. -/
  lacks : r.reason = .missingField → ∃ start name fields index ms, r.path = start ++ [.field name] ∧
    Leads s v start (object fields index) (.object ms) ∧ v.at? start = some (.object ms) ∧
    get? name ms = none ∧ ∃ t, (name, t) ∈ fields ∧ ¬Accepts t .undefined

theorem Blames.located {s : Schema} {v : Value} {reason : Reason} {path : List Accessor}
    (h : Blames s v reason path) (hv : v.WellFormed) : Located s v ⟨reason, path⟩ := by
  obtain ⟨start, rest, t, x, rfl, hleads, hfault⟩ := h.exists_fault hv
  have hat := hleads.at?_eq
  cases hfault with
  | clash hclash =>
    have hreason : reason ≠ .missingField := by
      rintro rfl
      cases hclash
    rw [List.append_nil]
    exact ⟨fun _ => ⟨t, x, hleads, hat, fit_of_clash hclash⟩, fun heq => absurd heq hreason⟩
  | missing hfield hnone hrefused =>
    refine ⟨fun hne => absurd rfl hne, fun _ => ?_⟩
    exact ⟨start, _, _, _, _, rfl, hleads, hat, hnone, _, hfield, hrefused⟩

/-- A text whose value does not fit is decoded to an error value with the message and the path of the
failure that is to be reported: of the first part, in the order in which they are looked at, that does not
fit, and of a union's last variant. The path leads to what is wrong. -/
theorem decode_failures_located (s : Schema) (text : String) {v : Value}
    (hv : Json.parse text = .ok v) :
    (∀ r, s.fit v = .error r ↔ Blames s v r.reason r.path) ∧
      ∀ r, s.fit v = .error r → Located s v r ∧ s.decode text =
        .error r.reason.message (some ("$" ++ String.join (r.path.map Accessor.text))) := by
  have hwell : v.WellFormed := Json.wellFormed_parse hv
  refine ⟨fun r => fit_eq_error_iff hwell, fun r hr => ⟨?_, ?_⟩⟩
  · exact ((fit_eq_error_iff hwell).mp hr).located hwell
  · rw [decode_eq, hv, ← Rejection.pathText_eq]
    simp only [hr]
    rfl

/-- Lists of lists of nulls, or lists of texts. -/
def twoVariants : Schema := .union [.array (.array .null), .array (.string none)]

/-- The first variant goes deeper before it fails, but it is the last that is reported. -/
theorem last_variant_located :
    twoVariants.decode "[[true]]" = .error "expected string, got array" (some "$[0]") ∧
      Blames twoVariants (.array [.array [.boolean true]]) (.mismatch "string" .array) [.item 0] := by
  have hparse : Json.parse "[[true]]" = .ok (.array [.array [.boolean true]]) := by cbv
  have hfit : twoVariants.fit (.array [.array [.boolean true]]) =
      .error ⟨.mismatch "string" .array, [.item 0]⟩ := rfl
  have hmessage : (Reason.mismatch "string" .array).message = "expected string, got array" := by decide
  have hpath : "$" ++ String.join ([Accessor.item 0].map Accessor.text) = "$[0]" := by decide
  obtain ⟨hiff, hlocated⟩ := decode_failures_located twoVariants "[[true]]" hparse
  obtain ⟨-, hdecode⟩ := hlocated _ hfit
  rw [hmessage, hpath] at hdecode
  exact ⟨hdecode, (hiff _).mp hfit⟩

end Schema
end GuestHost
