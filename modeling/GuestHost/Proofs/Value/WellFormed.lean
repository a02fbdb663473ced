import GuestHost.Host.Perform
import GuestHost.Proofs.Outcome
import GuestHost.Proofs.Schema.Buffered
/-!
Values whose objects have no name twice. Everything that the host itself makes is of this kind: what it
reads from text, fits to a schema, finds in a store, or answers a call with.
-/
namespace GuestHost

namespace Members

variable {α : Type}

theorem mem_of_mem_set {key : String} {a : α} {m : Members α} {e : String × α}
    (h : e ∈ set key a m) : e = (key, a) ∨ e ∈ m := by
  induction m with
  | nil => simpa [set] using h
  | cons p rest ih =>
    obtain ⟨k, b⟩ := p
    by_cases hk : k = key
    · simp only [set, hk, if_true, List.mem_cons] at h
      exact h.imp id fun h => List.mem_cons_of_mem _ h
    · simp only [set, hk, if_false, List.mem_cons] at h
      rcases h with h | h
      · exact .inr (by simp [h])
      · exact (ih h).imp id fun h => List.mem_cons_of_mem _ h

theorem mem_of_mem_overlay {pairs : List (String × α)} {m : Members α} {e : String × α}
    (h : e ∈ overlay m pairs) : e ∈ m ∨ e ∈ pairs := by
  induction pairs generalizing m with
  | nil => exact .inl h
  | cons p rest ih =>
    rcases ih h with h | h
    · exact (mem_of_mem_set h).elim (fun h => .inr (by simp [h])) .inl
    · exact .inr (List.mem_cons_of_mem _ h)

theorem mem_of_get? {key : String} {a : α} {m : Members α} (h : get? key m = some a) :
    (key, a) ∈ m := by
  induction m with
  | nil => simp at h
  | cons p rest ih =>
    obtain ⟨k, b⟩ := p
    simp only [get?] at h
    split at h
    · next hk => simp_all
    · exact List.mem_cons_of_mem _ (ih h)

theorem nodup_keys_overlay {m : Members α} (h : (keys m).Nodup) (pairs : List (String × α)) :
    (keys (overlay m pairs)).Nodup := by
  induction pairs generalizing m with
  | nil => exact h
  | cons p rest ih => exact ih (nodup_keys_set h p.1 p.2)

theorem mem_of_mem_ofPairs {pairs : List (String × α)} {e : String × α} (h : e ∈ ofPairs pairs) :
    e ∈ pairs := (mem_of_mem_overlay h).resolve_left (by simp)

theorem nodup_keys_ofPairs (pairs : List (String × α)) : (keys (ofPairs pairs)).Nodup :=
  nodup_keys_overlay (by simp [keys]) pairs

theorem sorted_perm (m : Members α) : (sorted m).Perm m := List.mergeSort_perm m _

theorem nodup_keys_sorted {m : Members α} (h : (keys m).Nodup) : (keys (sorted m)).Nodup :=
  ((sorted_perm m).map Prod.fst).nodup_iff.mpr h

end Members

namespace Value

theorem wellFormedItems_iff {vs : List Value} : WellFormedItems vs ↔ ∀ v ∈ vs, v.WellFormed := by
  induction vs with
  | nil => simp [WellFormedItems]
  | cons v rest ih => simp [WellFormedItems, ih]

theorem wellFormedMembers_iff {ms : List (String × Value)} :
    WellFormedMembers ms ↔ ∀ m ∈ ms, m.2.WellFormed := by
  induction ms with
  | nil => simp [WellFormedMembers]
  | cons m rest ih => simp [WellFormedMembers, ih]

@[simp] theorem wellFormed_array {vs : List Value} :
    (array vs).WellFormed ↔ ∀ v ∈ vs, v.WellFormed := wellFormedItems_iff

@[simp] theorem wellFormed_object {ms : List (String × Value)} :
    (object ms).WellFormed ↔ (Members.keys ms).Nodup ∧ ∀ m ∈ ms, m.2.WellFormed := by
  rw [← wellFormedMembers_iff]
  rfl

@[simp] theorem wellFormed_undefined : undefined.WellFormed := trivial
@[simp] theorem wellFormed_null : null.WellFormed := trivial
@[simp] theorem wellFormed_boolean (b : Bool) : (boolean b).WellFormed := trivial
@[simp] theorem wellFormed_integer (n : Int64) : (integer n).WellFormed := trivial
@[simp] theorem wellFormed_float (x : Float) : (float x).WellFormed := trivial
@[simp] theorem wellFormed_string (s : String) : (string s).WellFormed := trivial

theorem wellFormed_error (message : String) (path : Option String) :
    (error message path).WellFormed := by
  cases path <;> simp [error, Members.keys]

theorem wellFormed_sortedPairs {ms : List (String × Value)} (h : ∀ m ∈ ms, m.2.WellFormed) :
    (object (Members.sorted (Members.ofPairs ms))).WellFormed := by
  refine wellFormed_object.mpr ⟨Members.nodup_keys_sorted (Members.nodup_keys_ofPairs ms), ?_⟩
  intro m hm
  exact h m (Members.mem_of_mem_ofPairs ((Members.sorted_perm _).mem_iff.mp hm))

end Value

namespace Json.Document

/-- Properties that the scalars of documents have, and that lists and objects have on account of their
parts. Of the members of an object those that count are given, by ascending name. -/
structure Compositional (P : Value → Prop) : Prop where
  null : P .null
  boolean : ∀ b, P (.boolean b)
  integer : ∀ n, P (.integer n)
  float : ∀ x, P (.float x)
  string : ∀ s, P (.string s)
  array : ∀ {vs}, (∀ v ∈ vs, P v) → P (.array vs)
  object : ∀ {ms}, (∀ m ∈ Members.sorted (Members.ofPairs ms), P m.2) →
    P (.object (Members.sorted (Members.ofPairs ms)))

section

variable {P : Value → Prop}

mutual

/-- Such a property holds of what every document stands for. -/
theorem toValue_has (hP : Compositional P) : ∀ d : Document, P d.toValue
  | null => hP.null
  | boolean b => hP.boolean b
  | number (.integer n) => by
    rw [toValue, valueOfNumber]
    split
    · exact hP.integer _
    · exact hP.float _
  | number (.real x) => hP.float x
  | string s => hP.string s
  | array items => hP.array (toValues_have hP items)
  | object members => by
    refine hP.object fun m hm => toMembers_have hP members m ?_
    exact Members.mem_of_mem_ofPairs ((Members.sorted_perm _).mem_iff.mp hm)

theorem toValues_have (hP : Compositional P) : ∀ ds : List Document, ∀ v ∈ toValues ds, P v
  | [] => nofun
  | d :: rest => List.forall_mem_cons.mpr ⟨toValue_has hP d, toValues_have hP rest⟩

theorem toMembers_have (hP : Compositional P) :
    ∀ ms : List (String × Document), ∀ m ∈ toMembers ms, P m.2
  | [] => nofun
  | (_, d) :: rest => List.forall_mem_cons.mpr ⟨toValue_has hP d, toMembers_have hP rest⟩

end

end

theorem compositional_wellFormed : Compositional Value.WellFormed where
  null := trivial
  boolean _ := trivial
  integer _ := trivial
  float _ := trivial
  string _ := trivial
  array := Value.wellFormed_array.mpr
  object hms := Value.wellFormed_object.mpr
    ⟨Members.nodup_keys_sorted (Members.nodup_keys_ofPairs _), hms⟩

theorem wellFormed_toValue (d : Document) : d.toValue.WellFormed :=
  toValue_has compositional_wellFormed d

end Json.Document

theorem Json.wellFormed_parse {text : String} {v : Value} (h : Json.parse text = .ok v) :
    v.WellFormed := by
  unfold Json.parse at h
  cases hd : parseDocument text with
  | error f => simp [hd, Except.map] at h
  | ok d =>
    simp only [hd, Except.map, Except.ok.injEq] at h
    exact h ▸ d.wellFormed_toValue

namespace Schema

open Value

/-- What holds of a value holds of what the function makes of it. -/
def Keeps (P : Value → Prop) (fit : Value → Except Rejection Value) : Prop :=
  ∀ {v w}, P v → fit v = .ok w → P w

/-- Objects under construction: names once, and values of one kind under them. -/
def SoundMembers (P : Value → Prop) (m : Members Value) : Prop :=
  (Members.keys m).Nodup ∧ ∀ e ∈ m, P e.2

section

variable {P : Value → Prop} {fit : Value → Except Rejection Value}

theorem soundMembers_nil : SoundMembers P [] := ⟨List.nodup_nil, nofun⟩

theorem SoundMembers.set {m : Members Value} (h : SoundMembers P m) (key : String) {v : Value}
    (hv : P v) : SoundMembers P (Members.set key v m) := by
  refine ⟨Members.nodup_keys_set h.1 key v, ?_⟩
  intro e he
  rcases Members.mem_of_mem_set he with rfl | he
  · exact hv
  · exact h.2 e he

theorem Keeps.items (hf : Keeps P fit) : ∀ (vs : List Value) {ws : List Value} {index : Nat},
    (∀ v ∈ vs, P v) → fitItems fit index vs = .ok ws → ∀ w ∈ ws, P w
  | [], ws, index, _, h => by
    cases h
    exact nofun
  | v :: rest, ws, index, hv, h => by
    simp only [fitItems, Except.bind_eq_ok_iff, Except.mapError_eq_ok_iff,
      Except.pure_eq_ok_iff] at h
    obtain ⟨w, hw, ws', hws, rfl⟩ := h
    obtain ⟨hv, hrest⟩ := List.forall_mem_cons.mp hv
    exact List.forall_mem_cons.mpr ⟨hf hv hw, Keeps.items hf rest hrest hws⟩

theorem Keeps.others (hf : Keeps P fit) (declared : List String) :
    ∀ (ms : List (String × Value)) {done m : Members Value}, (∀ e ∈ ms, P e.2) →
      SoundMembers P done → fitOthers fit declared done ms = .ok m → SoundMembers P m
  | [], done, m, _, hd, h => by
    cases h
    exact hd
  | (k, v) :: rest, done, m, hms, hd, h => by
    obtain ⟨hv, hrest⟩ := List.forall_mem_cons.mp hms
    simp only [fitOthers] at h
    split at h
    · exact Keeps.others hf declared rest hrest hd h
    · simp only [Except.bind_eq_ok_iff, Except.mapError_eq_ok_iff] at h
      obtain ⟨w, hw, h⟩ := h
      exact Keeps.others hf declared rest hrest (hd.set k (hf hv hw)) h

end

section

variable {P : Value → Prop}

theorem keeps_tuple : ∀ (ss : List Schema), (∀ s ∈ ss, Keeps P (fit s)) →
    ∀ {vs ws : List Value} {index : Nat}, (∀ v ∈ vs, P v) → fitTuple ss index vs = .ok ws →
      ∀ w ∈ ws, P w
  | [], _, vs, ws, index, _, h => by
    cases vs <;> cases h <;> exact nofun
  | s :: ss, _, [], ws, index, _, h => by
    cases h
    exact nofun
  | s :: ss, hss, v :: vs, ws, index, hv, h => by
    simp only [fitTuple, Except.bind_eq_ok_iff, Except.mapError_eq_ok_iff,
      Except.pure_eq_ok_iff] at h
    obtain ⟨w, hw, ws', hws, rfl⟩ := h
    obtain ⟨hs, hss⟩ := List.forall_mem_cons.mp hss
    obtain ⟨hv, hrest⟩ := List.forall_mem_cons.mp hv
    exact List.forall_mem_cons.mpr ⟨hs hv hw, keeps_tuple ss hss hrest hws⟩

theorem keeps_fields : ∀ (fields : List (String × Schema)), (∀ f ∈ fields, Keeps P (fit f.2)) →
    ∀ {ms : List (String × Value)} {done m : Members Value}, (∀ e ∈ ms, P e.2) →
      SoundMembers P done → fitFields fields ms done = .ok m → SoundMembers P m
  | [], _, ms, done, m, _, hd, h => by
    cases h
    exact hd
  | (name, s) :: rest, hfields, ms, done, m, hms, hd, h => by
    obtain ⟨hs, hrest⟩ := List.forall_mem_cons.mp hfields
    simp only [fitFields] at h
    split at h
    · next v hv =>
      simp only [Except.bind_eq_ok_iff, Except.mapError_eq_ok_iff] at h
      obtain ⟨w, hw, h⟩ := h
      have hv := hms _ (Members.mem_of_get? hv)
      exact keeps_fields rest hrest hms (hd.set name (hs hv hw)) h
    · split at h
      · exact keeps_fields rest hrest hms hd h
      · cases h

theorem keeps_union : ∀ (ss : List Schema), (∀ s ∈ ss, Keeps P (fit s)) →
    ∀ {last : Option Rejection} {v w : Value}, P v → fitUnion ss last v = .ok w → P w
  | [], _, last, v, w, _, h => by cases h
  | s :: rest, hss, last, v, w, hv, h => by
    obtain ⟨hs, hrest⟩ := List.forall_mem_cons.mp hss
    simp only [fitUnion] at h
    split at h
    · next hw =>
      cases h
      exact hs hv hw
    · exact keeps_union rest hrest hv h

theorem keeps_object {fields : List (String × Schema)} {index : Option Schema}
    (hfields : ∀ f ∈ fields, Keeps P (fit f.2)) (hindex : ∀ s ∈ index, Keeps P (fit s))
    {ms : Members Value} (hms : ∀ e ∈ ms, P e.2) {w : Value}
    (h : fit (object fields index) (.object ms) = .ok w) :
    ∃ m, w = .object m ∧ SoundMembers P m := by
  unfold fit at h
  simp only [Except.bind_eq_ok_iff] at h
  obtain ⟨done, hdone, h⟩ := h
  have hd := keeps_fields fields hfields hms soundMembers_nil hdone
  cases index with
  | none =>
    cases h
    exact ⟨done, rfl, hd⟩
  | some s =>
    simp only [Except.bind_eq_ok_iff, Except.pure_eq_ok_iff] at h
    obtain ⟨m, hm, rfl⟩ := h
    exact ⟨m, rfl, Keeps.others (hindex s rfl) _ ms hms hd hm⟩

end

/-- Properties that every scalar has, and that a container has on account of its parts alone. -/
structure Inherited {ι : Type} (P : ι → Value → Prop) : Prop where
  scalar : ∀ i v, (∀ vs, v ≠ .array vs) → (∀ ms, v ≠ .object ms) → P i v
  array : ∀ {i vs}, P i (.array vs) → ∃ j, (∀ v ∈ vs, P j v) ∧
    ∀ {ws}, (∀ w ∈ ws, P j w) → P i (.array ws)
  object : ∀ {i ms}, P i (.object ms) → ∃ j, (∀ e ∈ ms, P j e.2) ∧
    ∀ {out}, SoundMembers (P j) out → P i (.object out)

section

variable {ι : Type} {P : ι → Value → Prop}

mutual

/-- Fitting keeps such properties: it changes scalars to scalars, and a container in its parts. -/
theorem keeps_fit (hP : Inherited P) : ∀ (s : Schema) (i : ι), Keeps (P i) (fit s)
  | json, i, v, w, hv, h => by
    simp only [fit, mismatch, reject] at h
    split at h
    · cases h
    · cases h
      exact hv
  | undefined, i, v, w, hv, h => by
    simp only [fit, mismatch, reject] at h
    split at h <;> cases h
    exact hP.scalar i _ nofun nofun
  | null, i, v, w, hv, h => by
    simp only [fit, mismatch, reject] at h
    split at h <;> cases h
    exact hP.scalar i _ nofun nofun
  | string _, i, v, w, hv, h
  | boolean _, i, v, w, hv, h
  | integer _, i, v, w, hv, h
  | number _, i, v, w, hv, h => by
    simp only [fit, mismatch, reject] at h
    repeat' split at h
    all_goals cases h
    all_goals exact hP.scalar i _ nofun nofun
  | array items, i, v, w, hv, h => by
    simp only [fit, mismatch, reject] at h
    split at h
    · simp only [Except.map_eq_ok_iff] at h
      obtain ⟨ws, hws, rfl⟩ := h
      obtain ⟨j, hvs, hback⟩ := hP.array hv
      exact hback (Keeps.items (keeps_fit hP items j) _ hvs hws)
    · cases h
  | tuple items, i, v, w, hv, h => by
    simp only [fit, mismatch, reject] at h
    split at h
    · split at h
      · simp only [Except.map_eq_ok_iff] at h
        obtain ⟨ws, hws, rfl⟩ := h
        obtain ⟨j, hvs, hback⟩ := hP.array hv
        exact hback (keeps_tuple items (keeps_each hP items j) hvs hws)
      · cases h
    · cases h
  | object fields index, i, v, w, hv, h => by
    cases v with
    | object ms =>
      obtain ⟨j, hms, hback⟩ := hP.object hv
      have hindex : ∀ s ∈ index, Keeps (P j) (fit s) := keeps_index hP index j
      obtain ⟨m, rfl, hm⟩ := keeps_object (keeps_members hP fields j) hindex hms h
      exact hback hm
    | _ => simp [fit, mismatch, reject] at h
  | union variants, i, v, w, hv, h => by
    rw [fit] at h
    exact keeps_union variants (keeps_each hP variants i) hv h

theorem keeps_each (hP : Inherited P) : ∀ (ss : List Schema) (i : ι), ∀ s ∈ ss, Keeps (P i) (fit s)
  | [], _ => nofun
  | s :: rest, i => List.forall_mem_cons.mpr ⟨keeps_fit hP s i, keeps_each hP rest i⟩

theorem keeps_members (hP : Inherited P) : ∀ (fields : List (String × Schema)) (i : ι),
    ∀ f ∈ fields, Keeps (P i) (fit f.2)
  | [], _ => nofun
  | (_, s) :: rest, i => List.forall_mem_cons.mpr ⟨keeps_fit hP s i, keeps_members hP rest i⟩

theorem keeps_index (hP : Inherited P) : ∀ (index : Option Schema) (i : ι),
    ∀ s ∈ index, Keeps (P i) (fit s)
  | none, _ => nofun
  | some s, i => by
    intro t ht
    obtain rfl := Option.mem_some_iff.mp ht
    exact keeps_fit hP _ i

end

end

theorem inherited_wellFormed : Inherited fun _ : Unit => WellFormed where
  scalar _ v harray hobject := by
    cases v with
    | array vs => exact absurd rfl (harray vs)
    | object ms => exact absurd rfl (hobject ms)
    | _ => trivial
  array h := ⟨(), wellFormed_array.mp h, wellFormed_array.mpr⟩
  object h := ⟨(), (wellFormed_object.mp h).2, wellFormed_object.mpr⟩

theorem wellFormed_fit (s : Schema) {v w : Value} (hv : v.WellFormed) (h : fit s v = .ok w) :
    w.WellFormed := keeps_fit inherited_wellFormed s () hv h

theorem wellFormed_decode (s : Schema) (text : String) : (s.decode text).WellFormed := by
  rw [decode_eq]
  split
  · exact wellFormed_error _ _
  · next v hv =>
    split
    · next w hw => exact wellFormed_fit s (Json.wellFormed_parse hv) hw
    · exact wellFormed_error _ _

end Schema

namespace Builtin

open Value

theorem wellFormed_concat (a b : Value) : (concat a b).WellFormed := trivial

theorem wellFormed_keysValue (keys : List String) : (keysValue keys).WellFormed := by
  simp [keysValue]

theorem wellFormed_join {a b v : Value} (h : join a b = .ok v) : v.WellFormed := by
  unfold join mismatch at h
  split at h
  · rw [Except.bind_eq_ok_iff] at h
    obtain ⟨sep, -, h⟩ := h
    cases h
    exact trivial
  · cases h

theorem wellFormed_range {first last : Int64} {v : Value} (h : range first last = .ok v) :
    v.WellFormed := by
  unfold range at h
  split at h
  · cases h
    simp
  · simp only at h
    split at h
    · cases h
    · rw [Except.bind_eq_ok_iff] at h
      obtain ⟨n, -, h⟩ := h
      cases h
      simp

theorem wellFormed_toJson {v w : Value} (h : toJson v = .ok w) : w.WellFormed := by
  unfold toJson at h
  split at h <;> cases h
  exact trivial

theorem wellFormed_fromJson {v w : Value} (h : fromJson v = .ok w) : w.WellFormed := by
  unfold fromJson at h
  rw [Except.bind_eq_ok_iff] at h
  obtain ⟨s, -, h⟩ := h
  split at h
  · next hp =>
    cases h
    exact Json.wellFormed_parse hp
  · cases h
    exact wellFormed_error _ _

theorem wellFormed_decodeJson {v d w : Value} (h : decodeJson v d = .ok w) : w.WellFormed := by
  unfold decodeJson at h
  simp only [Except.bind_eq_ok_iff] at h
  obtain ⟨s, -, t, -, h⟩ := h
  split at h
  · next schema _ =>
    cases h
    exact schema.wellFormed_decode s
  · cases h

end Builtin

namespace Store

open Value

theorem wellFormed_datum (d : Datum) : d.toValue.WellFormed := by cases d <;> exact trivial

theorem wellFormed_rowValue (names : List String) (r : Row) :
    (Database.rowValue names r).WellFormed := by
  refine wellFormed_sortedPairs fun m hm => ?_
  obtain ⟨d, -, hd⟩ := List.mem_map.mp (List.of_mem_zip hm).2
  rw [← hd]
  exact wellFormed_datum d

namespace Database

theorem wellFormed_rows {db : Database} {sql : String} {params : Value} {names : List String}
    {rs : List Value} (h : (db.rows sql params).1 = .ok (names, rs)) : ∀ r ∈ rs, r.WellFormed := by
  unfold rows at h
  split at h
  · cases h
  · simp only at h
    split at h
    · cases h
    · simp only [Except.map_eq_ok_iff, Prod.mk.injEq] at h
      obtain ⟨found, -, rfl, rfl⟩ := h
      intro r hr
      obtain ⟨row, -, rfl⟩ := List.mem_map.mp hr
      exact wellFormed_rowValue _ row

theorem wellFormed_answer {db : Database} {sql : String} {params v : Value}
    {f : List String → List Value → Except StoreError Value}
    (hf : ∀ {names rs v}, (∀ r ∈ rs, r.WellFormed) → f names rs = .ok v → v.WellFormed)
    (h : (db.answer sql params f).1 = .ok v) : v.WellFormed := by
  unfold answer at h
  simp only at h
  cases hr : (db.rows sql params).1 with
  | error e =>
    rw [hr] at h
    cases h
  | ok found =>
    rw [hr] at h
    exact hf (wellFormed_rows hr) h

theorem wellFormed_execute {db : Database} {sql : String} {params v : Value}
    (h : (db.execute sql params).1 = .ok v) : v.WellFormed := by
  unfold execute at h
  repeat' (first | split at h | simp only at h)
  all_goals cases h
  simp [Members.keys]

end Database

end Store

namespace Host

open Value

theorem wellFormed_runSql {c : SqlCall} {db : Store.Database} {sql : String} {params v : Value}
    (h : (Action.runSql c db sql params).1 = .ok v) : v.WellFormed := by
  cases c with
  | exec =>
    refine Store.Database.wellFormed_answer ?_ h
    intro names rs v hrs hv
    cases hv
    simp [Members.keys]
    exact hrs
  | query =>
    refine Store.Database.wellFormed_answer ?_ h
    intro names rs v hrs hv
    cases hv
    exact wellFormed_array.mpr hrs
  | fetchOne =>
    refine Store.Database.wellFormed_answer ?_ h
    intro names rs v hrs hv
    split at hv
    · cases hv
      exact hrs _ (by simp)
    · cases hv
  | fetchOptional =>
    refine Store.Database.wellFormed_answer ?_ h
    intro names rs v hrs hv
    split at hv
    · cases hv
      exact trivial
    · cases hv
      exact hrs _ (by simp)
    · cases hv
  | execute => exact Store.Database.wellFormed_execute h

theorem wellFormed_textResponse (r : TextResponse) (text : String) : (r.value text).WellFormed := by
  cases r <;> simp [TextResponse.value, Serve.responseValue, Serve.redirectValue, Members.keys]

theorem wellFormed_response (body contentType : String) :
    (Serve.responseValue body contentType).WellFormed := by
  simp [Serve.responseValue, Members.keys]

end Host

end GuestHost
