import GuestHost.Proofs.Schema.Fitting
/-!
Fitting once more what has been fitted. Without unions, and with no field declared twice, the second time
changes nothing: numbers have the kind that is asked for, and members stand in the order of the fields.
-/
namespace GuestHost

namespace Members

variable {α : Type}

theorem get?_append_of_notMem {key : String} {m' : Members α} (h : key ∉ keys m') (m : Members α) :
    get? key (m ++ m') = get? key m := by
  induction m with
  | nil => exact get?_eq_none h
  | cons p rest ih =>
    rw [List.cons_append, get?, get?, ih]

theorem set_append_of_notMem {key : String} {m : Members α} (h : key ∉ keys m) (a : α)
    (m' : Members α) : set key a (m ++ m') = m ++ set key a m' := by
  induction m with
  | nil => rfl
  | cons p rest ih =>
    obtain ⟨hne, hrest⟩ := not_or.mp fun hmem => h (List.mem_cons.mpr hmem)
    rw [List.cons_append, set, if_neg (Ne.symm hne), ih hrest, List.cons_append]

end Members

namespace Schema

open Value Members

mutual

/-- The property holds of the schema and of every schema inside it. -/
def Everywhere (P : Schema → Prop) : Schema → Prop
  | array items => P (array items) ∧ Everywhere P items
  | tuple items => P (tuple items) ∧ EverywhereInEach P items
  | object fields index => P (object fields index) ∧ EverywhereInFields P fields ∧
      match index with
      | none => True
      | some s => Everywhere P s
  | union variants => P (union variants) ∧ EverywhereInEach P variants
  | s => P s

def EverywhereInEach (P : Schema → Prop) : List Schema → Prop
  | [] => True
  | s :: rest => Everywhere P s ∧ EverywhereInEach P rest

def EverywhereInFields (P : Schema → Prop) : List (String × Schema) → Prop
  | [] => True
  | (_, s) :: rest => Everywhere P s ∧ EverywhereInFields P rest

end

def IsUnion : Schema → Prop
  | union _ => True
  | _ => False

/-- An object schema declares no field twice. -/
def NamesOnce : Schema → Prop
  | object fields _ => (fields.map Prod.fst).Nodup
  | _ => True

/-- What the schema makes of a value is fitted as it is. -/
def Settles (s : Schema) : Prop := ∀ {v w : Value}, fit s v = .ok w → fit s w = .ok w

theorem Settles.items {s : Schema} (h : Settles s) {vs ws : List Value} {index : Nat}
    (hws : fitItems (fit s) index vs = .ok ws) : fitItems (fit s) index ws = .ok ws := by
  induction vs generalizing ws index with
  | nil =>
    cases hws
    rfl
  | cons v vs ih =>
    simp only [fitItems, Except.bind_eq_ok_iff, Except.mapError_eq_ok_iff,
      Except.pure_eq_ok_iff] at hws
    obtain ⟨w, hw, ws, hws, rfl⟩ := hws
    rw [fitItems, h hw, ih hws]
    rfl

/-- A tuple is made of as many values as it has positions, each settled at its own. -/
theorem Settles.positions {ss : List Schema} (h : ∀ s ∈ ss, Settles s) {vs ws : List Value}
    {index : Nat} (hlength : vs.length = ss.length) (hws : fitTuple ss index vs = .ok ws) :
    ws.length = ss.length ∧ fitTuple ss index ws = .ok ws := by
  induction ss generalizing vs ws index with
  | nil =>
    cases vs <;> cases hws <;> exact ⟨rfl, rfl⟩
  | cons s ss ih =>
    cases vs with
    | nil => cases hlength
    | cons v vs =>
      obtain ⟨hs, hss⟩ := List.forall_mem_cons.mp h
      simp only [fitTuple, Except.bind_eq_ok_iff, Except.mapError_eq_ok_iff,
        Except.pure_eq_ok_iff] at hws
      obtain ⟨w, hw, ws, hws, rfl⟩ := hws
      obtain ⟨hlength', hws'⟩ := ih hss (Nat.succ.inj hlength) hws
      refine ⟨congrArg Nat.succ hlength', ?_⟩
      rw [fitTuple, hs hw, hws']
      rfl

/-! Objects. The members of fields come first, by declaration, and behind them those that an index keeps. -/

/-- The members stand in the order of the fields and are settled. A field may be missing if it can be. -/
inductive SettledFields : List (String × Schema) → Members Value → Prop
  | nil : SettledFields [] []
  | present {name : String} {s : Schema} {fields : List (String × Schema)} {w : Value}
      {ms : Members Value} (hw : fit s w = .ok w) (hrest : SettledFields fields ms) :
      SettledFields ((name, s) :: fields) ((name, w) :: ms)
  | missing {name : String} {s : Schema} {fields : List (String × Schema)} {ms : Members Value}
      (haccepts : s.acceptsUndefined = true) (hrest : SettledFields fields ms) :
      SettledFields ((name, s) :: fields) ms

/-- The members are those of other names, each once, and are settled. -/
structure SettledOthers (s : Schema) (declared : List String) (ms : Members Value) : Prop where
  once : (keys ms).Nodup
  apart : ∀ k ∈ keys ms, k ∉ declared
  settled : ∀ m ∈ ms, fit s m.2 = .ok m.2

section

variable {fields : List (String × Schema)} {ms present done out : Members Value}

/-- Names that are new, and differ from one more name, are still new behind it. -/
theorem new_behind {name : String} {names : List String} (hname : name ∉ names)
    (hnew : ∀ k ∈ names, k ∉ keys done) (w : Value) : ∀ k ∈ names, k ∉ keys (done ++ [(name, w)]) := by
  intro k hk hmem
  rw [keys, List.map_append, List.mem_append] at hmem
  rcases hmem with hmem | hmem
  · exact hnew k hk hmem
  · obtain rfl : k = name := List.mem_singleton.mp hmem
    exact hname hk

theorem SettledFields.names (h : SettledFields fields present) :
    ∀ k ∈ keys present, k ∈ fields.map Prod.fst := by
  induction h with
  | nil => exact nofun
  | present _ _ ih =>
    intro k hk
    exact List.mem_cons.mpr ((List.mem_cons.mp hk).imp id (ih k))
  | missing _ _ ih => exact fun k hk => List.mem_cons_of_mem _ (ih k hk)

/-- Fields of new names are added one behind the other. -/
theorem settledFields_behind (hs : ∀ f ∈ fields, Settles f.2)
    (honce : (fields.map Prod.fst).Nodup) (hnew : ∀ k ∈ fields.map Prod.fst, k ∉ keys done)
    (h : fitFields fields ms done = .ok out) :
    ∃ present, out = done ++ present ∧ SettledFields fields present := by
  induction fields generalizing done with
  | nil =>
    cases h
    exact ⟨[], (List.append_nil _).symm, .nil⟩
  | cons f rest ih =>
    obtain ⟨name, s⟩ := f
    obtain ⟨hsettles, hrest⟩ := List.forall_mem_cons.mp hs
    obtain ⟨hname, honce⟩ := List.nodup_cons.mp honce
    obtain ⟨hnewName, hnew⟩ := List.forall_mem_cons.mp hnew
    rw [fitFields] at h
    split at h
    · next v _ =>
      simp only [Except.bind_eq_ok_iff, Except.mapError_eq_ok_iff] at h
      obtain ⟨w, hw, h⟩ := h
      rw [set_of_notMem hnewName] at h
      obtain ⟨present, rfl, hpresent⟩ := ih hrest honce (new_behind hname hnew w) h
      exact ⟨(name, w) :: present, by simp, .present (hsettles hw) hpresent⟩
    · split at h
      · next haccepts =>
        obtain ⟨present, rfl, hpresent⟩ := ih hrest honce hnew h
        exact ⟨present, rfl, .missing haccepts hpresent⟩
      · cases h

theorem settledFields_of_fitFields (hs : ∀ f ∈ fields, Settles f.2)
    (honce : (fields.map Prod.fst).Nodup) (h : fitFields fields ms [] = .ok out) :
    SettledFields fields out := by
  obtain ⟨present, rfl, hpresent⟩ := settledFields_behind hs honce (fun _ _ => List.not_mem_nil) h
  exact hpresent

/-- Of other members it counts only that they are none of the fields. -/
theorem SettledFields.refit_behind (h : SettledFields fields present) (honce : (fields.map Prod.fst).Nodup)
    (hnew : ∀ k ∈ fields.map Prod.fst, k ∉ keys done)
    (hget : ∀ k ∈ fields.map Prod.fst, get? k ms = get? k present) :
    fitFields fields ms done = .ok (done ++ present) := by
  induction h generalizing done with
  | nil => rw [fitFields, List.append_nil]
  | @present name s fields w present hw _ ih =>
    obtain ⟨hname, honce⟩ := List.nodup_cons.mp honce
    obtain ⟨hnewName, hnew⟩ := List.forall_mem_cons.mp hnew
    obtain ⟨hgetName, hget⟩ := List.forall_mem_cons.mp hget
    have hfound : get? name ms = some w := hgetName.trans (if_pos rfl)
    have hget' : ∀ k ∈ fields.map Prod.fst, get? k ms = get? k present := by
      intro k hk
      rw [hget k hk, get?, if_neg]
      rintro rfl
      exact hname hk
    rw [fitFields, hfound]
    simp only [hw]
    rw [List.append_cons, ← ih honce (new_behind hname hnew w) hget', ← set_of_notMem hnewName]
    rfl
  | @missing name s fields present haccepts hrest ih =>
    obtain ⟨hname, honce⟩ := List.nodup_cons.mp honce
    obtain ⟨hnewName, hnew⟩ := List.forall_mem_cons.mp hnew
    obtain ⟨hgetName, hget⟩ := List.forall_mem_cons.mp hget
    have hfound : get? name ms = none :=
      hgetName.trans (get?_eq_none fun hmem => hname (hrest.names name hmem))
    rw [fitFields, hfound]
    simp only [haccepts, if_true]
    exact ih honce hnew hget

theorem SettledFields.refit (h : SettledFields fields present) (honce : (fields.map Prod.fst).Nodup)
    (hget : ∀ k ∈ fields.map Prod.fst, get? k ms = get? k present) :
    fitFields fields ms [] = .ok present :=
  h.refit_behind honce (fun _ _ => List.not_mem_nil) hget

variable {s : Schema} {declared : List String} {others : Members Value}

theorem SettledOthers.set {k : String} {w : Value} (h : SettledOthers s declared others)
    (hk : k ∉ declared) (hw : fit s w = .ok w) : SettledOthers s declared (Members.set k w others) where
  once := nodup_keys_set h.once k w
  apart := by
    intro key hkey
    rw [keys_set] at hkey
    split at hkey
    · exact h.apart key hkey
    · rcases List.mem_append.mp hkey with hkey | hkey
      · exact h.apart key hkey
      · exact List.mem_singleton.mp hkey ▸ hk
  settled := by
    intro m hm
    rcases mem_of_mem_set hm with rfl | hm
    · exact hw
    · exact h.settled m hm

theorem settledOthers_behind (hs : Settles s) (hpresent : ∀ k ∈ keys present, k ∈ declared)
    (hothers : SettledOthers s declared others)
    (h : fitOthers (fit s) declared (present ++ others) ms = .ok out) :
    ∃ others', out = present ++ others' ∧ SettledOthers s declared others' := by
  induction ms generalizing others with
  | nil =>
    cases h
    exact ⟨others, rfl, hothers⟩
  | cons m rest ih =>
    obtain ⟨k, v⟩ := m
    rw [fitOthers] at h
    split at h
    · exact ih hothers h
    · next hk =>
      simp only [Except.bind_eq_ok_iff, Except.mapError_eq_ok_iff] at h
      obtain ⟨w, hw, h⟩ := h
      rw [set_append_of_notMem fun hmem => hk (hpresent k hmem)] at h
      exact ih (hothers.set hk (hs hw)) h

theorem settledOthers_of_fitOthers (hs : Settles s) (hpresent : ∀ k ∈ keys present, k ∈ declared)
    (h : fitOthers (fit s) declared present ms = .ok out) :
    ∃ others, out = present ++ others ∧ SettledOthers s declared others := by
  have hnone : SettledOthers s declared [] := ⟨List.nodup_nil, nofun, nofun⟩
  rw [← List.append_nil present] at h
  exact settledOthers_behind hs hpresent hnone h

theorem fitOthers_of_declared {fit : Value → Except Rejection Value}
    (hpresent : ∀ k ∈ keys present, k ∈ declared) :
    fitOthers fit declared done (present ++ others) = fitOthers fit declared done others := by
  induction present with
  | nil => rfl
  | cons m rest ih =>
    obtain ⟨hm, hrest⟩ := List.forall_mem_cons.mp hpresent
    rw [List.cons_append, fitOthers, if_pos hm, ih hrest]

theorem SettledOthers.refit (h : SettledOthers s declared others)
    (hnew : ∀ k ∈ keys others, k ∉ keys done) :
    fitOthers (fit s) declared done others = .ok (done ++ others) := by
  obtain ⟨honce, hapart, hsettled⟩ := h
  induction others generalizing done with
  | nil => rw [fitOthers, List.append_nil]
  | cons m rest ih =>
    obtain ⟨k, w⟩ := m
    obtain ⟨hk, honce⟩ := List.nodup_cons.mp honce
    obtain ⟨hapartHead, hapart⟩ := List.forall_mem_cons.mp hapart
    obtain ⟨hw, hsettled⟩ := List.forall_mem_cons.mp hsettled
    obtain ⟨hnewHead, hnew⟩ := List.forall_mem_cons.mp hnew
    rw [fitOthers, if_neg hapartHead, hw, List.append_cons,
      ← ih (new_behind hk hnew w) honce hapart hsettled, ← set_of_notMem hnewHead]
    rfl

end

/-! One form of schema after the other. -/

namespace Settles

theorem ofFields {fields : List (String × Schema)} (hs : ∀ f ∈ fields, Settles f.2)
    (honce : (fields.map Prod.fst).Nodup) : Settles (object fields none) := by
  intro v w h
  cases v with
  | object ms =>
    simp only [fit, Except.bind_eq_ok_iff, Except.pure_eq_ok_iff] at h
    obtain ⟨out, hout, rfl⟩ := h
    have hpresent : SettledFields fields out := settledFields_of_fitFields hs honce hout
    have hagain : fitFields fields out [] = .ok out := hpresent.refit honce fun _ _ => rfl
    rw [fit, hagain]
    rfl
  | _ => simp [fit, mismatch, reject] at h

theorem ofIndexed {fields : List (String × Schema)} {s : Schema} (hfields : ∀ f ∈ fields, Settles f.2)
    (hs : Settles s) (honce : (fields.map Prod.fst).Nodup) : Settles (object fields (some s)) := by
  intro v w h
  cases v with
  | object ms =>
    simp only [fit, Except.bind_eq_ok_iff, Except.pure_eq_ok_iff] at h
    obtain ⟨done, hdone, out, hout, rfl⟩ := h
    have hpresent : SettledFields fields done := settledFields_of_fitFields hfields honce hdone
    obtain ⟨others, rfl, hothers⟩ := settledOthers_of_fitOthers hs hpresent.names hout
    have hfirst : fitFields fields (done ++ others) [] = .ok done :=
      hpresent.refit honce fun k hk =>
        get?_append_of_notMem (fun hmem => hothers.apart k hmem hk) done
    have hsecond : fitOthers (fit s) (fields.map Prod.fst) done (done ++ others) =
        .ok (done ++ others) := by
      rw [fitOthers_of_declared hpresent.names]
      exact hothers.refit fun k hk hmem => hothers.apart k hk (hpresent.names k hmem)
    rw [fit, hfirst]
    simp only [Except.ok_bind, hsecond]
    rfl
  | _ => simp [fit, mismatch, reject] at h

theorem ofArray {s : Schema} (hs : Settles s) : Settles (array s) := by
  intro v w h
  cases v with
  | array vs =>
    simp only [fit, Except.map_eq_ok_iff] at h
    obtain ⟨ws, hws, rfl⟩ := h
    rw [fit, hs.items hws]
    rfl
  | _ => simp [fit, mismatch, reject] at h

theorem ofTuple {ss : List Schema} (hss : ∀ s ∈ ss, Settles s) : Settles (tuple ss) := by
  intro v w h
  cases v with
  | array vs =>
    rw [fit] at h
    split at h
    · next hlength =>
      simp only [Except.map_eq_ok_iff] at h
      obtain ⟨ws, hws, rfl⟩ := h
      obtain ⟨hlength', hws'⟩ := positions hss hlength hws
      rw [fit, if_pos hlength', hws']
      rfl
    · simp [reject] at h
  | _ => simp [fit, mismatch, reject] at h

theorem of_unchanged {s : Schema} (hs : ∀ {v w : Value}, fit s v = .ok w → v = w) : Settles s := by
  intro v w h
  obtain rfl := hs h
  exact h

theorem ofJson : Settles json := of_unchanged fun {v w} h => by
  cases v <;> simp_all [fit, isUndefined, mismatch, reject]

theorem ofUndefined : Settles undefined := of_unchanged fun {v w} h => by
  cases v <;> simp_all [fit, isUndefined, mismatch, reject]

theorem ofNull : Settles null := of_unchanged fun {v w} h => by
  cases v <;> simp_all [fit, mismatch, reject]

theorem ofString (literal : Option String) : Settles (string literal) := of_unchanged fun {v w} h => by
  cases v with
  | string s => cases literal <;> simp_all [fit, guarded_iff]
  | _ => simp [fit, mismatch, reject] at h

theorem ofBoolean (literal : Option Bool) : Settles (boolean literal) := of_unchanged fun {v w} h => by
  cases v with
  | boolean b => cases literal <;> simp_all [fit, guarded_iff]
  | _ => simp [fit, mismatch, reject] at h

/-- A number is compared with a literal as the kind that is asked for, so it is compared with the same
when it is of that kind already. -/
theorem ofInteger (literal : Option Int64) : Settles (integer literal) := by
  intro v w h
  rw [fit] at h
  cases hn : integerOf? v with
  | none => simp [hn, mismatch, reject] at h
  | some n =>
    have hself : integerOf? (.integer n) = some n := rfl
    simp only [hn] at h
    cases literal with
    | none =>
      cases h
      rw [fit, hself]
    | some l =>
      obtain ⟨rfl, hl⟩ := guarded_iff.mp h
      simp only [fit, hself, if_pos hl]

theorem ofNumber (literal : Option Float) : Settles (number literal) := by
  intro v w h
  rw [fit] at h
  cases hx : floatOf? v with
  | none => simp [hx, mismatch, reject] at h
  | some x =>
    have hself : floatOf? (.float x) = some x := rfl
    simp only [hx] at h
    cases literal with
    | none =>
      cases h
      rw [fit, hself]
    | some l =>
      obtain ⟨rfl, hl⟩ := guarded_iff.mp h
      simp only [fit, hself, if_pos hl]

end Settles

mutual

theorem settles : ∀ {s : Schema}, Everywhere (¬IsUnion ·) s → Everywhere NamesOnce s → Settles s
  | json, _, _ => Settles.ofJson
  | undefined, _, _ => Settles.ofUndefined
  | null, _, _ => Settles.ofNull
  | string literal, _, _ => Settles.ofString literal
  | boolean literal, _, _ => Settles.ofBoolean literal
  | integer literal, _, _ => Settles.ofInteger literal
  | number literal, _, _ => Settles.ofNumber literal
  | array _, hunion, honce => Settles.ofArray (settles hunion.2 honce.2)
  | tuple _, hunion, honce => Settles.ofTuple (settles_each hunion.2 honce.2)
  | object _ none, hunion, honce => Settles.ofFields (settles_fields hunion.2.1 honce.2.1) honce.1
  | object _ (some _), hunion, honce =>
    Settles.ofIndexed (settles_fields hunion.2.1 honce.2.1) (settles hunion.2.2 honce.2.2) honce.1
  | union _, hunion, _ => absurd trivial hunion.1

theorem settles_each : ∀ {ss : List Schema}, EverywhereInEach (¬IsUnion ·) ss →
    EverywhereInEach NamesOnce ss → ∀ s ∈ ss, Settles s
  | [], _, _ => nofun
  | _ :: _, hunion, honce =>
    List.forall_mem_cons.mpr ⟨settles hunion.1 honce.1, settles_each hunion.2 honce.2⟩

theorem settles_fields : ∀ {fields : List (String × Schema)}, EverywhereInFields (¬IsUnion ·) fields →
    EverywhereInFields NamesOnce fields → ∀ f ∈ fields, Settles f.2
  | [], _, _ => nofun
  | (_, _) :: _, hunion, honce =>
    List.forall_mem_cons.mpr ⟨settles hunion.1 honce.1, settles_fields hunion.2 honce.2⟩

end

/-- Where a schema has no union and declares no field twice, whatever it makes of a value it leaves as it
is: kinds, payloads, and the members of objects in their order. -/
theorem fit_idempotent {s : Schema} (hunion : Everywhere (¬IsUnion ·) s) (honce : Everywhere NamesOnce s)
    {v w : Value} (h : fit s v = .ok w) : fit s w = .ok w :=
  settles hunion honce h

/-- An integer with a literal, a pair, a field that cannot be there, and an index for lists of objects. -/
def sheetSchema : Schema := .object
  [("size", .integer (some 3)), ("pair", .tuple [.number none, .json]), ("gone", .undefined)]
  (some (.array (.object [("b", .string none), ("a", .boolean (some true))] none)))

def sheet : Value := .object
  [("more", .array [.object [("a", .boolean true), ("x", .null), ("b", .string "t")]]),
   ("pair", .array [.integer 2, .null]), ("size", .float (Float.ofBits 0x4008000000000000))]

def fittedSheet : Value := .object
  [("size", .integer 3), ("pair", .array [.float (Decimal.ofInt64 2), .null]),
   ("more", .array [.object [("b", .string "t"), ("a", .boolean true)]])]

theorem fit_sheet : sheetSchema.fit sheet = .ok fittedSheet := by
  have hsize : integerOf? (.float (Float.ofBits 0x4008000000000000)) = some 3 := by decide +kernel
  simp [sheetSchema, sheet, fittedSheet, fit, fitFields, fitTuple, fitOthers, fitItems, Members.get?,
    Members.set, hsize, floatOf?, Except.map, Except.mapError, acceptsUndefined, isUndefined]

theorem fittedSheet_fits : Everywhere (¬IsUnion ·) sheetSchema ∧ Everywhere NamesOnce sheetSchema ∧
    sheetSchema.fit sheet = .ok fittedSheet ∧ sheetSchema.fit fittedSheet = .ok fittedSheet := by
  have hunion : Everywhere (¬IsUnion ·) sheetSchema := by
    simp [sheetSchema, Everywhere, EverywhereInEach, EverywhereInFields, IsUnion]
  have honce : Everywhere NamesOnce sheetSchema := by
    simp [sheetSchema, Everywhere, EverywhereInEach, EverywhereInFields, NamesOnce]
  exact ⟨hunion, honce, fit_sheet, fit_idempotent hunion honce fit_sheet⟩

end Schema
end GuestHost
