import GuestHost.Proofs.Schema.Fitting
/-!
Which failure fitting reports. A value that does not fit is blamed on the first of its parts, in the order
in which they are looked at, that does not fit what is asked of it; and where no variant fits, on what is
wrong with the value under the last one.
-/
namespace GuestHost.Schema

open Value Members

/-- Among the elements of a list, one that meets a condition stands behind others that all pass. -/
def FirstAmong {α : Type} (Pass : α → Prop) (Meets : Nat → α → Prop) (l : List α) : Prop :=
  ∃ before a after, l = before ++ a :: after ∧ (∀ b ∈ before, Pass b) ∧ Meets before.length a

section

variable {α : Type}

theorem mem_of_split {l before after : List α} {a : α} (h : l = before ++ a :: after) : a ∈ l :=
  h ▸ List.mem_append_right before List.mem_cons_self

theorem mem_of_before {l before after : List α} {a b : α} (h : l = before ++ a :: after)
    (hb : b ∈ before) : b ∈ l := h ▸ List.mem_append_left _ hb

theorem getElem?_of_split {l before after : List α} {a : α} (h : l = before ++ a :: after) :
    l[before.length]? = some a := by
  rw [h, List.getElem?_append_right (Nat.le_refl _), Nat.sub_self]
  rfl

variable {Pass : α → Prop} {Meets : Nat → α → Prop}

theorem not_firstAmong_nil : ¬FirstAmong Pass Meets [] := by
  rintro ⟨before, a, after, h, -⟩
  cases before <;> cases h

theorem firstAmong_cons_iff {a : α} {l : List α} : FirstAmong Pass Meets (a :: l) ↔
    Meets 0 a ∨ Pass a ∧ FirstAmong Pass (fun i => Meets (i + 1)) l := by
  constructor
  · rintro ⟨before, b, after, hl, hpass, hmeets⟩
    cases before with
    | nil =>
      cases hl
      exact .inl hmeets
    | cons c before =>
      cases hl
      obtain ⟨hc, hbefore⟩ := List.forall_mem_cons.mp hpass
      exact .inr ⟨hc, before, b, after, rfl, hbefore, hmeets⟩
  · rintro (h | ⟨ha, before, b, after, rfl, hpass, hmeets⟩)
    · exact ⟨[], a, l, rfl, nofun, h⟩
    · exact ⟨a :: before, b, after, rfl, List.forall_mem_cons.mpr ⟨ha, hpass⟩, hmeets⟩

/-- The same with positions that count from an index on. -/
theorem firstAmong_cons_from_iff (Meets : Nat → α → Prop) {index : Nat} {a : α} {l : List α} :
    FirstAmong Pass (fun i => Meets (index + i)) (a :: l) ↔
      Meets index a ∨ Pass a ∧ FirstAmong Pass (fun i => Meets (index + 1 + i)) l := by
  have hshift : (fun i => Meets (index + (i + 1))) = fun i => Meets (index + 1 + i) :=
    funext fun i => congrArg Meets (by omega)
  rw [firstAmong_cons_iff, hshift, Nat.add_zero]

end

/-! Where the parts of a value stop the fitting. -/

section

variable {fit : Value → Except Rejection Value} {r : Rejection}

/-- One more item fails by itself, or else as the others do. -/
theorem consed_eq_error_iff {x : Except Rejection Value} {f : Rejection → Rejection}
    {y : Except Rejection (List Value)} :
    (do
      let w ← x.mapError f
      let ws ← y
      return w :: ws) = .error r ↔
        x.mapError f = .error r ∨ (∃ w, x = .ok w) ∧ y = .error r := by
  simp only [Except.bind_eq_error_iff, Except.mapError_eq_ok_iff]
  refine or_congr Iff.rfl ⟨?_, ?_⟩
  · rintro ⟨w, hw, h | ⟨ws, -, h⟩⟩
    · exact ⟨⟨w, hw⟩, h⟩
    · cases h
  · rintro ⟨⟨w, hw⟩, h⟩
    exact ⟨w, hw, .inl h⟩

theorem fitItems_eq_error_iff {vs : List Value} {index : Nat} :
    fitItems fit index vs = .error r ↔ FirstAmong (fun v => ∃ w, fit v = .ok w)
      (fun i v => (fit v).mapError (Rejection.under (.item (index + i))) = .error r) vs := by
  induction vs generalizing index with
  | nil => exact iff_of_false nofun not_firstAmong_nil
  | cons v rest ih =>
    rw [fitItems, consed_eq_error_iff, ih, firstAmong_cons_from_iff fun n v =>
      (fit v).mapError (Rejection.under (.item n)) = .error r]

theorem fitOthers_eq_error_iff {declared : List String} {done ms : Members Value} :
    fitOthers fit declared done ms = .error r ↔
      FirstAmong (fun m => m.1 ∉ declared → ∃ w, fit m.2 = .ok w)
        (fun _ m => m.1 ∉ declared ∧ (fit m.2).mapError (Rejection.under (.field m.1)) = .error r)
        ms := by
  induction ms generalizing done with
  | nil => exact iff_of_false nofun not_firstAmong_nil
  | cons m rest ih =>
    obtain ⟨key, v⟩ := m
    rw [fitOthers, firstAmong_cons_iff]
    split
    · next hdeclared =>
      rw [ih]
      constructor
      · exact fun h => .inr ⟨fun hfree => absurd hdeclared hfree, h⟩
      · exact fun h => h.elim (fun h => absurd hdeclared h.1) And.right
    · next hfree =>
      simp only [Except.bind_eq_error_iff, Except.mapError_eq_ok_iff, ih]
      refine or_congr (iff_and_self.mpr fun _ => hfree) ⟨?_, ?_⟩
      · rintro ⟨w, hw, h⟩
        exact ⟨fun _ => ⟨w, hw⟩, h⟩
      · rintro ⟨hw, h⟩
        obtain ⟨w, hw⟩ := hw hfree
        exact ⟨w, hw, h⟩

end

section

variable {r : Rejection}

theorem fitTuple_eq_error_iff {ss : List Schema} {vs : List Value} {index : Nat} :
    fitTuple ss index vs = .error r ↔ FirstAmong (fun p => ∃ w, fit p.1 p.2 = .ok w)
      (fun i p => (fit p.1 p.2).mapError (Rejection.under (.item (index + i))) = .error r)
      (ss.zip vs) := by
  induction ss generalizing vs index with
  | nil =>
    refine iff_of_false ?_ not_firstAmong_nil
    cases vs <;> exact nofun
  | cons s ss ih =>
    cases vs with
    | nil => exact iff_of_false nofun not_firstAmong_nil
    | cons v vs =>
      rw [fitTuple, consed_eq_error_iff, ih, List.zip_cons_cons,
        firstAmong_cons_from_iff fun n (p : Schema × Value) =>
          (fit p.1 p.2).mapError (Rejection.under (.item n)) = .error r]

/-- What an object has under the name of a field, which is undefined if it has nothing. -/
def fieldOf (ms : Members Value) (f : String × Schema) : Value := (get? f.1 ms).getD .undefined

/-- How a field stops the fitting: its member does not fit, or is missing. -/
def StopsAt (ms : Members Value) (r : Rejection) (f : String × Schema) : Prop :=
  match get? f.1 ms with
  | some v => (fit f.2 v).mapError (Rejection.under (.field f.1)) = .error r
  | none => f.2.acceptsUndefined = false ∧ r = ⟨.missingField, [.field f.1]⟩

/-- A field may be missing if what is undefined fits it. -/
theorem exists_fit_undefined_iff (s : Schema) :
    (∃ w, fit s .undefined = .ok w) ↔ s.acceptsUndefined = true := by
  simp only [agrees s wellFormed_undefined, conforms_undefined_iff]
  exact ⟨fun ⟨_, h, _⟩ => h, fun h => ⟨_, h, rfl⟩⟩

theorem fitFields_eq_error_iff {fields : List (String × Schema)} {ms done : Members Value} :
    fitFields fields ms done = .error r ↔
      FirstAmong (fun f => ∃ w, fit f.2 (fieldOf ms f) = .ok w) (fun _ => StopsAt ms r) fields := by
  induction fields generalizing done with
  | nil => exact iff_of_false nofun not_firstAmong_nil
  | cons f rest ih =>
    obtain ⟨name, s⟩ := f
    rw [fitFields, firstAmong_cons_iff, StopsAt, fieldOf]
    cases get? name ms with
    | some v =>
      simp only [Except.bind_eq_error_iff, Except.mapError_eq_ok_iff, ih, Option.getD_some]
      refine or_congr Iff.rfl ⟨?_, ?_⟩
      · rintro ⟨w, hw, h⟩
        exact ⟨⟨w, hw⟩, h⟩
      · rintro ⟨⟨w, hw⟩, h⟩
        exact ⟨w, hw, h⟩
    | none =>
      simp only [Option.getD_none, exists_fit_undefined_iff]
      cases s.acceptsUndefined with
      | true => simp [ih]
      | false => simp [eq_comm]

theorem exists_ok_fitFields_iff {fields : List (String × Schema)} {ms done : Members Value} :
    (∃ out, fitFields fields ms done = .ok out) ↔
      ∀ f ∈ fields, ∃ w, fit f.2 (fieldOf ms f) = .ok w := by
  induction fields generalizing done with
  | nil => simp [fitFields]
  | cons f rest ih =>
    obtain ⟨name, s⟩ := f
    rw [List.forall_mem_cons, fitFields, fieldOf]
    cases get? name ms with
    | some v =>
      simp only [Except.bind_eq_ok_iff, Except.mapError_eq_ok_iff, Option.getD_some]
      constructor
      · rintro ⟨out, w, hw, hout⟩
        exact ⟨⟨w, hw⟩, ih.mp ⟨out, hout⟩⟩
      · rintro ⟨⟨w, hw⟩, hrest⟩
        obtain ⟨out, hout⟩ := ih.mpr hrest
        exact ⟨out, w, hw, hout⟩
    | none =>
      simp only [Option.getD_none, exists_fit_undefined_iff]
      cases s.acceptsUndefined with
      | true => simp [ih]
      | false => simp

/-- No variant fits, and the last one says why. -/
theorem fitUnion_eq_error_iff {ss : List Schema} {last : Option Rejection} {v : Value} :
    fitUnion ss last v = .error r ↔ (∀ s ∈ ss, ¬∃ w, fit s v = .ok w) ∧
      match ss.getLast? with
      | none => last.getD ⟨.noVariants, []⟩ = r
      | some s => fit s v = .error r := by
  induction ss generalizing last with
  | nil => simp [fitUnion]
  | cons s rest ih =>
    rw [fitUnion, List.forall_mem_cons]
    cases hfit : fit s v with
    | ok w => simp
    | error e =>
      rw [ih]
      cases rest with
      | nil => simp [hfit]
      | cons t ts =>
        obtain ⟨u, hu⟩ : ∃ u, (t :: ts).getLast? = some u := ⟨_, List.getLast?_cons⟩
        simp [List.getLast?_cons_cons, hu]

end

/-! What is reported. -/

/-- A value is of the kind that a schema is about. -/
def Suits : Schema → Value → Prop
  | json, v => v ≠ .undefined
  | undefined, v => v = .undefined
  | null, v => v = .null
  | string _, v => ∃ s, v = .string s
  | boolean _, v => ∃ b, v = .boolean b
  | integer _, v => ∃ n, integerOf? v = some n
  | number _, v => ∃ x, floatOf? v = some x
  | array _, v => ∃ vs, v = .array vs
  | tuple _, v => ∃ vs, v = .array vs
  | object _ _, v => ∃ ms, v = .object ms
  | union _, _ => True

/-- Why a value does not fit whatever its parts are. -/
inductive Clash : Schema → Value → Reason → Prop where
  | kind {s : Schema} {v : Value} (h : ¬Suits s v) : Clash s v (.mismatch s.name v.kind)
  | stringLiteral {l s : String} (h : l ≠ s) :
    Clash (string (some l)) (.string s) (.stringLiteral l)
  | booleanLiteral {l b : Bool} (h : l ≠ b) :
    Clash (boolean (some l)) (.boolean b) (.otherLiteral (if l then "true" else "false"))
  | integerLiteral {l n : Int64} {v : Value} (hn : integerOf? v = some n) (h : l ≠ n) :
    Clash (integer (some l)) v (.otherLiteral (String.ofList (Json.integerText l.toInt)))
  | numberLiteral {l x : Float} {v : Value} (hx : floatOf? v = some x) (h : ¬(l == x) = true) :
    Clash (number (some l)) v (.otherLiteral (String.ofList (Decimal.plainText l)))
  | tupleLength {ss : List Schema} {vs : List Value} (h : vs.length ≠ ss.length) :
    Clash (tuple ss) (.array vs) (.tupleLength ss.length vs.length)
  | noVariants {v : Value} : Clash (union []) v .noVariants

/-- The value can conform to the schema. -/
def Accepts (s : Schema) (v : Value) : Prop := ∃ w, Conforms s v w

/-- The failure that is to be reported: why, and the way to the part that is to blame. Everything that is
looked at before that part is accepted; of a union every variant rejects the value, and the last one says
why. -/
inductive Blames : Schema → Value → Reason → List Accessor → Prop where
  | here {s : Schema} {v : Value} {reason : Reason} (h : Clash s v reason) : Blames s v reason []
  | item {s : Schema} {vs before after : List Value} {v : Value} {reason : Reason}
    {path : List Accessor} (hsplit : vs = before ++ v :: after) (hbefore : ∀ u ∈ before, Accepts s u)
    (h : Blames s v reason path) :
    Blames (array s) (.array vs) reason (.item before.length :: path)
  | place {ss : List Schema} {vs : List Value} {before after : List (Schema × Value)} {s : Schema}
    {v : Value} {reason : Reason} {path : List Accessor} (hlength : vs.length = ss.length)
    (hsplit : ss.zip vs = before ++ (s, v) :: after) (hbefore : ∀ p ∈ before, Accepts p.1 p.2)
    (h : Blames s v reason path) :
    Blames (tuple ss) (.array vs) reason (.item before.length :: path)
  | field {fields before after : List (String × Schema)} {index : Option Schema} {ms : Members Value}
    {name : String} {s : Schema} {v : Value} {reason : Reason} {path : List Accessor}
    (hsplit : fields = before ++ (name, s) :: after)
    (hbefore : ∀ f ∈ before, Accepts f.2 (fieldOf ms f)) (hv : get? name ms = some v)
    (h : Blames s v reason path) :
    Blames (object fields index) (.object ms) reason (.field name :: path)
  | missing {fields before after : List (String × Schema)} {index : Option Schema}
    {ms : Members Value} {name : String} {s : Schema} (hsplit : fields = before ++ (name, s) :: after)
    (hbefore : ∀ f ∈ before, Accepts f.2 (fieldOf ms f)) (hnone : get? name ms = none)
    (h : ¬Accepts s .undefined) :
    Blames (object fields index) (.object ms) .missingField [.field name]
  | other {fields : List (String × Schema)} {s : Schema} {ms before after : Members Value}
    {key : String} {v : Value} {reason : Reason} {path : List Accessor}
    (hfields : ∀ f ∈ fields, Accepts f.2 (fieldOf ms f)) (hsplit : ms = before ++ (key, v) :: after)
    (hbefore : ∀ m ∈ before, m.1 ∉ fields.map Prod.fst → Accepts s m.2)
    (hkey : key ∉ fields.map Prod.fst) (h : Blames s v reason path) :
    Blames (object fields (some s)) (.object ms) reason (.field key :: path)
  | variant {ss : List Schema} {s : Schema} {v : Value} {reason : Reason} {path : List Accessor}
    (hall : ∀ t ∈ ss, ¬Accepts t v) (hlast : ss.getLast? = some s) (h : Blames s v reason path) :
    Blames (union ss) v reason path

theorem accepts_iff {s : Schema} {v : Value} (hv : v.WellFormed) :
    Accepts s v ↔ ∃ w, fit s v = .ok w := by
  simp only [agrees s hv, Accepts]

theorem wellFormed_fieldOf {ms : Members Value} (hms : ∀ m ∈ ms, m.2.WellFormed)
    (f : String × Schema) : (fieldOf ms f).WellFormed := by
  rw [fieldOf]
  cases hx : get? f.1 ms with
  | none => exact wellFormed_undefined
  | some x => exact hms _ (mem_of_get? hx)

/-- A clash is reported where it is met. -/
theorem fit_of_clash {s : Schema} {v : Value} {reason : Reason} (h : Clash s v reason) :
    fit s v = .error ⟨reason, []⟩ := by
  cases h with
  | kind h =>
    cases s with
    | integer literal =>
      rw [fit, Option.eq_none_iff_forall_ne_some.mpr fun n hn => h ⟨n, hn⟩]
      rfl
    | number literal =>
      rw [fit, Option.eq_none_iff_forall_ne_some.mpr fun x hx => h ⟨x, hx⟩]
      rfl
    | union variants => exact absurd trivial h
    | _ => cases v <;> first | rfl | simp [Suits] at h
  | stringLiteral h => simp [fit, h, reject]
  | booleanLiteral h => simp [fit, h, reject]
  | integerLiteral hn h => simp [fit, hn, h, reject]
  | numberLiteral hx h => simp [fit, hx, h, reject]
  | tupleLength h => simp [fit, h, reject]
  | noVariants => simp [fit, fitUnion]

/-- What is to be reported is reported. -/
theorem fit_of_blames {s : Schema} {v : Value} {reason : Reason} {path : List Accessor}
    (h : Blames s v reason path) (hv : v.WellFormed) : fit s v = .error ⟨reason, path⟩ := by
  -- each rule says which parts pass and which one stops, and so where the search among parts ends
  induction h with
  | here h => exact fit_of_clash h
  | @item s vs before after v reason path hsplit hbefore h ih =>
    have hvs := wellFormed_array.mp hv
    have hmem : v ∈ vs := mem_of_split hsplit
    simp only [fit, Except.map_eq_error_iff, fitItems_eq_error_iff]
    refine ⟨before, v, after, hsplit, fun u hu => ?_, ?_⟩
    · exact (accepts_iff (hvs u (mem_of_before hsplit hu))).mp (hbefore u hu)
    · simp only [ih (hvs v hmem), Nat.zero_add]
      rfl
  | @place ss vs before after s v reason path hlength hsplit hbefore h ih =>
    have hvs : ∀ p ∈ ss.zip vs, p.2.WellFormed := fun p hp =>
      wellFormed_array.mp hv p.2 (List.of_mem_zip hp).2
    have hmem : (s, v) ∈ ss.zip vs := mem_of_split hsplit
    simp only [fit, if_pos hlength, Except.map_eq_error_iff, fitTuple_eq_error_iff]
    refine ⟨before, (s, v), after, hsplit, fun p hp => ?_, ?_⟩
    · exact (accepts_iff (hvs p (mem_of_before hsplit hp))).mp (hbefore p hp)
    · simp only [ih (hvs _ hmem), Nat.zero_add]
      rfl
  | @field fields before after index ms name s v reason path hsplit hbefore hget h ih =>
    obtain ⟨-, hms⟩ := wellFormed_object.mp hv
    have hfields : fitFields fields ms [] = .error ⟨reason, .field name :: path⟩ := by
      refine fitFields_eq_error_iff.mpr ⟨before, (name, s), after, hsplit, fun f hf => ?_, ?_⟩
      · exact (accepts_iff (wellFormed_fieldOf hms f)).mp (hbefore f hf)
      · simp only [StopsAt, hget, ih (hms _ (mem_of_get? hget))]
        rfl
    simp only [fit, hfields, Except.error_bind]
  | @missing fields before after index ms name s hsplit hbefore hnone h =>
    obtain ⟨-, hms⟩ := wellFormed_object.mp hv
    have hfields : fitFields fields ms [] = .error ⟨.missingField, [.field name]⟩ := by
      refine fitFields_eq_error_iff.mpr ⟨before, (name, s), after, hsplit, fun f hf => ?_, ?_⟩
      · exact (accepts_iff (wellFormed_fieldOf hms f)).mp (hbefore f hf)
      · rw [accepts_iff wellFormed_undefined, exists_fit_undefined_iff, Bool.not_eq_true] at h
        simp only [StopsAt, hnone, h, and_self]
    simp only [fit, hfields, Except.error_bind]
  | @other fields s ms before after key v reason path hfields hsplit hbefore hkey h ih =>
    obtain ⟨-, hms⟩ := wellFormed_object.mp hv
    have hmem : (key, v) ∈ ms := mem_of_split hsplit
    obtain ⟨done, hdone⟩ : ∃ done, fitFields fields ms [] = .ok done :=
      exists_ok_fitFields_iff.mpr fun f hf =>
        (accepts_iff (wellFormed_fieldOf hms f)).mp (hfields f hf)
    have hothers : fitOthers (fit s) (fields.map Prod.fst) done ms =
        .error ⟨reason, .field key :: path⟩ := by
      refine fitOthers_eq_error_iff.mpr ⟨before, (key, v), after, hsplit, fun m hm hfree => ?_, hkey, ?_⟩
      · have hwell := hms m (mem_of_before hsplit hm)
        exact (accepts_iff hwell).mp (hbefore m hm hfree)
      · rw [ih (hms _ hmem)]
        rfl
    simp only [fit, hdone, Except.ok_bind, hothers, Except.error_bind]
  | @variant ss s v reason path hall hlast h ih =>
    simp only [fit, fitUnion_eq_error_iff, hlast]
    exact ⟨fun t ht => mt (accepts_iff hv).mpr (hall t ht), ih hv⟩

/-- What the schema reports of a value is what is to be reported. -/
def Blamed (s : Schema) : Prop :=
  ∀ {v : Value} {r : Rejection}, v.WellFormed → fit s v = .error r → Blames s v r.reason r.path

namespace Blamed

/-- The value itself is to blame if it does not fit and its parts are not looked at. -/
theorem of_clash {s : Schema} {v : Value} {r : Rejection} {reason : Reason} (hclash : Clash s v reason)
    (h : fit s v = .error r) : Blames s v r.reason r.path := by
  rw [fit_of_clash hclash] at h
  cases h
  exact .here hclash

/-- A schema that does not look at parts. -/
theorem scalar {s : Schema}
    (h : ∀ v, Suits s v → (∃ w, fit s v = .ok w) ∨ ∃ reason, Clash s v reason) : Blamed s := by
  intro v r _ hfit
  by_cases hsuits : Suits s v
  -- a value of the right kind fits or clashes, so that only the clash can have been reported
  · obtain ⟨w, hw⟩ | ⟨reason, hclash⟩ := h v hsuits
    · cases hw.symm.trans hfit
    · exact of_clash hclash hfit
  · exact of_clash (.kind hsuits) hfit

theorem ofJson : Blamed json := by
  refine scalar fun v hv => .inl ⟨v, ?_⟩
  cases v with
  | undefined => exact absurd rfl hv
  | _ => rfl

theorem ofUndefined : Blamed undefined := by
  refine scalar fun v hv => ?_
  obtain rfl := hv
  exact .inl ⟨_, rfl⟩

theorem ofNull : Blamed null := by
  refine scalar fun v hv => ?_
  obtain rfl := hv
  exact .inl ⟨_, rfl⟩

theorem ofString (literal : Option String) : Blamed (string literal) := by
  refine scalar fun v hv => ?_
  obtain ⟨s, rfl⟩ := hv
  cases literal with
  | none => exact .inl ⟨_, rfl⟩
  | some l =>
    by_cases h : l = s
    · exact .inl ⟨.string s, by simp [fit, h]⟩
    · exact .inr ⟨_, .stringLiteral h⟩

theorem ofBoolean (literal : Option Bool) : Blamed (boolean literal) := by
  refine scalar fun v hv => ?_
  obtain ⟨b, rfl⟩ := hv
  cases literal with
  | none => exact .inl ⟨_, rfl⟩
  | some l =>
    by_cases h : l = b
    · exact .inl ⟨.boolean b, by simp [fit, h]⟩
    · exact .inr ⟨_, .booleanLiteral h⟩

theorem ofInteger (literal : Option Int64) : Blamed (integer literal) := by
  refine scalar fun v hv => ?_
  obtain ⟨n, hn⟩ := hv
  cases literal with
  | none => exact .inl ⟨.integer n, by simp [fit, hn]⟩
  | some l =>
    by_cases h : l = n
    · exact .inl ⟨.integer n, by simp [fit, hn, h]⟩
    · exact .inr ⟨_, .integerLiteral hn h⟩

theorem ofNumber (literal : Option Float) : Blamed (number literal) := by
  refine scalar fun v hv => ?_
  obtain ⟨x, hx⟩ := hv
  cases literal with
  | none => exact .inl ⟨.float x, by simp [fit, hx]⟩
  | some l =>
    by_cases h : (l == x) = true
    · exact .inl ⟨.float x, by simp [fit, hx, h]⟩
    · exact .inr ⟨_, .numberLiteral hx h⟩

theorem ofArray {s : Schema} (hs : Blamed s) : Blamed (array s) := by
  intro v r hv h
  by_cases hsuits : Suits (array s) v
  · obtain ⟨vs, rfl⟩ := hsuits
    have hvs := wellFormed_array.mp hv
    simp only [fit, Except.map_eq_error_iff, fitItems_eq_error_iff] at h
    obtain ⟨before, u, after, hsplit, hbefore, hu⟩ := h
    obtain ⟨e, he, rfl⟩ := Except.mapError_eq_error_iff.mp hu
    have hmem : u ∈ vs := mem_of_split hsplit
    rw [Nat.zero_add]
    refine .item hsplit (fun b hb => ?_) (hs (hvs u hmem) he)
    exact (accepts_iff (hvs b (mem_of_before hsplit hb))).mpr (hbefore b hb)
  · exact of_clash (.kind hsuits) h

theorem ofTuple {ss : List Schema} (hss : ∀ s ∈ ss, Blamed s) : Blamed (tuple ss) := by
  intro v r hv h
  by_cases hsuits : Suits (tuple ss) v
  · obtain ⟨vs, rfl⟩ := hsuits
    by_cases hlength : vs.length = ss.length
    · have hvs : ∀ p ∈ ss.zip vs, p.2.WellFormed := fun p hp =>
        wellFormed_array.mp hv p.2 (List.of_mem_zip hp).2
      simp only [fit, if_pos hlength, Except.map_eq_error_iff, fitTuple_eq_error_iff] at h
      obtain ⟨before, ⟨s, u⟩, after, hsplit, hbefore, hu⟩ := h
      obtain ⟨e, he, rfl⟩ := Except.mapError_eq_error_iff.mp hu
      have hmem : (s, u) ∈ ss.zip vs := mem_of_split hsplit
      rw [Nat.zero_add]
      refine .place hlength hsplit (fun p hp => ?_) (hss s (List.of_mem_zip hmem).1 (hvs _ hmem) he)
      exact (accepts_iff (hvs p (mem_of_before hsplit hp))).mpr (hbefore p hp)
    · exact of_clash (.tupleLength hlength) h
  · exact of_clash (.kind hsuits) h

/-- A field is to blame. -/
theorem ofFields {fields : List (String × Schema)} (hfields : ∀ f ∈ fields, Blamed f.2)
    {index : Option Schema} {ms : Members Value} (hms : ∀ m ∈ ms, m.2.WellFormed) {r : Rejection}
    (h : fitFields fields ms [] = .error r) :
    Blames (object fields index) (.object ms) r.reason r.path := by
  obtain ⟨before, ⟨name, s⟩, after, hsplit, hbefore, hstops⟩ := fitFields_eq_error_iff.mp h
  have haccepts : ∀ f ∈ before, Accepts f.2 (fieldOf ms f) := fun f hf =>
    (accepts_iff (wellFormed_fieldOf hms f)).mpr (hbefore f hf)
  unfold StopsAt at hstops
  split at hstops
  · next v hget =>
    obtain ⟨e, he, rfl⟩ := Except.mapError_eq_error_iff.mp hstops
    have hmem : (name, s) ∈ fields := mem_of_split hsplit
    exact .field hsplit haccepts hget (hfields _ hmem (hms _ (mem_of_get? hget)) he)
  · next hnone =>
    obtain ⟨hrefused, rfl⟩ := hstops
    refine .missing hsplit haccepts hnone fun haccepts => ?_
    rw [accepts_iff wellFormed_undefined, exists_fit_undefined_iff, hrefused] at haccepts
    cases haccepts

theorem ofObject {fields : List (String × Schema)} (hfields : ∀ f ∈ fields, Blamed f.2) :
    Blamed (object fields none) := by
  intro v r hv h
  by_cases hsuits : Suits (object fields none) v
  · obtain ⟨ms, rfl⟩ := hsuits
    obtain ⟨-, hms⟩ := wellFormed_object.mp hv
    simp only [fit, Except.bind_eq_error_iff] at h
    obtain h | ⟨done, -, h⟩ := h
    · exact ofFields hfields hms h
    · cases h
  · exact of_clash (.kind hsuits) h

theorem ofIndexed {fields : List (String × Schema)} {s : Schema} (hfields : ∀ f ∈ fields, Blamed f.2)
    (hs : Blamed s) : Blamed (object fields (some s)) := by
  intro v r hv h
  by_cases hsuits : Suits (object fields (some s)) v
  · obtain ⟨ms, rfl⟩ := hsuits
    obtain ⟨-, hms⟩ := wellFormed_object.mp hv
    simp only [fit, Except.bind_eq_error_iff] at h
    obtain h | ⟨done, hdone, h | ⟨out, -, h⟩⟩ := h
    · exact ofFields hfields hms h
    · obtain ⟨before, ⟨key, u⟩, after, hsplit, hbefore, hkey, hu⟩ := fitOthers_eq_error_iff.mp h
      obtain ⟨e, he, rfl⟩ := Except.mapError_eq_error_iff.mp hu
      have hmem : (key, u) ∈ ms := mem_of_split hsplit
      refine .other (fun f hf => ?_) hsplit (fun m hm hfree => ?_) hkey (hs (hms _ hmem) he)
      · have hpasses := exists_ok_fitFields_iff.mp ⟨done, hdone⟩ f hf
        exact (accepts_iff (wellFormed_fieldOf hms f)).mpr hpasses
      · have hwell := hms m (mem_of_before hsplit hm)
        exact (accepts_iff hwell).mpr (hbefore m hm hfree)
    · cases h
  · exact of_clash (.kind hsuits) h

theorem ofUnion {ss : List Schema} (hss : ∀ s ∈ ss, Blamed s) : Blamed (union ss) := by
  intro v r hv h
  rw [fit, fitUnion_eq_error_iff] at h
  obtain ⟨hall, hlast⟩ := h
  cases hget : ss.getLast? with
  | none =>
    rw [hget] at hlast
    cases hlast
    rw [List.getLast?_eq_none_iff.mp hget]
    exact .here .noVariants
  | some s =>
    rw [hget] at hlast
    refine .variant (fun t ht => ?_) hget (hss s (List.mem_of_getLast? hget) hv hlast)
    exact mt (accepts_iff hv).mp (hall t ht)

end Blamed

mutual

theorem blamed : ∀ s : Schema, Blamed s
  | json => Blamed.ofJson
  | undefined => Blamed.ofUndefined
  | null => Blamed.ofNull
  | string literal => Blamed.ofString literal
  | boolean literal => Blamed.ofBoolean literal
  | integer literal => Blamed.ofInteger literal
  | number literal => Blamed.ofNumber literal
  | array items => Blamed.ofArray (blamed items)
  | tuple items => Blamed.ofTuple (blamed_each items)
  | object fields none => Blamed.ofObject (blamed_fields fields)
  | object fields (some s) => Blamed.ofIndexed (blamed_fields fields) (blamed s)
  | union variants => Blamed.ofUnion (blamed_each variants)

theorem blamed_each : ∀ ss : List Schema, ∀ s ∈ ss, Blamed s
  | [] => nofun
  | s :: rest => List.forall_mem_cons.mpr ⟨blamed s, blamed_each rest⟩

theorem blamed_fields : ∀ fields : List (String × Schema), ∀ f ∈ fields, Blamed f.2
  | [] => nofun
  | (_, s) :: rest => List.forall_mem_cons.mpr ⟨blamed s, blamed_fields rest⟩

end

/-- Fitting fails just in the way that is to be reported. -/
theorem fit_eq_error_iff {s : Schema} {v : Value} (hv : v.WellFormed) {r : Rejection} :
    fit s v = .error r ↔ Blames s v r.reason r.path :=
  ⟨blamed s hv, fun h => fit_of_blames h hv⟩

end GuestHost.Schema
