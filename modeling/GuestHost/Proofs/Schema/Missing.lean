import GuestHost.Proofs.Schema.Rejecting
/-!
Fields that may be missing. Whether one may is found out without fitting anything, by a recursion of its own
through unions; yet it says of every schema whether what is undefined fits it. A declared field that an object
lacks therefore either makes no difference or makes the object unfit.
-/
namespace GuestHost.Schema

open Value Members

/-- Fitting a value that stands at the end of a path, which failures are told with. -/
def fitAt (path : List Accessor) (s : Schema) (v : Value) : Except Rejection Value :=
  (fit s v).mapError fun r => path.foldr Rejection.under r

theorem foldr_under (path : List Accessor) (r : Rejection) :
    path.foldr Rejection.under r = ⟨r.reason, path ++ r.path⟩ := by
  induction path with
  | nil => rfl
  | cons a rest ih => rw [List.foldr_cons, ih, Rejection.under, List.cons_append]

theorem fitAt_eq_ok_iff {path : List Accessor} {s : Schema} {v w : Value} :
    fitAt path s v = .ok w ↔ fit s v = .ok w := Except.mapError_eq_ok_iff

theorem fitAt_eq_error_iff {path : List Accessor} {s : Schema} {v : Value} {r : Rejection} :
    fitAt path s v = .error r ↔ ∃ r', fit s v = .error r' ∧ r = ⟨r'.reason, path ++ r'.path⟩ := by
  simp only [fitAt, Except.mapError_eq_error_iff, foldr_under, @eq_comm _ r]

/-! ## What is undefined -/

theorem fit_undefined_iff (s : Schema) {w : Value} :
    fit s .undefined = .ok w ↔ s.acceptsUndefined = true ∧ w = .undefined :=
  (agrees s wellFormed_undefined).trans (conforms_undefined_iff s)

theorem fit_undefined_of_accepts {s : Schema} (h : s.acceptsUndefined = true) :
    fit s .undefined = .ok .undefined := (fit_undefined_iff s).mpr ⟨h, rfl⟩

theorem exists_fit_undefined_eq_error {s : Schema} (h : s.acceptsUndefined = false) :
    ∃ r, fit s .undefined = .error r := by
  cases hfit : fit s .undefined with
  | ok w =>
    rw [((fit_undefined_iff s).mp hfit).1] at h
    cases h
  | error r => exact ⟨r, rfl⟩

/-- It has no parts, so it is to blame itself, whichever variants have been tried. -/
theorem Blames.path_of_undefined {s : Schema} {reason : Reason} {path : List Accessor}
    (h : Blames s .undefined reason path) : path = [] := by
  generalize hv : Value.undefined = v at h
  induction h with
  | here => rfl
  | variant _ _ _ ih => exact ih hv
  | _ => cases hv

/-! ## Objects that lack a field -/

section

variable {before after : List (String × Schema)} {name : String} {s : Schema} {ms done : Members Value}

theorem fitFields_append (before after : List (String × Schema)) (ms done : Members Value) :
    fitFields (before ++ after) ms done = fitFields before ms done >>= fitFields after ms := by
  induction before generalizing done with
  | nil => rfl
  | cons f rest ih =>
    obtain ⟨name, s⟩ := f
    rw [List.cons_append, fitFields, fitFields]
    cases get? name ms with
    | some v => simp only [ih, bind_assoc]
    | none => cases s.acceptsUndefined <;> simp [ih]

theorem fitFields_cons_missing (h : get? name ms = none) :
    fitFields ((name, s) :: after) ms done =
      if s.acceptsUndefined then fitFields after ms done else .error ⟨.missingField, [.field name]⟩ := by
  rw [fitFields, h]

/-- Of the names that are declared only those of members count. -/
theorem fitOthers_congr {fit : Value → Except Rejection Value} {declared declared' : List String}
    (h : ∀ k ∈ keys ms, k ∈ declared ↔ k ∈ declared') :
    fitOthers fit declared done ms = fitOthers fit declared' done ms := by
  induction ms generalizing done with
  | nil => rfl
  | cons m rest ih =>
    obtain ⟨key, v⟩ := m
    obtain ⟨hkey, hrest⟩ := List.forall_mem_cons.mp h
    simp only [fitOthers, hkey, ih hrest]

theorem mem_declared_iff (hnone : get? name ms = none) : ∀ k ∈ keys ms,
    k ∈ (before ++ (name, s) :: after).map Prod.fst ↔ k ∈ (before ++ after).map Prod.fst := by
  intro k hk
  have hne : k ≠ name := by
    rintro rfl
    obtain ⟨v, hv⟩ := exists_get? hk
    rw [hnone] at hv
    cases hv
  simp [hne]

/-- A field without a member makes no difference, or else is what stops the fitting, if no field before
it does. -/
theorem fit_object_missing (hnone : get? name ms = none) (index : Option Schema) :
    fit (object (before ++ (name, s) :: after) index) (.object ms) =
      if s.acceptsUndefined then fit (object (before ++ after) index) (.object ms)
      else fit (object before none) (.object ms) >>= fun _ =>
        .error ⟨.missingField, [.field name]⟩ := by
  have hdeclared : ∀ t done, fitOthers (fit t) ((before ++ (name, s) :: after).map Prod.fst) done ms =
      fitOthers (fit t) ((before ++ after).map Prod.fst) done ms :=
    fun t done => fitOthers_congr (mem_declared_iff hnone)
  simp only [fit, fitFields_append, fitFields_cons_missing hnone, bind_assoc, hdeclared]
  cases s.acceptsUndefined with
  | true => rfl
  | false => rfl

/-- The same for an object at the end of a path. -/
theorem fitAt_object_missing (hnone : get? name ms = none) (path : List Accessor)
    (index : Option Schema) :
    fitAt path (object (before ++ (name, s) :: after) index) (.object ms) =
      if s.acceptsUndefined then fitAt path (object (before ++ after) index) (.object ms)
      else fitAt path (object before none) (.object ms) >>= fun _ =>
        .error ⟨.missingField, path ++ [.field name]⟩ := by
  simp only [fitAt, fit_object_missing hnone]
  cases s.acceptsUndefined with
  | true => rfl
  | false =>
    cases fit (object before none) (.object ms) with
    | ok w => exact congrArg Except.error (foldr_under path _)
    | error r => rfl

end

/-- At the end of every path, fitting what is undefined succeeds just where a field may be missing, and gives
what is undefined; where it fails, the path goes no further. So a declared field that an object lacks makes no
difference if what is undefined would fit in its place, and otherwise it is what the object is rejected for,
unless a field before it is. -/
theorem missing_as_undefined (path : List Accessor) (s : Schema) :
    (∀ w, fitAt path s .undefined = .ok w ↔ s.acceptsUndefined = true ∧ w = .undefined) ∧
      (∀ r, fitAt path s .undefined = .error r → r.path = path) ∧
      ∀ (name : String) (ms : Members Value), get? name ms = none → ∀ before after index,
        fitAt path (object (before ++ (name, s) :: after) index) (.object ms) =
          match fitAt (path ++ [.field name]) s .undefined with
          | .ok _ => fitAt path (object (before ++ after) index) (.object ms)
          | .error _ => fitAt path (object before none) (.object ms) >>= fun _ =>
              .error ⟨.missingField, path ++ [.field name]⟩ := by
  refine ⟨fun w => fitAt_eq_ok_iff.trans (fit_undefined_iff s), fun r hr => ?_, ?_⟩
  · obtain ⟨r', hr', rfl⟩ := fitAt_eq_error_iff.mp hr
    have hblames := (fit_eq_error_iff wellFormed_undefined).mp hr'
    rw [hblames.path_of_undefined, List.append_nil]
  · intro name ms hnone before after index
    rw [fitAt_object_missing hnone]
    cases haccepts : s.acceptsUndefined with
    | true =>
      rw [fitAt_eq_ok_iff.mpr (fit_undefined_of_accepts haccepts)]
      rfl
    | false =>
      obtain ⟨r, hr⟩ := exists_fit_undefined_eq_error haccepts
      rw [fitAt_eq_error_iff.mpr ⟨r, hr, rfl⟩]
      rfl

/-- What is undefined fits only three unions down, behind a union without variants and behind anything that
a text can hold. -/
def sparse : Schema := union [union [], union [json, union [null, undefined]]]

theorem sparse_missing : fitAt [.item 2] sparse .undefined = .ok .undefined ∧
    (∃ r, fitAt [.item 2] json .undefined = .error r ∧ r.path = [.item 2]) ∧
    get? "note" [("id", Value.integer 1)] = none ∧
    (∀ index, fitAt [.item 2] (object [("id", json), ("note", sparse)] index) (.object [("id", .integer 1)]) =
      fitAt [.item 2] (object [("id", json)] index) (.object [("id", .integer 1)])) ∧
    fitAt [.item 2] (object [("id", json), ("note", json)] none) (.object [("id", .integer 1)]) =
      .error ⟨.missingField, [.item 2, .field "note"]⟩ := by
  have hnone : get? "note" [("id", Value.integer 1)] = none := by decide
  have hreject : fitAt [.item 2] json .undefined =
      .error ⟨.mismatch "json" .undefined, [.item 2]⟩ := rfl
  obtain ⟨haccepts, -, hsparse⟩ := missing_as_undefined [.item 2] sparse
  obtain ⟨-, hpath, hjson⟩ := missing_as_undefined [.item 2] json
  refine ⟨(haccepts _).mpr ⟨by decide, rfl⟩, ⟨_, hreject, hpath _ hreject⟩, hnone, fun index => ?_, ?_⟩
  · exact hsparse "note" _ hnone [("id", json)] [] index
  · exact hjson "note" _ hnone [("id", json)] [] none

end GuestHost.Schema
