import GuestHost.Proofs.Outcome
import GuestHost.Proofs.Text.Boundary
import GuestHost.Schema.Decode
/-!
Fitting with one buffer for the path. Every visit gives the buffer back as it found it, and a failure has the
text of the path to where it happened; so it comes to the same as fitting that puts its paths together on the
way out.
-/
namespace GuestHost.Text

/-- What has been added to a text is cut off by the old length. -/
theorem utf8Prefix_append (s t : String) : utf8Prefix (s ++ t) s.utf8ByteSize = s := by
  obtain ⟨-, hfits, hlongest⟩ := longestWithin_utf8Prefix (s ++ t) s.utf8ByteSize
  obtain ⟨more, hmore⟩ := hlongest s ⟨t, rfl⟩ (Nat.le_refl _)
  rw [hmore, String.utf8ByteSize_append] at hfits
  have hnothing : more = "" := String.utf8ByteSize_eq_zero_iff.mp (by omega)
  rw [hmore, hnothing, String.append_empty]

end GuestHost.Text

namespace GuestHost.Schema

namespace Visit

variable {α δ : Type}

theorem bind_apply (x : Visit α) (f : α → Visit δ) (path : String) :
    (x >>= f) path = match x path with
      | (.ok a, path) => f a path
      | (.error e, path) => (.error e, path) := by
  change ExceptT.bindCont f (x path).1 (x path).2 = _
  rcases x path with ⟨e | a, path'⟩ <;> rfl

theorem tryCatch_apply (x : Visit α) (f : Report → Visit α) (path : String) :
    tryCatch x f path = match x path with
      | (.ok a, path) => (.ok a, path)
      | (.error e, path) => f e path := by
  simp only [tryCatch, tryCatchThe, MonadExceptOf.tryCatch, ExceptT.tryCatch, ExceptT.mk, bind,
    StateT.bind]
  rcases x path with ⟨e | a, path'⟩ <;> rfl

end Visit

/-- The failure as a visit reports it that began with a path in its buffer. -/
def Rejection.report (path : String) (r : Rejection) : Report :=
  ⟨r.reason, r.path.foldl (fun acc a => acc ++ a.text) path⟩

/-- A visit comes to what fitting does, reports the text of its path, and gives the buffer back. -/
def Mirrors {α : Type} (x : Visit α) (r : Except Rejection α) : Prop :=
  ∀ path, x path = (r.mapError (Rejection.report path), path)

namespace Mirrors

variable {α δ : Type} {x : Visit α} {r : Except Rejection α}

theorem pure (a : α) : Mirrors (Pure.pure a) (.ok a) := fun _ => rfl

theorem fail (reason : Reason) : Mirrors (Visit.fail reason : Visit α) (reject reason) := fun _ => rfl

/-- A failure of the value by itself is one where the visit is. -/
theorem here (h : ∀ f, r = .error f → f.path = []) : Mirrors (Visit.here r) r := by
  intro path
  cases r with
  | ok a => rfl
  | error f =>
    have hpath : f.report path = ⟨f.reason, path⟩ := by rw [Rejection.report, h f rfl]; rfl
    rw [Except.mapError, hpath]
    rfl

theorem within (a : Accessor) (h : Mirrors x r) :
    Mirrors (Visit.within a x) (r.mapError (Rejection.under a)) := by
  intro path
  have hpart := h (path ++ a.text)
  rw [Visit.within, hpart]
  simp only [Text.utf8Prefix_append]
  cases r <;> rfl

theorem bind {f : α → Visit δ} {g : α → Except Rejection δ} (h : Mirrors x r)
    (hf : ∀ a, Mirrors (f a) (g a)) : Mirrors (x >>= f) (r >>= g) := by
  intro path
  rw [Visit.bind_apply, h path]
  cases r with
  | error e => rfl
  | ok a => exact hf a path

theorem map (f : α → δ) (h : Mirrors x r) : Mirrors (f <$> x) (r.map f) := by
  have hmap : f <$> x = x >>= fun a => Pure.pure (f a) := map_eq_pure_bind f x
  have hr : r.map f = r >>= fun a => .ok (f a) := by cases r <;> rfl
  rw [hmap, hr]
  exact h.bind fun a => .pure (f a)

end Mirrors

theorem mirrors_items {visit : Value → Visit Value} {fit : Value → Except Rejection Value}
    (h : ∀ v, Mirrors (visit v) (fit v)) (index : Nat) (vs : List Value) :
    Mirrors (Visit.items visit index vs) (fitItems fit index vs) := by
  induction vs generalizing index with
  | nil => exact .pure _
  | cons v rest ih =>
    rw [Visit.items, fitItems]
    exact .bind ((h v).within _) fun _ => .bind (ih _) fun _ => .pure _

theorem mirrors_others {visit : Value → Visit Value} {fit : Value → Except Rejection Value}
    (h : ∀ v, Mirrors (visit v) (fit v)) (declared : List String) (done : Members Value)
    (ms : List (String × Value)) :
    Mirrors (Visit.others visit declared done ms) (fitOthers fit declared done ms) := by
  induction ms generalizing done with
  | nil => exact .pure _
  | cons m rest ih =>
    obtain ⟨k, v⟩ := m
    rw [Visit.others, fitOthers]
    split
    · exact ih _
    · exact .bind ((h v).within _) fun _ => ih _

/-- Without parts there is no way to go before a failure. -/
theorem path_mismatch {s : Schema} {v : Value} (f : Rejection)
    (h : (mismatch s v : Except Rejection Value) = .error f) : f.path = [] := by
  cases h
  rfl

/-- Schemas that look at no parts of a value. -/
def isLeaf : Schema → Bool
  | array _ | tuple _ | object _ _ | union _ => false
  | _ => true

theorem path_of_leaf {s : Schema} {v : Value} (hs : s.isLeaf = true) (f : Rejection)
    (h : s.fit v = .error f) : f.path = [] := by
  cases s with
  | array _ | tuple _ | object _ _ | union _ => cases hs
  | _ =>
    unfold fit at h
    repeat' split at h
    all_goals cases h
    all_goals rfl

mutual

/-- A visit gives the buffer back and reports its text. -/
theorem mirrors_visit : ∀ (s : Schema) (v : Value), Mirrors (s.visit v) (s.fit v)
  | array s, v => by
    cases v with
    | array vs =>
      rw [visit, fit]
      exact (mirrors_items (mirrors_visit s) 0 vs).map _
    | _ => exact .here path_mismatch
  | tuple ss, v => by
    cases v with
    | array vs =>
      rw [visit, fit]
      split
      · exact (mirrors_visitTuple ss 0 vs).map _
      · exact .fail _
    | _ => exact .here path_mismatch
  | object fields index, v => by
    cases v with
    | object members =>
      rw [visit, fit]
      refine .bind (mirrors_visitFields fields members []) fun done => ?_
      cases index with
      | none => exact .pure _
      | some s => exact .bind (mirrors_others (mirrors_visit s) _ done members) fun _ => .pure _
    | _ => exact .here path_mismatch
  | union variants, v => by
    rw [visit, fit]
    exact fun path => mirrors_visitUnion variants none v path
  | json, v => .here (path_of_leaf rfl)
  | undefined, v => .here (path_of_leaf rfl)
  | null, v => .here (path_of_leaf rfl)
  | string _, v => .here (path_of_leaf rfl)
  | boolean _, v => .here (path_of_leaf rfl)
  | integer _, v => .here (path_of_leaf rfl)
  | number _, v => .here (path_of_leaf rfl)

theorem mirrors_visitTuple : ∀ (ss : List Schema) (index : Nat) (vs : List Value),
    Mirrors (visitTuple ss index vs) (fitTuple ss index vs)
  | [], _, _ => .pure _
  | _ :: _, _, [] => .pure _
  | s :: ss, index, v :: vs => by
    rw [visitTuple, fitTuple]
    exact .bind ((mirrors_visit s v).within _) fun _ =>
      .bind (mirrors_visitTuple ss (index + 1) vs) fun _ => .pure _

theorem mirrors_visitFields : ∀ (fields : List (String × Schema)) (ms : List (String × Value))
    (done : Members Value), Mirrors (visitFields fields ms done) (fitFields fields ms done)
  | [], _, _ => .pure _
  | (name, s) :: rest, ms, done => by
    rw [visitFields, fitFields]
    cases Members.get? name ms with
    | some v => exact .bind ((mirrors_visit s v).within _) fun _ => mirrors_visitFields rest ms _
    | none =>
      simp only
      split
      · exact mirrors_visitFields rest ms done
      · exact (Mirrors.fail .missingField).within (.field name)

/-- The failure that is kept from one variant to the next is one at the same place. -/
theorem mirrors_visitUnion : ∀ (variants : List Schema) (last : Option Rejection) (v : Value) (path : String),
    visitUnion variants (last.map (Rejection.report path)) v path =
      ((fitUnion variants last v).mapError (Rejection.report path), path)
  | [], none, _, _ => rfl
  | [], some _, _, _ => rfl
  | s :: rest, last, v, path => by
    rw [visitUnion, Visit.tryCatch_apply, mirrors_visit s v path, fitUnion]
    cases s.fit v with
    | ok w => rfl
    | error f => exact mirrors_visitUnion rest (some f) v path

end

/-- A text is decoded by fitting the value that it stands for. -/
theorem decode_eq (s : Schema) (text : String) : s.decode text =
    match Json.parse text with
    | .error e => .error ("JSON parse error: " ++ e.message) (some "$")
    | .ok v =>
      match s.fit v with
      | .ok w => w
      | .error r => r.toValue := by
  unfold decode
  cases Json.parse text with
  | error e => rfl
  | ok v =>
    have hvisit : (s.visit v).run "$" = ((s.fit v).mapError (Rejection.report "$"), "$") :=
      mirrors_visit s v "$"
    simp only [hvisit]
    cases s.fit v <;> rfl

end GuestHost.Schema
