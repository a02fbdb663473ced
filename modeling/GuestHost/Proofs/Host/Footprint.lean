import GuestHost.Proofs.Host.Action
/-!
What a call can change. A relation between states that holds across each of the few steps that change
anything holds across every call; calls on the database and the call of listening are kept apart, since
most of what is said about a run depends on them.
-/
namespace GuestHost.Host

variable {β γ α δ : Type} [Bridge β γ]

namespace Action

/-- The action leaves every state as it is. -/
def Still (a : Action β α) : Prop := ∀ s, (runOn a s).2 = s

namespace Still

theorem pure (x : α) : Still (Pure.pure x : Action β α) := fun _ => rfl

theorem throw (t : Trap) : Still (throw t : Action β α) := fun _ => rfl

theorem lift {ε : Type} (trap : ε → Trap) (r : Except ε α) :
    Still (Action.lift trap r : Action β α) := by
  intro s
  rw [runOn_lift]

theorem ofBuiltin (r : Except Builtin.Error α) : Still (Action.ofBuiltin r : Action β α) := lift _ r

theorem bind {a : Action β α} {f : α → Action β δ} (ha : Still a) (hf : ∀ x, Still (f x)) :
    Still (a >>= f) := by
  intro s
  have h := ha s
  rw [runOn_bind]
  rcases hr : runOn a s with ⟨t | x, s'⟩ <;> rw [hr] at h
  · exact h
  · exact (hf x s').trans h

theorem reading {f : State β → Action β α} (hf : ∀ s, Still (f s)) : Still (MonadState.get >>= f) :=
  bind (fun _ => rfl) hf

theorem toHost (op : String) (g : γ) : Still (Action.toHost op g : Action β Value) :=
  reading fun _ => lift _ _

theorem text (op : String) (g : γ) : Still (Action.text op g : Action β String) :=
  bind (toHost op g) fun _ => lift _ _

theorem field (op : String) (o : γ) (key : String) : Still (Action.field op o key : Action β γ) := by
  refine reading fun _ => bind (lift _ _) fun found => ?_
  cases found
  · exact pure _
  · exact pure _

theorem memory (op : String) : Still (Action.memory op : Action β Memory) := by
  refine reading fun s => ?_
  cases s.memory
  · exact throw _
  · exact pure _

theorem readBytes (op : String) (p n : Int) : Still (Action.readBytes op p n : Action β (List UInt8)) := by
  refine bind (memory op) fun m => ?_
  cases m.read? (unsigned p) (unsigned n)
  · exact throw _
  · exact pure _

theorem readText (op : String) (p n : Int) : Still (Action.readText op p n : Action β String) := by
  refine bind (readBytes op p n) fun bytes => ?_
  cases Text.decode? bytes
  · exact throw _
  · exact pure _

theorem storeResult (op : String) (stops : Store.StoreError → Bool)
    (r : Except Store.StoreError Value) : Still (Action.storeResult op stops r : Action β Value) := by
  cases r with
  | ok v => exact pure v
  | error e =>
    simp only [Action.storeResult]
    split
    · exact throw _
    · exact pure _

theorem within {R : State β → State β → Prop} (C : Composable R) {a : Action β α} (h : Still a) :
    Within R a := by
  intro s
  rw [h s]
  exact C.refl s

end Still

/-- The steps of calls that change anything keep to a relation, but for those on the database and that of
listening. -/
structure Tread (β : Type) {γ : Type} [Bridge β γ] (R : State β → State β → Prop) : Prop
    extends Composable R where
  toGuest (s : State β) (v : Value) : R s { s with bridge := (Bridge.toGuest s.bridge v).2 }
  newArray (s : State β) (n : Nat) : R s { s with bridge := (Bridge.newArray s.bridge n).2 }
  newObject (s : State β) : R s { s with bridge := (Bridge.newObject s.bridge).2 }
  intern (s : State β) (p n : Nat) (text : String) :
    R s { s with bridge := (Bridge.intern s.bridge p n text).2 }
  arraySet (s : State β) {a item : γ} {i : Nat} {b : β} (h : Bridge.arraySet s.bridge a i item = .ok b) :
    R s { s with bridge := b }
  objectSet (s : State β) {o item : γ} {key : String} {b : β}
    (h : Bridge.objectSet s.bridge o key item = .ok b) : R s { s with bridge := b }
  write (s : State β) {file : Int} {bytes : List UInt8} {o : Output} {lines : List String}
    (h : s.output.write file bytes = .ok (o, lines)) :
    R s ({ s with output := o }.tell (lines.map .log))
  memory (s : State β) (m : Memory) : R s { s with memory := some m }
  create (s : State β) : R s { s with registry := s.registry.create.2 }
  addRoute (s : State β) {id : Int} {method pattern handler : String} {t : Serve.Registry}
    (h : s.registry.addRoute id method pattern handler = .ok t) : R s { s with registry := t }
  collect (s : State β) : R s (s.collect .explicit)
  exit (s : State β) (code : Int) : R s { s with exitCode := some code }

/-- The steps of calls that change anything but the database keep to a relation. -/
structure Footprint (β : Type) {γ : Type} [Bridge β γ] (R : State β → State β → Prop) : Prop
    extends Tread β R where
  listen (s : State β) {id : Int} {address : String} {t : Serve.Registry}
    (h : s.registry.listen id address = .ok t) : R s { s with registry := t }

theorem Tread.toGuest_within {R : State β → State β → Prop} (F : Tread β R) (op : String)
    (v : Value) : Within R (Action.toGuest op v : Action β γ) := Within.made op fun s => F.toGuest s v

end Action

namespace Call

open Host.Action

variable {R : State β → State β → Prop}

theorem performValue_within (F : Tread β R) (c : Call γ) :
    Within R (c.performValue : Action β _) := by
  have C := F.toComposable
  cases c <;> simp only [performValue] <;> repeat' with_reducible first
    | exact Within.pure C _
    | exact (Still.toHost _ _).within C
    | exact (Still.ofBuiltin _).within C
    | exact Within.lift C _ _
    | exact F.toGuest_within _ _
    | refine Within.reading C fun _ => ?_
    | refine Within.bind C ?_ fun _ => ?_

theorem performText_within (F : Tread β R) (c : Call γ) :
    Within R (c.performText : Action β _) := by
  have C := F.toComposable
  cases c <;> simp only [performText] <;> repeat' with_reducible first
    | exact Within.pure C _
    | exact Within.throw C _
    | exact (Still.toHost _ _).within C
    | exact (Still.text _ _).within C
    | exact (Still.memory _).within C
    | exact (Still.readText _ _ _).within C
    | exact (Still.ofBuiltin _).within C
    | exact F.toGuest_within _ _
    | exact Within.made _ fun s => F.intern s _ _ _
    | exact Within.modify fun s => F.memory s _
    | refine Within.bind C ?_ fun _ => ?_
    | split

theorem performArray_within (F : Tread β R) (c : Call γ) :
    Within R (c.performArray : Action β _) := by
  have C := F.toComposable
  cases c <;> simp only [performArray] <;> repeat' with_reducible first
    | exact Within.pure C _
    | exact (Still.toHost _ _).within C
    | exact (Still.ofBuiltin _).within C
    | exact Within.lift C _ _
    | exact F.toGuest_within _ _
    | exact Within.made _ fun s => F.newArray s _
    | exact Within.changed C _ fun s _ h => F.arraySet s h
    | refine Within.reading C fun _ => ?_
    | refine Within.bind C ?_ fun _ => ?_
    | split

theorem performObject_within (F : Tread β R) (c : Call γ) :
    Within R (c.performObject : Action β _) := by
  have C := F.toComposable
  cases c <;> simp only [performObject] <;> repeat' with_reducible first
    | exact Within.pure C _
    | exact (Still.text _ _).within C
    | exact (Still.field _ _ _).within C
    | exact Within.lift C _ _
    | exact F.toGuest_within _ _
    | exact Within.made _ fun s => F.newObject s
    | exact Within.changed C _ fun s _ h => F.objectSet s h
    | refine Within.reading C fun _ => ?_
    | refine Within.bind C ?_ fun _ => ?_

theorem performJson_within (F : Tread β R) (c : Call γ) :
    Within R (c.performJson : Action β _) := by
  have C := F.toComposable
  cases c <;> simp only [performJson] <;> repeat' with_reducible first
    | exact Within.pure C _
    | exact (Still.toHost _ _).within C
    | exact (Still.ofBuiltin _).within C
    | exact F.toGuest_within _ _
    | refine Within.bind C ?_ fun _ => ?_

theorem performServe_within (F : Tread β R) (c : Call γ)
    (listen : ∀ id a, c = .listen id a → Within R (c.performServe : Action β _)) :
    Within R (c.performServe : Action β _) := by
  have C := F.toComposable
  cases c
  case createServer => exact F.create
  case listen id a => exact listen id a rfl
  all_goals
    simp only [performServe]
    repeat' with_reducible first
      | exact Within.pure C _
      | exact (Still.toHost _ _).within C
      | exact (Still.text _ _).within C
      | exact (Still.field _ _ _).within C
      | exact (Still.readText _ _ _).within C
      | exact Within.lift C _ _
      | exact F.toGuest_within _ _
      | exact Within.register C _ fun s _ h => F.addRoute s h
      | refine Within.bind C ?_ fun _ => ?_

theorem performFileWrite_within (F : Tread β R) (file buffers count written : Int) :
    Within R (performFileWrite file buffers count written : Action β Int) := by
  have C := F.toComposable
  simp only [performFileWrite]
  repeat' with_reducible first
    | exact Within.pure C _
    | exact Within.write C _ _ fun s _ _ h => F.write s h
    | exact Within.modify fun s => F.memory s _
    | refine Within.reading C fun _ => ?_
    | refine Within.bind C ?_ fun _ => ?_
    | split

theorem performHost_within (F : Tread β R) (c : Call γ) :
    Within R (c.performHost : Action β _) := by
  have C := F.toComposable
  cases c <;> simp only [performHost] <;> repeat' with_reducible first
    | exact Within.pure C _
    | exact Within.throw C _
    | exact (Still.toHost _ _).within C
    | exact (Still.text _ _).within C
    | exact F.toGuest_within _ _
    | exact performFileWrite_within F _ _ _ _
    | exact Within.write C _ _ fun s _ _ h => F.write s h
    | exact Within.modify F.collect
    | exact Within.modify fun s => F.exit s _
    | refine Within.reading C fun _ => ?_
    | refine Within.bind C ?_ fun _ => ?_
    | split

/-- Calls on the database keep to a relation that no change of the database can break. -/
theorem performStore_within (F : Tread β R)
    (database : ∀ (s : State β) db, R s { s with database := db }) (c : Call γ) :
    Within R (c.performStore : Action β _) := by
  have C := F.toComposable
  cases c <;> simp only [performStore] <;> repeat' with_reducible first
    | exact Within.pure C _
    | exact (Still.toHost _ _).within C
    | exact (Still.text _ _).within C
    | exact (Still.storeResult _ _ _).within C
    | exact F.toGuest_within _ _
    | exact Within.withDatabase fun s => database s _
    | refine Within.bind C ?_ fun _ => ?_

/-- A relation that every step of a call keeps to holds across the call. -/
theorem perform_within_of_tread (F : Tread β R) (c : Call γ)
    (store : Within R (c.performStore : Action β _))
    (listen : ∀ id a, c = .listen id a → Within R (c.performServe : Action β _)) :
    Within R (c.perform : Action β _) := by
  cases c <;> simp only [perform] <;> with_reducible first
    | exact store
    | exact performValue_within F _
    | exact performText_within F _
    | exact performArray_within F _
    | exact performObject_within F _
    | exact performJson_within F _
    | exact performServe_within F _ listen
    | exact performHost_within F _

/-- A relation that every step keeps to, the calls on the database included, holds across every call. -/
theorem perform_within (F : Footprint β R) (c : Call γ)
    (store : Within R (c.performStore : Action β _)) : Within R (c.perform : Action β _) := by
  have C := F.toComposable
  refine perform_within_of_tread F.toTread c store ?_
  rintro id a rfl
  exact Within.bind C ((Still.text _ _).within C) fun _ =>
    Within.bind C (Within.register C _ fun s _ h => F.listen s h) fun _ => Within.pure C _

end Call
end GuestHost.Host
