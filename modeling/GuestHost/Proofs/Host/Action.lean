import GuestHost.Host.Perform
/-!
How actions run, and what a run may change. A relation between the state before and the state after that
every state has to itself and that can be followed twice passes from the steps of an action to the whole.
-/
namespace GuestHost.Host

variable {β γ α δ : Type}

namespace Action

/-- The outcome of an action in a state, and the state that it leaves. -/
def runOn (a : Action β α) (s : State β) : Except Trap α × State β := a.run.run s

@[simp] theorem runOn_pure (x : α) (s : State β) : runOn (pure x) s = (.ok x, s) := rfl

@[simp] theorem runOn_throw (t : Trap) (s : State β) :
    runOn (throw t : Action β α) s = (.error t, s) := rfl

@[simp] theorem runOn_get (s : State β) : runOn (get : Action β (State β)) s = (.ok s, s) := rfl

@[simp] theorem runOn_modify (f : State β → State β) (s : State β) :
    runOn (modify f : Action β Unit) s = (.ok (), f s) := rfl

theorem runOn_bind (a : Action β α) (f : α → Action β δ) (s : State β) :
    runOn (a >>= f) s = match runOn a s with
      | (.ok x, s) => runOn (f x) s
      | (.error t, s) => (.error t, s) := by
  unfold runOn ExceptT.run StateT.run
  simp only [bind, ExceptT.bind, ExceptT.mk, StateT.bind, ExceptT.bindCont]
  rcases a s with ⟨⟨t⟩ | ⟨x⟩, s'⟩ <;> rfl

theorem runOn_bind_of_ok {a : Action β α} {f : α → Action β δ} {s s' : State β} {x : α}
    (h : runOn a s = (.ok x, s')) : runOn (a >>= f) s = runOn (f x) s' := by rw [runOn_bind, h]

theorem runOn_bind_of_error {a : Action β α} {f : α → Action β δ} {s s' : State β} {t : Trap}
    (h : runOn a s = (.error t, s')) : runOn (a >>= f) s = (.error t, s') := by rw [runOn_bind, h]

/-- Handing on a result changes nothing. -/
theorem runOn_bind_pure_snd (a : Action β α) (f : α → δ) (s : State β) :
    (runOn (a >>= fun x => pure (f x)) s).2 = (runOn a s).2 := by
  rw [runOn_bind]
  rcases runOn a s with ⟨t | x, s'⟩ <;> rfl

@[simp] theorem runOn_lift {ε : Type} (trap : ε → Trap) (r : Except ε α) (s : State β) :
    runOn (lift trap r) s = (r.mapError trap, s) := by cases r <;> rfl

@[simp] theorem runOn_made (op : String) (r : β → Except BridgeError α × β) (s : State β) :
    runOn (made op r) s =
      ((r s.bridge).1.mapError (.bridge op), { s with bridge := (r s.bridge).2 }) := by
  simp [made, runOn_bind]

@[simp] theorem runOn_changed (op : String) (r : β → Except BridgeError β) (s : State β) :
    runOn (changed op r) s = match r s.bridge with
      | .ok bridge => (.ok (), { s with bridge })
      | .error e => (.error (.bridge op e), s) := by
  simp only [changed, runOn_bind, runOn_get, runOn_lift]
  cases r s.bridge <;> rfl

@[simp] theorem runOn_withDatabase
    (r : Store.Database → Except Store.StoreError α × Store.Database) (s : State β) :
    runOn (withDatabase r) s = (.ok (r s.database).1, { s with database := (r s.database).2 }) := by
  simp only [withDatabase, runOn_bind, runOn_get, runOn_modify, runOn_pure]

@[simp] theorem runOn_register (op : String)
    (r : Serve.Registry → Except Serve.RegistryError Serve.Registry) (s : State β) :
    runOn (register op r) s = match r s.registry with
      | .ok registry => (.ok (), { s with registry })
      | .error e => (.error (.registry op e), s) := by
  simp only [register, runOn_bind, runOn_get, runOn_lift]
  cases r s.registry <;> rfl

@[simp] theorem runOn_write (file : Int) (bytes : List UInt8) (s : State β) :
    runOn (write file bytes) s = match s.output.write file bytes with
      | .error e => (.ok (.error e), s)
      | .ok (output, lines) => (.ok (.ok ()), { s with output }.tell (lines.map .log)) := by
  simp only [write, runOn_bind, runOn_get]
  rcases s.output.write file bytes with e | ⟨output, lines⟩ <;> rfl

/-- The states before and after an action are related, however it ends. -/
def Within (R : State β → State β → Prop) (a : Action β α) : Prop := ∀ s, R s (runOn a s).2

/-- What holds between a state and itself, and along two steps if it holds along each. -/
structure Composable (R : State β → State β → Prop) : Prop where
  refl (s : State β) : R s s
  trans {s t u : State β} : R s t → R t u → R s u

namespace Within

variable {R : State β → State β → Prop}

theorem pure (C : Composable R) (x : α) : Within R (Pure.pure x : Action β α) := C.refl

theorem throw (C : Composable R) (t : Trap) : Within R (throw t : Action β α) := C.refl

theorem modify {f : State β → State β} (h : ∀ s, R s (f s)) :
    Within R (modify f : Action β Unit) := h

theorem bind (C : Composable R) {a : Action β α} {f : α → Action β δ} (ha : Within R a)
    (hf : ∀ x, Within R (f x)) : Within R (a >>= f) := by
  intro s
  have h := ha s
  rw [runOn_bind]
  rcases hr : runOn a s with ⟨t | x, s'⟩ <;> rw [hr] at h
  · exact h
  · exact C.trans h (hf x s')

/-- What is read of the state decides how to go on. -/
theorem reading (C : Composable R) {f : State β → Action β α} (hf : ∀ s, Within R (f s)) :
    Within R (MonadState.get >>= f) := bind C C.refl hf

theorem lift (C : Composable R) {ε : Type} (trap : ε → Trap) (r : Except ε α) :
    Within R (Action.lift trap r : Action β α) := by
  intro s
  rw [runOn_lift]
  exact C.refl s

theorem made (op : String) {r : β → Except BridgeError α × β}
    (h : ∀ s : State β, R s { s with bridge := (r s.bridge).2 }) : Within R (Action.made op r) := by
  intro s
  rw [runOn_made]
  exact h s

theorem changed (C : Composable R) (op : String) {r : β → Except BridgeError β}
    (h : ∀ (s : State β) b, r s.bridge = .ok b → R s { s with bridge := b }) :
    Within R (Action.changed op r) := by
  intro s
  rw [runOn_changed]
  split
  · exact h s _ ‹_›
  · exact C.refl s

theorem withDatabase {r : Store.Database → Except Store.StoreError α × Store.Database}
    (h : ∀ s : State β, R s { s with database := (r s.database).2 }) :
    Within R (Action.withDatabase r) := by
  intro s
  rw [runOn_withDatabase]
  exact h s

theorem register (C : Composable R) (op : String)
    {r : Serve.Registry → Except Serve.RegistryError Serve.Registry}
    (h : ∀ (s : State β) t, r s.registry = .ok t → R s { s with registry := t }) :
    Within R (Action.register op r) := by
  intro s
  rw [runOn_register]
  split
  · exact h s _ ‹_›
  · exact C.refl s

theorem write (C : Composable R) (file : Int) (bytes : List UInt8)
    (h : ∀ (s : State β) o lines, s.output.write file bytes = .ok (o, lines) →
      R s ({ s with output := o }.tell (lines.map .log))) :
    Within R (Action.write file bytes) := by
  intro s
  rw [runOn_write]
  split
  · exact C.refl s
  · exact h s _ _ ‹_›

end Within
end Action
end GuestHost.Host
