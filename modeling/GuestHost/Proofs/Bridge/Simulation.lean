import GuestHost.Proofs.Host.Footprint
import GuestHost.Proofs.Value.WellFormed
/-!
Two bridges that cannot be told apart. A simulation relates their references and states relative to a
world, which says what has been shared so far and only ever grows; actions over related states match if
they end alike and leave related states.
-/
namespace GuestHost

open Host Host.Action

/-- How the references and states of two bridges correspond. -/
structure Correspondence (β γ β' γ' : Type) where
  World : Type
  /-- The second world knows all that the first one knows. -/
  Extends : World → World → Prop
  Same : World → γ → γ' → Prop
  Stands : World → β → β' → Prop
  /-- The first bridge has no room left. -/
  Full : β → Prop

namespace Correspondence

variable {β γ β' γ' : Type} (C : Correspondence β γ β' γ')

/-- Both operations make references that stand for the same in a wider world, or fail alike; unless the
first one fails because the bridge is full. -/
def Makes (w : C.World) (r : Except BridgeError γ × β) (r' : Except BridgeError γ' × β') : Prop :=
  (r.1 = .error .exhausted ∧ C.Full r.2) ∨
    ∃ w', C.Extends w w' ∧ C.Stands w' r.2 r'.2 ∧ Except.Agree (C.Same w') r.1 r'.1

end Correspondence

/-- A correspondence that every operation of a bridge keeps to. Values that are copied in have no object
with two members of one name. -/
structure Simulation (β β' : Type) {γ γ' : Type} [Bridge β γ] [Bridge β' γ'] extends
    Correspondence β γ β' γ' where
  refl (w : World) : Extends w w
  trans {w w' w'' : World} : Extends w w' → Extends w' w'' → Extends w w''
  mono {w w' : World} {g : γ} {g' : γ'} : Extends w w' → Same w g g' → Same w' g g'
  start : ∃ w, Stands w (Bridge.start : β) (Bridge.start : β')
  undefined (w : World) : Same w (Bridge.undefined β) (Bridge.undefined β')
  toGuest {w : World} {b : β} {b' : β'} (h : Stands w b b') {v : Value} (hv : v.WellFormed) :
    toCorrespondence.Makes w (Bridge.toGuest b v) (Bridge.toGuest b' v)
  toHost {w : World} {b : β} {b' : β'} (h : Stands w b b') {g : γ} {g' : γ'} (hg : Same w g g') :
    Bridge.toHost b g = Bridge.toHost b' g'
  kind {w : World} {b : β} {b' : β'} (h : Stands w b b') {g : γ} {g' : γ'} (hg : Same w g g') :
    Bridge.kind b g = Bridge.kind b' g'
  newArray {w : World} {b : β} {b' : β'} (h : Stands w b b') (n : Nat) :
    toCorrespondence.Makes w (Bridge.newArray b n) (Bridge.newArray b' n)
  arrayLength {w : World} {b : β} {b' : β'} (h : Stands w b b') {g : γ} {g' : γ'}
    (hg : Same w g g') : Bridge.arrayLength b g = Bridge.arrayLength b' g'
  arrayGet {w : World} {b : β} {b' : β'} (h : Stands w b b') {g : γ} {g' : γ'} (hg : Same w g g')
    (i : Nat) : Except.Agree (Same w) (Bridge.arrayGet b g i) (Bridge.arrayGet b' g' i)
  arraySet {w : World} {b : β} {b' : β'} (h : Stands w b b') {g : γ} {g' : γ'} (hg : Same w g g')
    (i : Nat) {x : γ} {x' : γ'} (hx : Same w x x') :
    Except.Agree (Stands w) (Bridge.arraySet b g i x) (Bridge.arraySet b' g' i x')
  newObject {w : World} {b : β} {b' : β'} (h : Stands w b b') :
    toCorrespondence.Makes w (Bridge.newObject b) (Bridge.newObject b')
  objectGet {w : World} {b : β} {b' : β'} (h : Stands w b b') {g : γ} {g' : γ'} (hg : Same w g g')
    (key : String) :
    Except.Agree (Option.Rel (Same w)) (Bridge.objectGet b g key) (Bridge.objectGet b' g' key)
  objectSet {w : World} {b : β} {b' : β'} (h : Stands w b b') {g : γ} {g' : γ'} (hg : Same w g g')
    (key : String) {x : γ} {x' : γ'} (hx : Same w x x') :
    Except.Agree (Stands w) (Bridge.objectSet b g key x) (Bridge.objectSet b' g' key x')
  objectKeys {w : World} {b : β} {b' : β'} (h : Stands w b b') {g : γ} {g' : γ'}
    (hg : Same w g g') : Bridge.objectKeys b g = Bridge.objectKeys b' g'
  intern {w : World} {b : β} {b' : β'} (h : Stands w b b') (p n : Nat) (text : String) :
    toCorrespondence.Makes w (Bridge.intern b p n text) (Bridge.intern b' p n text)

/-- A state without what the bridge keeps. -/
def Host.State.outside {β : Type} (s : State β) : State Unit := { s with bridge := () }

namespace Simulation

variable {β β' γ γ' α δ : Type} [Bridge β γ] [Bridge β' γ'] (S : Simulation β β')

/-- Two states that differ in nothing but related bridges. -/
structure Linked (w : S.World) (s : State β) (s' : State β') : Prop where
  bridge : S.Stands w s.bridge s'.bridge
  outside : s.outside = s'.outside

/-- A pair of references that stand for the same. -/
def Twin (w : S.World) : Type := { p : γ × γ' // S.Same w p.1 p.2 }

variable {S} {w : S.World}

theorem Linked.congr {s : State β} {s' : State β'} (h : S.Linked w s s') (f : State Unit → α) :
    f s.outside = f s'.outside := congrArg f h.outside

variable (S w)

/-- Both actions end with the same result and leave related states in the same world. -/
def Steady (a : Action β α) (a' : Action β' α) : Prop :=
  ∀ s s', S.Linked w s s' →
    S.Linked w (runOn a s).2 (runOn a' s').2 ∧ (runOn a s).1 = (runOn a' s').1

/-- Both actions end alike, with related results in a wider world; unless the first one finds its bridge
full. -/
def Matches (V : S.World → α → δ → Prop) (a : Action β α) (a' : Action β' δ) : Prop :=
  ∀ s s', S.Linked w s s' →
    ((∃ op, (runOn a s).1 = .error (.bridge op .exhausted)) ∧ S.Full (runOn a s).2.bridge) ∨
      ∃ w', S.Extends w w' ∧ S.Linked w' (runOn a s).2 (runOn a' s').2 ∧
        Except.Agree (V w') (runOn a s).1 (runOn a' s').1

variable {S w}

namespace Steady

theorem pure (x : α) : S.Steady w (Pure.pure x) (Pure.pure x) := fun _ _ h => ⟨h, rfl⟩

theorem throw (t : Trap) : S.Steady w (throw t : Action β α) (throw t) := fun _ _ h => ⟨h, rfl⟩

theorem lift {ε : Type} (trap : ε → Trap) {r r' : Except ε α} (hr : r = r') :
    S.Steady w (Action.lift trap r) (Action.lift trap r') := by
  subst hr
  intro s s' h
  rw [runOn_lift, runOn_lift]
  exact ⟨h, rfl⟩

theorem ofBuiltin (r : Except Builtin.Error α) :
    S.Steady w (Action.ofBuiltin r) (Action.ofBuiltin r) := lift _ rfl

theorem bind {a : Action β α} {a' : Action β' α} {f : α → Action β δ} {f' : α → Action β' δ}
    (ha : S.Steady w a a') (hf : ∀ x, S.Steady w (f x) (f' x)) :
    S.Steady w (a >>= f) (a' >>= f') := by
  intro s s' h
  obtain ⟨hl, hr⟩ := ha s s' h
  rw [runOn_bind, runOn_bind]
  rcases hx : runOn a s with ⟨t | x, s₁⟩ <;> rcases hx' : runOn a' s' with ⟨t' | x', s₁'⟩ <;>
    rw [hx, hx'] at hl hr <;> cases hr
  · exact ⟨hl, rfl⟩
  · exact hf x s₁ s₁' hl

theorem reading {f : State β → Action β α} {f' : State β' → Action β' α}
    (hf : ∀ s s', S.Linked w s s' → S.Steady w (f s) (f' s')) :
    S.Steady w (MonadState.get >>= f) (MonadState.get >>= f') := by
  intro s s' h
  rw [runOn_bind_of_ok (runOn_get s), runOn_bind_of_ok (runOn_get s')]
  exact hf s s' h s s' h

theorem toHost (op : String) {g : γ} {g' : γ'} (hg : S.Same w g g') :
    S.Steady w (Action.toHost op g) (Action.toHost op g') :=
  reading fun _ _ h => lift _ (S.toHost h.bridge hg)

theorem text (op : String) {g : γ} {g' : γ'} (hg : S.Same w g g') :
    S.Steady w (Action.text op g) (Action.text op g') :=
  bind (toHost op hg) fun _ => lift _ rfl

/-- A change to all but the bridge. -/
theorem modify {f : State β → State β} {f' : State β' → State β'} (k : State Unit → State Unit)
    (hb : ∀ s, (f s).bridge = s.bridge) (hb' : ∀ s, (f' s).bridge = s.bridge)
    (hk : ∀ s, (f s).outside = k s.outside) (hk' : ∀ s, (f' s).outside = k s.outside) :
    S.Steady w (modify f : Action β Unit) (modify f') := by
  intro s s' h
  refine ⟨⟨?_, ?_⟩, rfl⟩
  · simp only [runOn_modify, hb, hb']
    exact h.bridge
  · simp only [runOn_modify, hk, hk', h.outside]

theorem memory (op : String) : S.Steady w (Action.memory op) (Action.memory op) := by
  refine reading fun s s' h => ?_
  have hm : s.memory = s'.memory := h.congr State.memory
  rw [← hm]
  cases s.memory
  · exact throw _
  · exact pure _

theorem readBytes (op : String) (p n : Int) :
    S.Steady w (Action.readBytes op p n) (Action.readBytes op p n) := by
  refine bind (memory op) fun m => ?_
  cases m.read? (unsigned p) (unsigned n)
  · exact throw _
  · exact pure _

theorem readText (op : String) (p n : Int) :
    S.Steady w (Action.readText op p n) (Action.readText op p n) := by
  refine bind (readBytes op p n) fun bytes => ?_
  cases Text.decode? bytes
  · exact throw _
  · exact pure _

theorem withDatabase (r : Store.Database → Except Store.StoreError α × Store.Database) :
    S.Steady w (Action.withDatabase r) (Action.withDatabase r) := by
  intro s s' h
  have hd : s.database = s'.database := h.congr State.database
  rw [runOn_withDatabase, runOn_withDatabase, hd]
  exact ⟨⟨h.bridge, h.congr fun o => { o with database := (r s'.database).2 }⟩, rfl⟩

theorem storeResult (op : String) (stops : Store.StoreError → Bool)
    (r : Except Store.StoreError Value) :
    S.Steady w (Action.storeResult op stops r) (Action.storeResult op stops r) := by
  cases r with
  | ok v => exact pure v
  | error e =>
    simp only [Action.storeResult]
    split
    · exact throw _
    · exact pure _

theorem register (op : String) (r : Serve.Registry → Except Serve.RegistryError Serve.Registry) :
    S.Steady w (Action.register op r) (Action.register op r) := by
  intro s s' h
  have hr : s.registry = s'.registry := h.congr State.registry
  rw [runOn_register, runOn_register, hr]
  cases r s'.registry with
  | error e => exact ⟨h, rfl⟩
  | ok t => exact ⟨⟨h.bridge, h.congr fun o => { o with registry := t }⟩, rfl⟩

theorem write (file : Int) (bytes : List UInt8) :
    S.Steady w (Action.write file bytes) (Action.write file bytes) := by
  intro s s' h
  have ho : s.output = s'.output := h.congr State.output
  rw [runOn_write, runOn_write, ho]
  rcases s'.output.write file bytes with e | ⟨output, lines⟩
  · exact ⟨h, rfl⟩
  · exact ⟨⟨h.bridge, h.congr fun o => { o with output }.tell (lines.map .log)⟩, rfl⟩

theorem changed (op : String) {r : β → Except BridgeError β} {r' : β' → Except BridgeError β'}
    (hr : ∀ {b b'}, S.Stands w b b' → Except.Agree (S.Stands w) (r b) (r' b')) :
    S.Steady w (Action.changed op r) (Action.changed op r') := by
  intro s s' h
  have hs := hr h.bridge
  rw [runOn_changed, runOn_changed]
  rcases hx : r s.bridge with e | b <;> rcases hx' : r' s'.bridge with e' | b' <;>
    rw [hx, hx'] at hs
  · rw [Except.agree_error] at hs
    exact ⟨h, by rw [hs]⟩
  · exact hs.elim
  · exact hs.elim
  · exact ⟨⟨hs, h.outside⟩, rfl⟩

end Steady

/-- A result that an action can have. -/
def Reached (a : Action β α) (x : α) : Prop := ∃ s, (runOn a s).1 = .ok x

theorem Reached.ofBuiltin {r : Except Builtin.Error α} {x : α}
    (h : Reached (Action.ofBuiltin r : Action β α) x) : r = .ok x := by
  obtain ⟨s, h⟩ := h
  rwa [Action.ofBuiltin, runOn_lift, Except.mapError_eq_ok_iff] at h

theorem Reached.withDatabase {r : Store.Database → Except Store.StoreError α × Store.Database}
    {x : Except Store.StoreError α} (h : Reached (Action.withDatabase r : Action β _) x) :
    ∃ db, (r db).1 = x := by
  obtain ⟨s, h⟩ := h
  rw [runOn_withDatabase] at h
  exact ⟨s.database, by simpa using h⟩

/-- The value of a failure names nothing twice. -/
theorem Reached.storeResult {op : String} {stops : Store.StoreError → Bool}
    {r : Except Store.StoreError Value} {v : Value}
    (h : Reached (Action.storeResult op stops r : Action β Value) v)
    (hr : ∀ v, r = .ok v → v.WellFormed) : v.WellFormed := by
  obtain ⟨s, h⟩ := h
  cases r with
  | ok v' =>
    rw [Action.storeResult, runOn_pure, Except.ok.injEq] at h
    exact h ▸ hr v' rfl
  | error e =>
    rw [Action.storeResult] at h
    split at h
    · cases h
    · rw [runOn_pure, Except.ok.injEq] at h
      exact h ▸ Value.wellFormed_error _ _

namespace Matches

variable {V : S.World → α → δ → Prop}

theorem pure {x : α} {x' : δ} (hx : V w x x') : S.Matches w V (Pure.pure x) (Pure.pure x') :=
  fun _ _ h => .inr ⟨w, S.refl w, h, hx⟩

theorem throw (t : Trap) : S.Matches w V (throw t) (throw t) :=
  fun _ _ h => .inr ⟨w, S.refl w, h, rfl⟩

/-- What follows may count on the result being one that the first action can have. -/
theorem bind {κ : Type} {a : Action β κ} {a' : Action β' κ} {f : κ → Action β α}
    {f' : κ → Action β' δ} (ha : S.Steady w a a')
    (hf : ∀ x, Reached a x → S.Matches w V (f x) (f' x)) :
    S.Matches w V (a >>= f) (a' >>= f') := by
  intro s s' h
  obtain ⟨hl, hr⟩ := ha s s' h
  rcases hx : runOn a s with ⟨t | x, s₁⟩ <;> rcases hx' : runOn a' s' with ⟨t' | x', s₁'⟩ <;>
    rw [hx, hx'] at hl hr <;> cases hr
  · rw [runOn_bind_of_error hx, runOn_bind_of_error hx']
    exact .inr ⟨w, S.refl w, hl, rfl⟩
  · rw [runOn_bind_of_ok hx, runOn_bind_of_ok hx']
    exact hf x ⟨s, by rw [hx]⟩ s₁ s₁' hl

theorem reading {f : State β → Action β α} {f' : State β' → Action β' δ}
    (hf : ∀ s s', S.Linked w s s' → S.Matches w V (f s) (f' s')) :
    S.Matches w V (MonadState.get >>= f) (MonadState.get >>= f') := by
  intro s s' h
  rw [runOn_bind_of_ok (runOn_get s), runOn_bind_of_ok (runOn_get s')]
  exact hf s s' h s s' h

theorem lift {ε : Type} (trap : ε → Trap) {r : Except ε α} {r' : Except ε δ}
    (hr : Except.Agree (V w) r r') : S.Matches w V (Action.lift trap r) (Action.lift trap r') := by
  intro s s' h
  rw [runOn_lift, runOn_lift]
  exact .inr ⟨w, S.refl w, h, hr.mapError trap⟩

/-- References that are made alike. -/
theorem made (op : String) {r : β → Except BridgeError γ × β} {r' : β' → Except BridgeError γ' × β'}
    (hr : ∀ {b b'}, S.Stands w b b' → S.Makes w (r b) (r' b')) :
    S.Matches w S.Same (Action.made op r) (Action.made op r') := by
  intro s s' h
  rw [runOn_made, runOn_made]
  rcases hr h.bridge with ⟨he, hfull⟩ | ⟨w', hw, hs, hg⟩
  · refine .inl ⟨⟨op, ?_⟩, hfull⟩
    rw [he]
    rfl
  · exact .inr ⟨w', hw, ⟨hs, h.outside⟩, hg.mapError _⟩

theorem toGuest (op : String) {v : Value} (hv : v.WellFormed) :
    S.Matches w S.Same (Action.toGuest op v) (Action.toGuest op v) :=
  made op fun h => S.toGuest h hv

/-- What follows related results has to match in every wider world. -/
theorem bindMade {κ κ' : Type} {U : S.World → κ → κ' → Prop} {a : Action β α} {a' : Action β' δ}
    {f : α → Action β κ} {f' : δ → Action β' κ'} (ha : S.Matches w V a a')
    (hf : ∀ w' x x', S.Extends w w' → V w' x x' → S.Matches w' U (f x) (f' x')) :
    S.Matches w U (a >>= f) (a' >>= f') := by
  intro s s' h
  rcases ha s s' h with ⟨⟨op, he⟩, hfull⟩ | ⟨w', hw, hl, hv⟩
  · rcases hx : runOn a s with ⟨t | x, s₁⟩ <;> rw [hx] at he hfull <;> cases he
    rw [runOn_bind_of_error hx]
    exact .inl ⟨⟨op, rfl⟩, hfull⟩
  · rcases hx : runOn a s with ⟨t | x, s₁⟩ <;> rcases hx' : runOn a' s' with ⟨t' | x', s₁'⟩ <;>
      rw [hx, hx'] at hl hv
    · rw [runOn_bind_of_error hx, runOn_bind_of_error hx']
      exact .inr ⟨w', hw, hl, hv⟩
    · exact hv.elim
    · exact hv.elim
    · rw [runOn_bind_of_ok hx, runOn_bind_of_ok hx']
      rcases hf w' x x' hw hv s₁ s₁' hl with hfull | ⟨w'', hw', hl, hv⟩
      · exact .inl hfull
      · exact .inr ⟨w'', S.trans hw hw', hl, hv⟩

/-- A member of an object, or undefined. -/
theorem field (op : String) {o : γ} {o' : γ'} (ho : S.Same w o o') (key : String) :
    S.Matches w S.Same (Action.field op o key) (Action.field op o' key) := by
  refine reading fun s s' h => bindMade (V := fun w => Option.Rel (S.Same w))
    (lift _ (S.objectGet h.bridge ho key)) ?_
  intro w' g g' _ hg
  cases hg with
  | some hg => exact pure hg
  | none => exact pure (S.undefined w')

end Matches
end Simulation
end GuestHost
