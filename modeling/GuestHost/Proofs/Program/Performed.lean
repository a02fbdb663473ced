import GuestHost.Proofs.Host.Footprint
import GuestHost.Program.Session
/-!
The calls that a run of a function performs, each with the state that it finds. Nothing but these calls
touches the database.
-/
namespace GuestHost

open Host Host.Action

namespace Host

/-- What a call wants of the database. -/
inductive Operation where
  | open (path : String)
  | register (batch : String)
  | sql (c : SqlCall) (text : String) (params : Value)

namespace Operation

/-- Whether another store takes the place of the present one. -/
def opens : Operation → Bool
  | .open _ => true
  | _ => false

/-- What is left of the database. -/
def apply (db : Store.Database) : Operation → Store.Database
  | .open path => (db.opened path).2
  | register batch => (db.register batch).2
  | sql c text params => (runSql c db text params).2

end Operation

namespace Call

variable {β γ : Type} [Bridge β γ]

/-- The text that a reference leads to, if it leads to one. -/
def textOf? (b : β) (g : γ) : Option String :=
  match Bridge.toHost b g with
  | .ok (.string s) => some s
  | _ => none

/-- What the call wants of the database; without readable arguments it does not get so far. -/
def operation? (b : β) : Call γ → Option Operation
  | openDatabase path => (textOf? b path).map .open
  | registerTables batch => (textOf? b batch).map .register
  | sql c statement params =>
    match textOf? b statement, Bridge.toHost b params with
    | some t, .ok v => some (.sql c t v)
    | _, _ => none
  | _ => none

/-- The database that the call leaves. -/
def databaseAfter (s : State β) (c : Call γ) : Store.Database :=
  match c.operation? s.bridge with
  | some op => op.apply s.database
  | none => s.database

/-- What leaves the database alone. -/
theorem keeps_footprint : Footprint β fun s s' => s'.database = s.database where
  refl _ := rfl
  trans h h' := h'.trans h
  toGuest _ _ := rfl
  newArray _ _ := rfl
  newObject _ := rfl
  intern _ _ _ _ := rfl
  arraySet _ _ _ _ _ _ := rfl
  objectSet _ _ _ _ _ _ := rfl
  write _ _ _ _ _ _ := rfl
  memory _ _ := rfl
  create _ := rfl
  addRoute _ _ _ _ _ _ _ := rfl
  listen _ _ _ _ _ := rfl
  collect _ := rfl
  exit _ _ := rfl

theorem runOn_text (op : String) (g : γ) (s : State β) :
    (∃ t, runOn (Action.text op g) s = (.error t, s) ∧ textOf? s.bridge g = none) ∨
      ∃ text, runOn (Action.text op g) s = (.ok text, s) ∧ textOf? s.bridge g = some text := by
  unfold Action.text Action.toHost textOf?
  rw [runOn_bind, runOn_bind_of_ok (runOn_get s), runOn_lift]
  rcases Bridge.toHost s.bridge g with e | v
  · exact .inl ⟨_, rfl, rfl⟩
  · cases v with
    | string x => exact .inr ⟨x, rfl, rfl⟩
    | _ => exact .inl ⟨_, rfl, rfl⟩

theorem runOn_toHost (op : String) (g : γ) (s : State β) :
    runOn (Action.toHost op g) s = ((Bridge.toHost s.bridge g).mapError (.bridge op), s) := by
  unfold Action.toHost
  rw [runOn_bind_of_ok (runOn_get s), runOn_lift]

/-- Handing a result back leaves the database alone. -/
theorem keeps_answer (op : String) (stops : Store.StoreError → Bool)
    (r : Except Store.StoreError Value) :
    Within (fun s s' : State β => s'.database = s.database)
      (do
        let v ← storeResult op stops r
        return some (Argument.guest (← Action.toGuest op v)) : Action β (Option (Argument γ))) := by
  have C := (keeps_footprint (β := β)).toComposable
  refine Within.bind C ((Still.storeResult _ _ r).within C) fun v => ?_
  exact Within.bind C (keeps_footprint.toGuest_within _ v) fun _ => Within.pure C _

theorem database_performStore (c : Call γ) (s : State β) :
    (runOn c.performStore s).2.database = c.databaseAfter s := by
  cases c with
  | openDatabase path =>
    simp only [performStore, databaseAfter, operation?]
    rcases runOn_text "db_open" path s with ⟨t, hrun, htext⟩ | ⟨t, hrun, htext⟩
    · rw [runOn_bind_of_error hrun, htext]
      rfl
    · rw [runOn_bind_of_ok hrun, htext, runOn_bind_of_ok (runOn_withDatabase _ s)]
      exact keeps_answer _ _ _ _
  | registerTables batch =>
    simp only [performStore, databaseAfter, operation?]
    rcases runOn_text "register_tables" batch s with ⟨t, hrun, htext⟩ | ⟨t, hrun, htext⟩
    · rw [runOn_bind_of_error hrun, htext]
      rfl
    · rw [runOn_bind_of_ok hrun, htext, runOn_bind_of_ok (runOn_withDatabase _ s)]
      exact keeps_answer _ _ _ _
  | sql c statement params =>
    simp only [performStore, databaseAfter, operation?]
    rcases runOn_text c.name statement s with ⟨t, hrun, htext⟩ | ⟨t, hrun, htext⟩
    · rw [runOn_bind_of_error hrun, htext]
    · have hparams := runOn_toHost c.name params s
      rw [runOn_bind_of_ok hrun, htext]
      rcases hv : Bridge.toHost s.bridge params with e | v <;> rw [hv] at hparams
      · rw [runOn_bind_of_error hparams]
      · rw [runOn_bind_of_ok hparams, runOn_bind_of_ok (runOn_withDatabase _ s)]
        exact keeps_answer _ _ _ _
  | _ => rfl

/-- The database after a call is what the call wants of it. -/
theorem database_perform (c : Call γ) (s : State β) :
    (runOn c.perform s).2.database = c.databaseAfter s := by
  have hkeeps : Within (fun s s' : State β => s'.database = s.database)
      (c.performStore : Action β (Option (Argument γ))) →
      (runOn c.perform s).2.database = s.database :=
    fun hstore => perform_within keeps_footprint c hstore s
  cases c with
  | openDatabase path => exact database_performStore _ s
  | registerTables batch => exact database_performStore _ s
  | sql c statement params => exact database_performStore _ s
  | _ => exact hkeeps fun _ => rfl

end Call

/-- A call that is performed, and the state that it finds. -/
structure Performed (β γ : Type) where
  call : Call γ
  state : State β

namespace Performed

variable {β γ : Type} [Bridge β γ]

/-- The state that the call leaves. -/
def after (p : Performed β γ) : State β := (runOn p.call.perform p.state).2

/-- What the call wants of the database. -/
def operation? (p : Performed β γ) : Option Operation := p.call.operation? p.state.bridge

theorem database_after (p : Performed β γ) :
    p.after.database = match p.operation? with
      | some op => op.apply p.state.database
      | none => p.state.database := p.call.database_perform p.state

/-- Calls that follow each other on a part of the state: each finds that as the one before it has left it. -/
inductive Threaded {δ : Type} (part : State β → δ) : δ → List (Performed β γ) → δ → Prop
  | nil (x : δ) : Threaded part x [] x
  | cons {x : δ} {p : Performed β γ} {rest : List (Performed β γ)} {last : δ}
      (hp : part p.state = x) (hrest : Threaded part (part p.after) rest last) :
      Threaded part x (p :: rest) last

namespace Threaded

variable {δ : Type} {part : State β → δ} {x mid last : δ} {ps qs : List (Performed β γ)}

theorem of_eq (h : last = x) : Threaded part x ([] : List (Performed β γ)) last := h ▸ nil last

theorem append (h : Threaded part x ps mid) (h' : Threaded part mid qs last) :
    Threaded part x (ps ++ qs) last := by
  induction h with
  | nil => exact h'
  | cons hp _ ih => exact .cons hp (ih h')

theorem split {before after : List (Performed β γ)} {p : Performed β γ}
    (h : Threaded part x (before ++ p :: after) last) : Threaded part x before (part p.state) := by
  induction before generalizing x with
  | nil =>
    cases h with
    | cons hp _ => exact of_eq hp
  | cons q before ih =>
    cases h with
    | cons hq hrest => exact .cons hq (ih hrest)

end Threaded

/-- Calls that follow each other on one database: each finds what the one before it has left. -/
def Chained (db : Store.Database) : List (Performed β γ) → Store.Database → Prop
  | [], last => last = db
  | p :: rest, last => p.state.database = db ∧ Chained p.after.database rest last

theorem chained_of_threaded {db last : Store.Database} {ps : List (Performed β γ)}
    (h : Threaded State.database db ps last) : Chained db ps last := by
  induction h with
  | nil => rfl
  | cons hp _ ih => exact ⟨hp, ih⟩

/-- The database that the last of some calls leaves, or the given one if there are none. -/
def lastDatabase (db : Store.Database) (ps : List (Performed β γ)) : Store.Database :=
  (ps.getLast?.map fun p => p.after.database).getD db

theorem Chained.last {db last : Store.Database} {ps : List (Performed β γ)}
    (h : Chained db ps last) : last = lastDatabase db ps := by
  induction ps generalizing db with
  | nil => exact h
  | cons p rest ih =>
    rw [ih h.2]
    unfold lastDatabase
    cases rest with
    | nil => rfl
    | cons q rest => rw [List.getLast?_cons_cons]; rfl

end Performed
end Host

namespace Program

variable {β γ : Type} [Bridge β γ]

/-- The call that a step makes, once its arguments have been read. -/
def readCall (frame : Frame γ) (module name : String) (operands : List Operand) :
    Action β (Call γ) := do
  let signature ← wanted (Signature.ofName? module name)
  let args ← evalArgs frame signature.params operands
  wanted (Call.of? module name args)

theorem runCall_eq (frame : Frame γ) (module name : String) (operands : List Operand) :
    (runCall frame module name operands : Action β _) =
      readCall frame module name operands >>= Call.perform := by
  simp only [runCall, callWith, readCall, bind_assoc]

/-! Until the call itself, a step changes nothing but the references that its texts become. -/

section

variable {R : State β → State β → Prop} (C : Composable R)
  (hguest : ∀ (s : State β) (v : Value), R s { s with bridge := (Bridge.toGuest s.bridge v).2 })

include C

theorem wanted_within {α : Type} (a : Option α) : Within R (wanted a : Action β α) := by
  cases a with
  | none => exact Within.throw C _
  | some a => exact Within.pure C a

include hguest

theorem read_within (frame : Frame γ) (o : Operand) : Within R (o.read frame : Action β _) := by
  cases o with
  | text s =>
    refine Within.bind C ((Still.memory _).within C) fun _ => ?_
    exact Within.bind C (Within.made _ fun s => hguest s _) fun _ => Within.pure C _
  | register k => exact wanted_within C _
  | parameter => exact wanted_within C _
  | raw n => exact wanted_within C _
  | nullReference => exact wanted_within C _
  | _ => exact Within.pure C _

theorem eval_within (frame : Frame γ) (type : WordType) (o : Operand) :
    Within R (o.eval frame type : Action β _) :=
  Within.bind C (read_within C hguest frame o) fun _ => wanted_within C _

theorem evalGuest_within (frame : Frame γ) (o : Operand) :
    Within R (o.evalGuest frame : Action β _) := by
  refine Within.bind C (eval_within C hguest frame _ o) fun a => ?_
  cases a with
  | guest g => exact Within.pure C g
  | _ => exact Within.throw C _

theorem evalArgs_within (frame : Frame γ) (types : List WordType) (operands : List Operand) :
    Within R (evalArgs frame types operands : Action β _) := by
  induction types generalizing operands with
  | nil =>
    cases operands with
    | nil => exact Within.pure C _
    | cons o rest => exact Within.throw C _
  | cons type types ih =>
    cases operands with
    | nil => exact Within.throw C _
    | cons o rest =>
      refine Within.bind C (eval_within C hguest frame type o) fun a => ?_
      exact Within.bind C (ih rest) fun _ => Within.pure C _

theorem readCall_within (frame : Frame γ) (module name : String) (operands : List Operand) :
    Within R (readCall frame module name operands : Action β _) := by
  refine Within.bind C (wanted_within C _) fun signature => ?_
  exact Within.bind C (evalArgs_within C hguest frame _ operands) fun args => wanted_within C _

end

/-- The call that a step performs, if it gets so far. -/
def Step.performed (frame : Frame γ) (s : State β) : Step → List (Performed β γ)
  | call module name operands =>
    match runOn (readCall frame module name operands) s with
    | (.ok c, s) => [⟨c, s⟩]
    | (.error _, _) => []
  | _ => []

/-- The calls that some steps perform, up to the one that stops the program or ends the function. -/
def performedIn (frame : Frame γ) (s : State β) : List Step → List (Performed β γ)
  | [] => []
  | step :: rest =>
    step.performed frame s ++
      match runOn (step.run frame) s with
      | (.ok (.next frame), s) => performedIn frame s rest
      | _ => []

section

variable {δ : Type} {part : State β → δ}

theorem keeps_part (part : State β → δ) : Composable fun s s' : State β => part s' = part s where
  refl _ := rfl
  trans h h' := h'.trans h

/-- A part of the state that references are no matter of changes by the call of a step only. -/
theorem Step.threaded (hpart : ∀ (s : State β) b, part { s with bridge := b } = part s)
    (frame : Frame γ) (s : State β) (step : Step) :
    Performed.Threaded part (part s) (step.performed frame s)
      (part (runOn (step.run frame) s).2) := by
  have C := keeps_part part
  have hguest : ∀ (s : State β) (v : Value),
      part { s with bridge := (Bridge.toGuest s.bridge v).2 } = part s := fun s _ => hpart s _
  cases step with
  | call module name operands =>
    have hread := readCall_within C hguest frame module name operands s
    simp only [Step.performed, Step.run, runCall_eq]
    rcases hr : runOn (readCall frame module name operands) s with ⟨t | c, s₁⟩ <;> rw [hr] at hread
    · rw [runOn_bind_of_error (runOn_bind_of_error hr)]
      exact .of_eq hread
    · have hperform : (runOn (readCall frame module name operands >>= Call.perform) s) =
          runOn c.perform s₁ := runOn_bind_of_ok hr
      rw [runOn_bind_pure_snd, hperform]
      exact .cons hread (.nil _)
  | unreachable => exact .nil _
  | returnIf condition result =>
    have hwithin : Within (fun s s' : State β => part s' = part s)
        ((returnIf condition result).run frame) := by
      refine Within.bind C (eval_within C hguest frame _ condition) fun a => ?_
      split
      · exact Within.pure C _
      · cases result with
        | none => exact Within.pure C _
        | some o =>
          exact Within.bind C (evalGuest_within C hguest frame o) fun _ => Within.pure C _
    exact .of_eq (hwithin s)

theorem runSteps_threaded (hpart : ∀ (s : State β) b, part { s with bridge := b } = part s)
    (result : Option Operand) (frame : Frame γ) (steps : List Step) (s : State β) :
    Performed.Threaded part (part s) (performedIn frame s steps)
      (part (runOn (runSteps result frame steps) s).2) := by
  have C := keeps_part part
  induction steps generalizing frame s with
  | nil =>
    have hwithin : Within (fun s s' : State β => part s' = part s) (runSteps result frame []) := by
      cases result with
      | none => exact Within.pure C _
      | some o =>
        exact Within.bind C (evalGuest_within C (fun s _ => hpart s _) frame o) fun _ =>
          Within.pure C _
    exact .of_eq (hwithin s)
  | cons step rest ih =>
    have hstep := step.threaded hpart frame s
    rw [performedIn, runSteps]
    rcases hr : runOn (step.run frame) s with ⟨t | flow, s₁⟩ <;> rw [hr] at hstep
    · rw [runOn_bind_of_error hr]
      exact hstep.append (.nil _)
    · rw [runOn_bind_of_ok hr]
      cases flow with
      | next frame => exact hstep.append (ih frame s₁)
      | returned g => exact hstep.append (.nil _)

end

/-- The calls that a function performs when it is called in a state. -/
def Function.performed (f : Function) (parameter : Option γ) (s : State β) :
    List (Performed β γ) := performedIn { parameter } s f.body

/-- Between the state that a function is called in and the one that it leaves, a part of the state that
references are no matter of goes through what its calls do and nothing else. -/
theorem Function.threaded {δ : Type} {part : State β → δ}
    (hpart : ∀ (s : State β) b, part { s with bridge := b } = part s) (f : Function)
    (parameter : Option γ) (s : State β) :
    Performed.Threaded part (part s) (f.performed parameter s) (part (runOn (f.run parameter) s).2) :=
  runSteps_threaded hpart f.result _ f.body s

end Program
end GuestHost
