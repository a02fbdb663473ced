import GuestHost.Bridge.HandleTable
import GuestHost.Proofs.Program.Turning
import GuestHost.Proofs.Store.Ending
/-!
One request, one transaction. The tables saved when a request begins stay saved until the handler has been
called, unless the handler's SQL controls transactions, it opens another store or a statement fails in such a
way that the store gives up the transaction. So a failed request that has not lost its transaction leaves the
tables as it found them, and a replied one leaves them as its last call did.
-/
namespace GuestHost

open Host Store

namespace Host

/-- No statement that the operation runs begins or ends a transaction. -/
def Operation.Plain : Operation → Prop
  | .open _ => True
  | register batch => ∀ ds, Declaration.parseBatch batch = .ok ds → ∀ d ∈ ds, Store.Plain d.createSql
  | sql _ text _ => controls text = false

theorem Operation.Plain.declaresPlain {op : Operation} (h : op.Plain) : op.DeclaresPlain := by
  cases op with
  | register batch => exact h
  | _ => trivial

/-- Without control of transactions one is turned only by being lost. -/
theorem Operation.Plain.turn? {op : Operation} {db : Database} (h : op.Plain)
    (hopens : op.opens = false) : op.turn? db = losing (op.loses db) := by
  cases op with
  | «open» path => cases hopens
  | register batch => rfl
  | sql c text params =>
    rw [loses_sql]
    exact Database.turn?_of_controls h

/-- The store stays open unless another one takes its place. -/
theorem Operation.isOpen_apply {op : Operation} {db : Database} (hopens : op.opens = false) :
    (op.apply db).isOpen = db.isOpen := by
  cases op with
  | «open» path => cases hopens
  | register batch => exact db.isOpen_register batch
  | sql c text params =>
    rw [apply_sql]
    exact db.isOpen_launched text params

namespace Performed

variable {β γ : Type} [Bridge β γ]

/-- No statement that the call runs begins or ends a transaction. -/
def Plain (p : Performed β γ) : Prop := ∀ op, p.operation? = some op → op.Plain

/-- A test for calls that are plain and open no store; declarations do not pass it. -/
def passes (p : Performed β γ) : Bool :=
  match p.operation? with
  | none => true
  | some (.sql _ text _) => !controls text
  | some _ => false

theorem quiet_of_passes {p : Performed β γ} (h : p.passes = true) : p.Plain ∧ p.opens = false := by
  unfold passes at h
  unfold Plain opens
  cases hop : p.operation? with
  | none => exact ⟨nofun, rfl⟩
  | some op =>
    rw [hop] at h
    cases op with
    | sql c text params =>
      refine ⟨?_, rfl⟩
      rintro _ ⟨⟩
      rw [Bool.not_eq_true'] at h
      exact h
    | _ => cases h

/-- A plain call that opens no store turns nothing, unless it loses the transaction. -/
theorem Plain.turn? {p : Performed β γ} (h : p.Plain) (hopens : p.opens = false) :
    p.turn? = losing p.loses := by
  unfold Performed.turn? Performed.loses
  unfold opens at hopens
  cases hop : p.operation? with
  | none => rfl
  | some op =>
    rw [hop, Option.any_some] at hopens
    exact (h op hop).turn? hopens

theorem isOpen_after {p : Performed β γ} (hopens : p.opens = false) :
    p.after.database.isOpen = p.state.database.isOpen := by
  rw [database_after]
  unfold opens at hopens
  cases hop : p.operation? with
  | none => rfl
  | some op =>
    rw [hop, Option.any_some] at hopens
    exact Operation.isOpen_apply hopens

/-- Calls that neither control transactions nor open a store leave what is saved, unless one of them loses
it. -/
theorem Chained.saved?_of_quiet {db last : Database} {ps : List (Performed β γ)}
    (h : Chained db ps last) (hquiet : ∀ p ∈ ps, p.Plain ∧ p.opens = false) :
    last.saved? = if ps.any loses then none else db.saved? := by
  induction ps generalizing db with
  | nil => rw [h]; rfl
  | cons p rest ih =>
    obtain ⟨⟨hplain, hopens⟩, hrest⟩ := List.forall_mem_cons.mp hquiet
    obtain ⟨rfl, hchained⟩ := h
    have hafter := saved?_after (fun op hop => (hplain op hop).declaresPlain) fun h => by
      rw [hopens] at h
      cases h
    rw [hplain.turn? hopens, backup_losing] at hafter
    rw [ih hchained hrest, hafter, List.any_cons]
    cases p.loses with
    | true => exact ite_self none
    | false => rfl

theorem Chained.isOpen_of_quiet {db last : Database} {ps : List (Performed β γ)}
    (h : Chained db ps last) (hopens : ∀ p ∈ ps, p.opens = false) : last.isOpen = db.isOpen := by
  induction ps generalizing db with
  | nil => rw [h]
  | cons p rest ih =>
    obtain ⟨hp, hrest⟩ := List.forall_mem_cons.mp hopens
    obtain ⟨rfl, hchained⟩ := h
    rw [ih hchained hrest, isOpen_after hp]

end Performed
end Host

namespace Program

open Performed (Chained lastDatabase)
open Serve (Outcome Reply Request)

variable {β γ : Type} [Bridge β γ]

namespace Instance

def database (i : Instance β) : Database := i.state.database

/-- The calls that an exported handler performs when it is called with a value. -/
def callPerformed (i : Instance β) (name : String) (arg : Value) : List (Performed β γ) :=
  match i.handler name with
  | .error _ => []
  | .ok f =>
    match i.onBridge fun b => Bridge.toGuest b arg with
    | (.error _, _) => []
    | (.ok g, i) => f.performed (some g) i.state

theorem call_threaded {δ : Type} {part : State β → δ}
    (hpart : ∀ (s : State β) b, part { s with bridge := b } = part s) (i : Instance β)
    (name : String) (arg : Value) :
    Performed.Threaded part (part i.state) (i.callPerformed name arg)
      (part (i.call name arg).2.state) := by
  unfold call callPerformed
  cases i.handler name with
  | error e => exact .nil _
  | ok f =>
    simp only
    have hbridge : part (i.onBridge fun b => Bridge.toGuest b arg).2.state = part i.state := hpart _ _
    rcases hr : i.onBridge fun b => Bridge.toGuest b arg with ⟨e | g, i₁⟩ <;> rw [hr] at hbridge
    · exact .of_eq hbridge
    · have hrun := f.threaded hpart (some g) i₁.state
      have hact : (i₁.act (f.run (some g))).2.state =
          (Action.runOn (f.run (some g)) i₁.state).2 := rfl
      rw [← hact, hbridge] at hrun
      simp only
      rcases hx : i₁.act (f.run (some g)) with ⟨t | _ | g', i₂⟩ <;> rw [hx] at hrun <;> exact hrun

theorem call_chained (i : Instance β) (name : String) (arg : Value) :
    Chained i.database (i.callPerformed name arg) (i.call name arg).2.database :=
  Performed.chained_of_threaded (call_threaded (fun _ _ => rfl) i name arg)

/-- The calls that the handler performs while a request is served. -/
def handlerCalls (i : Instance β) (m : Route.Match) (r : Request) : List (Performed β γ) :=
  match i.onDatabase Database.begin with
  | (.error _, _) => []
  | (.ok (), i) => i.callPerformed m.handler (Serve.requestValue m.params r)

/-- What the handler's last call leaves of the database; without a call, what the request found. -/
def leftByHandler (i : Instance β) (m : Route.Match) (r : Request) : Database :=
  lastDatabase i.database.begin.2 (i.handlerCalls m r)

/-- The program with the transaction of a request begun. -/
def begun (i : Instance β) : Instance β := (i.onDatabase Database.begin).2

theorem onDatabase_begin {i : Instance β} (hidle : i.database.saved? = none) :
    i.onDatabase Database.begin = (.ok (), i.begun) := by
  obtain ⟨db, hbegin, -⟩ := Database.begin_of_idle hidle
  have hresult : (i.onDatabase Database.begin).1 = i.database.begin.1 := rfl
  rw [hbegin] at hresult
  exact Prod.ext hresult rfl

theorem handlerCalls_chained {i : Instance β} (hidle : i.database.saved? = none) (m : Route.Match)
    (r : Request) : Chained i.database.begin.2 (i.handlerCalls m r)
      (i.begun.call m.handler (Serve.requestValue m.params r)).2.database := by
  unfold handlerCalls
  rw [onDatabase_begin hidle]
  exact i.begun.call_chained _ _

theorem leftByHandler_eq {i : Instance β} (hidle : i.database.saved? = none) (m : Route.Match)
    (r : Request) : i.leftByHandler m r =
      (i.begun.call m.handler (Serve.requestValue m.params r)).2.database :=
  (handlerCalls_chained hidle m r).last.symm

/-- A request that is answered is committed; otherwise the database is as the last call left it, or as the
attempt to commit did. -/
theorem answer_database (i : Instance β) (m : Route.Match) (r : Request) :
    let last := (i.call m.handler (Serve.requestValue m.params r)).2.database
    ((∃ f, (i.answer m r).1 = .error f) ∧ ((i.answer m r).2.database = last ∨
        ∃ e, last.commit = (.error e, (i.answer m r).2.database))) ∨
      ((∃ reply, (i.answer m r).1 = .ok reply) ∧
        last.commit = (.ok (), (i.answer m r).2.database)) := by
  unfold answer
  rcases i.call m.handler (Serve.requestValue m.params r) with ⟨e | v, i₁⟩
  · exact .inl ⟨⟨_, rfl⟩, .inl rfl⟩
  · simp only
    cases Serve.interpret v with
    | error e => exact .inl ⟨⟨_, rfl⟩, .inl rfl⟩
    | ok reply =>
      have hon : i₁.onDatabase Database.commit = (i₁.database.commit.1,
          i₁.mapState fun s => { s with database := i₁.database.commit.2 }) := rfl
      simp only [hon]
      rcases hcommit : i₁.database.commit with ⟨e | _, db⟩
      · exact .inl ⟨⟨_, rfl⟩, .inr ⟨e, rfl⟩⟩
      · exact .inr ⟨⟨_, rfl⟩, rfl⟩

theorem abandon_database (i : Instance β) : i.abandon.database = i.database.rollback.2 := by
  unfold abandon
  have hon : i.onDatabase Database.rollback = (i.database.rollback.1,
      i.mapState fun s => { s with database := i.database.rollback.2 }) := rfl
  obtain ⟨db, hrollback, -⟩ := i.database.rollback_eq
  simp only [hon, hrollback]
  rfl

theorem afterRequest_database (s : State β) : s.afterRequest.database = s.database := by
  unfold State.afterRequest
  split <;> rfl

/-- The database after a request: given up from what the handler's last call left if the request failed,
also if it failed by its commit; committed if it was replied to. -/
theorem invoke_database {i : Instance β} (hidle : i.database.saved? = none) (m : Route.Match)
    (r : Request) :
    ((∃ f, (i.invoke m r).1 = .error f) ∧
        Database.GivenUp (i.leftByHandler m r) (i.invoke m r).2.database) ∨
      ((∃ reply, (i.invoke m r).1 = .ok reply) ∧
        (i.leftByHandler m r).commit = (.ok (), (i.invoke m r).2.database)) := by
  have hanswer := i.begun.answer_database m r
  simp only [← leftByHandler_eq hidle] at hanswer
  unfold invoke
  rw [onDatabase_begin hidle]
  simp only
  rcases hr : i.begun.answer m r with ⟨f | reply, i₁⟩ <;> rw [hr] at hanswer
  · obtain ⟨-, hleft⟩ | ⟨⟨_, hreply⟩, -⟩ := hanswer
    · refine .inl ⟨⟨f, rfl⟩, ?_⟩
      simp only [abandon_database]
      obtain hdb | ⟨e, hcommit⟩ := hleft
      · obtain ⟨db, hrollback, hgone⟩ := (i.leftByHandler m r).rollback_eq
        rw [hdb, hrollback]
        exact hgone
      · exact Database.givenUp_of_failedCommit hcommit
    · cases hreply
  · obtain ⟨⟨_, hf⟩, -⟩ | ⟨-, hcommit⟩ := hanswer
    · cases hf
    · refine .inr ⟨⟨reply, rfl⟩, ?_⟩
      rw [hcommit]
      exact congrArg (Prod.mk _) (afterRequest_database i₁.state).symm

/-- The handler's calls while the request is served neither control transactions nor open a store. -/
def Quiet (i : Instance β) (m : Route.Match) (r : Request) : Prop :=
  ∀ p ∈ i.handlerCalls m r, p.Plain ∧ p.opens = false

theorem quiet_of_passes {i : Instance β} {m : Route.Match} {r : Request}
    (h : (i.handlerCalls m r).all Performed.passes = true) : i.Quiet m r :=
  fun p hp => Performed.quiet_of_passes (List.all_eq_true.mp h p hp)

/-- A store is open, and no transaction. -/
structure Ready (i : Instance β) : Prop where
  isOpen : i.database.isOpen = true
  idle : i.database.inTransaction = false

theorem Ready.saved? {i : Instance β} (h : i.Ready) : i.database.saved? = none := by
  have hidle := h.idle
  rw [Database.inTransaction_eq] at hidle
  exact Option.isNone_iff_eq_none.mp (by rw [← Option.not_isSome, hidle]; rfl)

/-- Whether a call of the handler fails and the request's transaction is lost with it. -/
def loses (i : Instance β) (m : Route.Match) (r : Request) : Bool :=
  (i.handlerCalls m r).any Performed.loses

theorem Ready.of_saved? {j : Instance β} (hopen : j.database.isOpen = true)
    (hidle : j.database.saved? = none) : j.Ready where
  isOpen := hopen
  idle := by
    rw [Database.inTransaction_eq, hidle]
    rfl

/-- What the handler leaves still has the tables saved that the request found, unless they are lost. -/
theorem Ready.saved?_leftByHandler {i : Instance β} (h : i.Ready) {m : Route.Match} {r : Request}
    (hquiet : i.Quiet m r) : (i.leftByHandler m r).saved? =
      if i.loses m r then none else i.database.tables? := by
  have hkept := (handlerCalls_chained h.saved? m r).saved?_of_quiet hquiet
  rw [leftByHandler_eq h.saved?, hkept, Database.saved?_begin h.saved?]
  rfl

theorem Ready.isOpen_leftByHandler {i : Instance β} (h : i.Ready) {m : Route.Match} {r : Request}
    (hquiet : i.Quiet m r) : (i.leftByHandler m r).isOpen = true := by
  have hkept := (handlerCalls_chained h.saved? m r).isOpen_of_quiet fun p hp => (hquiet p hp).2
  rw [leftByHandler_eq h.saved?, hkept, Database.isOpen_begin]
  exact h.isOpen

/-- Once what the handler left has been given up, the tables are those that the request found or, where it
has lost its transaction, those that its last call left. -/
theorem Ready.of_givenUp {i j : Instance β} (h : i.Ready) {m : Route.Match} {r : Request}
    (hquiet : i.Quiet m r) (hgone : Database.GivenUp (i.leftByHandler m r) j.database) :
    j.Ready ∧ (i.loses m r = false → j.database.tables? = i.database.tables?) ∧
      (i.loses m r = true → j.database.tables? = (i.leftByHandler m r).tables?) := by
  have hsaved := h.saved?_leftByHandler hquiet
  have hopen := h.isOpen_leftByHandler hquiet
  refine ⟨.of_saved? ?_ hgone.saved, fun hkept => ?_, fun hlost => ?_⟩
  · rw [Database.isOpen_eq] at hopen ⊢
    rw [hgone.tables, Option.isSome_or, hopen, Bool.or_true]
  · have hbefore := h.isOpen
    rw [Database.isOpen_eq] at hbefore
    obtain ⟨ts, hts⟩ := Option.isSome_iff_exists.mp hbefore
    rw [hkept, if_neg Bool.false_ne_true] at hsaved
    rw [hgone.tables, hsaved, hts, Option.some_or]
  · rw [if_pos hlost] at hsaved
    rw [hgone.tables, hsaved, Option.none_or]

theorem Ready.of_committed {i j : Instance β} (h : i.Ready) {m : Route.Match} {r : Request}
    (hquiet : i.Quiet m r) (hcommit : (i.leftByHandler m r).commit = (.ok (), j.database)) :
    j.Ready ∧ j.database.tables? = (i.leftByHandler m r).tables? := by
  have hopen := h.isOpen_leftByHandler hquiet
  obtain ⟨db, hok, htables, hnone⟩ | ⟨e, db, hfail, -⟩ := (i.leftByHandler m r).commit_cases
  · rw [hcommit] at hok
    obtain rfl := congrArg Prod.snd hok
    refine ⟨.of_saved? ?_ hnone, htables⟩
    rw [Database.isOpen_eq] at hopen ⊢
    rw [htables]
    exact hopen
  · rw [hcommit] at hfail
    cases hfail

/-- A failed request leaves the tables as it found them or, where it has lost its transaction, as its last
call left them; a replied one as its last call left them. And the store is ready for the next one. -/
theorem Ready.invoke {i : Instance β} (h : i.Ready) {m : Route.Match} {r : Request}
    (hquiet : i.Quiet m r) :
    (i.invoke m r).2.Ready ∧
      (∀ f, (i.invoke m r).1 = .error f →
        (i.loses m r = false → (i.invoke m r).2.database.tables? = i.database.tables?) ∧
          (i.loses m r = true →
            (i.invoke m r).2.database.tables? = (i.leftByHandler m r).tables?)) ∧
      ∀ reply, (i.invoke m r).1 = .ok reply →
        (i.invoke m r).2.database.tables? = (i.leftByHandler m r).tables? := by
  rcases invoke_database h.saved? m r with ⟨⟨f, hf⟩, hgone⟩ | ⟨⟨reply, hreply⟩, hcommit⟩
  · obtain ⟨hready, htables⟩ := h.of_givenUp hquiet hgone
    refine ⟨hready, fun _ _ => htables, fun reply hreply => ?_⟩
    rw [hf] at hreply
    cases hreply
  · obtain ⟨hready, htables⟩ := h.of_committed hquiet hcommit
    refine ⟨hready, fun f hf => ?_, fun _ _ => htables⟩
    rw [hreply] at hf
    cases hf

end Instance

namespace Dispatcher

/-- Serves requests one after the other. -/
def handleAll (d : Dispatcher β) (rs : List Request) : Dispatcher β :=
  rs.foldl (fun d r => (d.handle r).2) d

/-- The handlers of all requests, as they come, are quiet. -/
def Quiet (d : Dispatcher β) : List Request → Prop
  | [] => True
  | r :: rest => (∀ m, d.resolve r = some m → d.guest.Quiet m r) ∧ (d.handle r).2.Quiet rest

/-- None of the handlers of the requests, as they come, loses its transaction. -/
def Keeps (d : Dispatcher β) : List Request → Prop
  | [] => True
  | r :: rest => (∀ m, d.resolve r = some m → d.guest.loses m r = false) ∧ (d.handle r).2.Keeps rest

/-- A test for requests whose handlers are quiet and lose nothing. -/
def passes (d : Dispatcher β) : List Request → Bool
  | [] => true
  | r :: rest =>
    ((d.resolve r).all fun m => (d.guest.handlerCalls m r).all Performed.passes && !d.guest.loses m r) &&
      (d.handle r).2.passes rest

theorem quiet_of_passes {d : Dispatcher β} {rs : List Request} (h : d.passes rs = true) :
    d.Quiet rs ∧ d.Keeps rs := by
  induction rs generalizing d with
  | nil => exact ⟨trivial, trivial⟩
  | cons r rest ih =>
    rw [passes, Bool.and_eq_true] at h
    obtain ⟨hquiet, hkeeps⟩ := ih h.2
    have hall := h.1
    refine ⟨⟨fun m hm => ?_, hquiet⟩, fun m hm => ?_, hkeeps⟩
    · rw [hm, Option.all_some, Bool.and_eq_true] at hall
      exact Instance.quiet_of_passes hall.1
    · rw [hm, Option.all_some, Bool.and_eq_true, Bool.not_eq_true'] at hall
      exact hall.2

/-- The tables that count after a request: those that the last call of a replied request left, and those
before every other request. -/
def settledBy (d : Dispatcher β) (tables : Option Tables) (r : Request) : Option Tables :=
  match d.resolve r, (d.handle r).1 with
  | some m, .reply _ => (d.guest.leftByHandler m r).tables?
  | _, _ => tables

/-- The tables that count after some requests, the effects of the replied ones and of no other. -/
def settled (d : Dispatcher β) (tables : Option Tables) (rs : List Request) : Option Tables :=
  (rs.foldl (fun s r => ((s.1.handle r).2, s.1.settledBy s.2 r)) (d, tables)).2

theorem handle_ready {d : Dispatcher β} (h : d.guest.Ready) {r : Request}
    (hquiet : ∀ m, d.resolve r = some m → d.guest.Quiet m r) : (d.handle r).2.guest.Ready := by
  unfold handle
  cases hm : d.resolve r with
  | none => exact h
  | some m =>
    obtain ⟨hready, -⟩ := h.invoke (hquiet m hm)
    unfold serve
    simp only
    rcases hr : d.guest.invoke m r with ⟨f | reply, i⟩ <;> rw [hr] at hready
    · exact ⟨hready.isOpen, hready.idle⟩
    · exact hready

theorem handle_settled {d : Dispatcher β} (h : d.guest.Ready) {r : Request}
    (hquiet : ∀ m, d.resolve r = some m → d.guest.Quiet m r)
    (hkeeps : ∀ m, d.resolve r = some m → d.guest.loses m r = false) :
    (d.handle r).2.guest.database.tables? = d.settledBy d.guest.database.tables? r := by
  unfold settledBy handle
  cases hm : d.resolve r with
  | none => rfl
  | some m =>
    obtain ⟨-, hfailed, hreplied⟩ := h.invoke (hquiet m hm)
    unfold serve
    simp only
    rcases hr : d.guest.invoke m r with ⟨f | reply, i⟩ <;> rw [hr] at hfailed hreplied
    · exact (hfailed f rfl).1 (hkeeps m hm)
    · exact hreplied reply rfl

theorem handleAll_ready {d : Dispatcher β} (h : d.guest.Ready) {rs : List Request}
    (hquiet : d.Quiet rs) : (d.handleAll rs).guest.Ready := by
  induction rs generalizing d with
  | nil => exact h
  | cons r rest ih =>
    have hrest := ih (handle_ready h hquiet.1) hquiet.2
    simp only [handleAll, List.foldl_cons] at hrest ⊢
    exact hrest

theorem handleAll_settled {d : Dispatcher β} (h : d.guest.Ready) {rs : List Request}
    (hquiet : d.Quiet rs) (hkeeps : d.Keeps rs) :
    (d.handleAll rs).guest.database.tables? = d.settled d.guest.database.tables? rs := by
  induction rs generalizing d with
  | nil => rfl
  | cons r rest ih =>
    have hrest := ih (handle_ready h hquiet.1) hquiet.2 hkeeps.2
    rw [handle_settled h hquiet.1 hkeeps.1] at hrest
    simp only [handleAll, settled, List.foldl_cons] at hrest ⊢
    exact hrest

end Dispatcher

/-- All or nothing, as far as the store lets a transaction be. With a store open and no transaction, a
request whose handler is quiet leaves no transaction, and the tables as its handler's last call left them if
it is replied to. If it fails, also by its commit, it leaves the tables as it found them; but if the store has
given up the transaction by itself, when a statement of the handler failed, it leaves what the handler did
after that. So as long as no transaction is lost, the store holds the effects of the replied requests only. -/
theorem requests_all_or_nothing (d : Dispatcher β) (hopen : d.guest.database.isOpen = true)
    (hidle : d.guest.database.inTransaction = false) :
    (∀ m r, d.guest.Quiet m r →
        (d.guest.invoke m r).2.database.inTransaction = false ∧
          (∀ f, (d.guest.invoke m r).1 = .error f →
            (d.guest.loses m r = false →
              (d.guest.invoke m r).2.database.tables? = d.guest.database.tables?) ∧
            (d.guest.loses m r = true →
              (d.guest.invoke m r).2.database.tables? = (d.guest.leftByHandler m r).tables?)) ∧
          ∀ reply, (d.guest.invoke m r).1 = .ok reply →
            (d.guest.invoke m r).2.database.tables? = (d.guest.leftByHandler m r).tables?) ∧
      ∀ rs, d.Quiet rs →
        (d.handleAll rs).guest.database.inTransaction = false ∧
          (d.Keeps rs → (d.handleAll rs).guest.database.tables? =
            d.settled d.guest.database.tables? rs) := by
  have hready : d.guest.Ready := ⟨hopen, hidle⟩
  refine ⟨fun m r hquiet => ?_, fun rs hquiet => ?_⟩
  · obtain ⟨hready', hfailed, hreplied⟩ := hready.invoke hquiet
    exact ⟨hready'.idle, hfailed, hreplied⟩
  · refine ⟨(Dispatcher.handleAll_ready hready hquiet).idle, fun hkeeps => ?_⟩
    exact Dispatcher.handleAll_settled hready hquiet hkeeps

/-- A step that inserts, with the reference to no parameters behind it. -/
def insertStep (sql : String) : Step := .call "env" "sql_execute" [.text sql, .register 0]

def insertNote : Step := insertStep "INSERT INTO note VALUES (1)"

def noParams : Step := .call "env" "val_undefined" []

def replyDone : Step := .call "env" "http_response_text" [.register 1]

/-- Three handlers that insert a row: one replies, the others stop the program. The last one first inserts
into a table that has no number left, which ends its transaction. -/
def noteProgram : Program where
  functions := [
    ⟨"keep", .handler, [noParams, insertNote, replyDone], some (.register 2)⟩,
    ⟨"drop", .handler, [noParams, insertNote, .unreachable], some .parameter⟩,
    ⟨"slip", .handler, [noParams, insertStep "INSERT INTO page VALUES (NULL)", insertNote, .unreachable],
      some .parameter⟩]

def emptyNotes : Table where
  name := "note"
  columns := [{ name := "x", type := ⟨"INTEGER", .integer, 1, true⟩ }]

/-- A table of numbers, the greatest of which has been given out. -/
def fullPages : Table where
  name := "page"
  columns := [{ name := "id", type := ⟨"INTEGER", .integer, 1, true⟩ }]
  numberColumn := some 0
  ascending := true
  lastNumber := maxInteger
  rows := [⟨maxInteger, [.integer maxInteger]⟩]

/-- The program with its tables, a route for each handler, and storage that fails as it is told to. -/
def noteServer (mishaps : List (Option Failure)) : Dispatcher HandleTable where
  server := 0
  guest := {
    program := noteProgram
    state := { State.start {} (some (.zeroed 8)) with
      database := { conn := some { tables := [emptyNotes, fullPages] }, mishaps }
      registry := { servers := [((({} : Route.Table).add "GET" "/keep" "keep").add "GET" "/drop"
        "drop").add "GET" "/slip" "slip"] } } }

/-- A request that fails, and one that is replied to. -/
def noteRequests : List Request :=
  [{ method := "GET", path := "/drop" }, { method := "GET", path := "/keep" }]

def requestOf (name : String) : Request := { method := "GET", path := "/" ++ name }

def matchOf (name : String) : Route.Match := { handler := name, pattern := "/" ++ name, params := [] }

/-- How many rows the tables of an open store have. -/
def rowCounts (db : Database) : Option (List Nat) := db.tables?.map fun ts => ts.map fun t => t.rows.length

/-- The file is in use when the first request would be committed. -/
def busyAtCommit : List (Option Failure) := [none, some { error := .storage "database is locked" }]

/-- Of two insertions that of the failed request is gone. So is that of a request that could not be
committed, but not one that follows the loss of the transaction. -/
theorem notes_all_or_nothing :
    ((noteServer []).Quiet noteRequests ∧
        ((noteServer []).handleAll noteRequests).guest.database.inTransaction = false ∧
        ((noteServer []).handleAll noteRequests).guest.database.tables? =
          (noteServer []).settled (noteServer []).guest.database.tables? noteRequests ∧
        rowCounts ((noteServer []).handleAll noteRequests).guest.database = some [1, 1]) ∧
      (((noteServer busyAtCommit).guest.invoke (matchOf "keep") (requestOf "keep")).2.database.tables? =
          (noteServer busyAtCommit).guest.database.tables? ∧
        rowCounts (noteServer busyAtCommit).guest.database = some [0, 1]) ∧
      (((noteServer []).guest.invoke (matchOf "slip") (requestOf "slip")).2.database.tables? =
          ((noteServer []).guest.leftByHandler (matchOf "slip") (requestOf "slip")).tables? ∧
        rowCounts ((noteServer []).guest.invoke (matchOf "slip") (requestOf "slip")).2.database =
          some [1, 1]) := by
  obtain ⟨hone, hall⟩ := requests_all_or_nothing (noteServer []) (by decide +kernel) (by decide +kernel)
  obtain ⟨hbusy, -⟩ :=
    requests_all_or_nothing (noteServer busyAtCommit) (by decide +kernel) (by decide +kernel)
  refine ⟨?_, ?_, ?_⟩
  · have hpasses : (noteServer []).passes noteRequests = true := by decide +kernel
    obtain ⟨hquiet, hkeeps⟩ := Dispatcher.quiet_of_passes hpasses
    obtain ⟨hidle, htables⟩ := hall noteRequests hquiet
    exact ⟨hquiet, hidle, htables hkeeps, by decide +kernel⟩
  · obtain ⟨f, hf⟩ := Except.exists_error_of_isNone
      (x := ((noteServer busyAtCommit).guest.invoke (matchOf "keep") (requestOf "keep")).1)
      (by decide +kernel)
    have hquiet : (noteServer busyAtCommit).guest.Quiet (matchOf "keep") (requestOf "keep") :=
      Instance.quiet_of_passes (by decide +kernel)
    have hkept : (noteServer busyAtCommit).guest.loses (matchOf "keep") (requestOf "keep") = false := by
      decide +kernel
    obtain ⟨-, hfailed, -⟩ := hbusy _ _ hquiet
    exact ⟨(hfailed f hf).1 hkept, by decide +kernel⟩
  · obtain ⟨f, hf⟩ := Except.exists_error_of_isNone
      (x := ((noteServer []).guest.invoke (matchOf "slip") (requestOf "slip")).1) (by decide +kernel)
    have hquiet : (noteServer []).guest.Quiet (matchOf "slip") (requestOf "slip") :=
      Instance.quiet_of_passes (by decide +kernel)
    have hlost : (noteServer []).guest.loses (matchOf "slip") (requestOf "slip") = true := by
      decide +kernel
    obtain ⟨-, hfailed, -⟩ := hone _ _ hquiet
    exact ⟨(hfailed f hf).2 hlost, by decide +kernel⟩

end Program
end GuestHost
