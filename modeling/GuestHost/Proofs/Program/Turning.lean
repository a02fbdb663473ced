import GuestHost.Proofs.Program.Performed
import GuestHost.Proofs.Store.Transaction
/-!
What the calls of a handler do to an open transaction. A statement that begins or ends transactions turns
it, and so does opening a store, where none is begun, and a failure with which the store gives it up; whatever
else is called leaves it as it is. After any calls a transaction is open just if the last call that turned it
left it so.
-/
namespace GuestHost

open Host Store

namespace Store.Database

theorem declared_opened (db : Database) (path : String) :
    (db.opened path).2.declared = db.declared := by
  unfold opened
  simp only
  split
  · exact declared_close db
  · split
    · exact declared_close db
    · rw [declared_close]
      exact declared_close db

theorem mem_record {d e : TableDef} {ds : List TableDef} (h : e ∈ record d ds) : e = d ∨ e ∈ ds := by
  induction ds with
  | nil => exact .inl (List.mem_singleton.mp h)
  | cons f rest ih =>
    rw [record] at h
    split at h
    · exact (List.mem_cons.mp h).imp id (List.mem_cons_of_mem _)
    · rcases List.mem_cons.mp h with rfl | h
      · exact .inr List.mem_cons_self
      · exact (ih h).imp id (List.mem_cons_of_mem _)

theorem mem_foldl_record {e : TableDef} {defs ds : List TableDef}
    (h : e ∈ defs.foldl (fun ds d => record d ds) ds) : e ∈ defs ∨ e ∈ ds := by
  induction defs generalizing ds with
  | nil => exact .inr h
  | cons d rest ih =>
    rcases ih h with h | h
    · exact .inl (List.mem_cons_of_mem _ h)
    · rcases mem_record h with rfl | h
      · exact .inl List.mem_cons_self
      · exact .inr h

/-- What is declared after a batch was in the batch or declared before. -/
theorem mem_declared_register {db : Database} {batch : String} {e : TableDef}
    (h : e ∈ (db.register batch).2.declared) :
    (∃ ds, Declaration.parseBatch batch = .ok ds ∧ e ∈ ds) ∨ e ∈ db.declared := by
  unfold register at h
  split at h
  · exact .inr h
  · next ds hds =>
    have hrecord : e ∈ ds.foldl (fun ds d => record d ds) db.declared →
        (∃ ds', Declaration.parseBatch batch = .ok ds' ∧ e ∈ ds') ∨ e ∈ db.declared :=
      fun h => (mem_foldl_record h).imp (fun h => ⟨ds, hds, h⟩) id
    split at h
    · exact hrecord h
    · split at h
      · exact hrecord h
      · exact .inr h

end Store.Database

namespace Host

namespace Operation

/-- No text that comes with a declaration begins or ends a transaction. -/
def DeclaresPlain : Operation → Prop
  | register batch => ∀ ds, Declaration.parseBatch batch = .ok ds → ∀ d ∈ ds, Store.Plain d.createSql
  | _ => True

/-- Whether the operation fails and the open transaction is lost with it. Opening drops the transaction in
any case. -/
def loses (db : Database) : Operation → Bool
  | .open _ => false
  | register batch => Store.loses (db.register batch).1
  | sql c text params => Store.loses (Action.runSql c db text params).1

/-- Whether the operation leaves a transaction open, if it turns that at all. -/
def turn? (db : Database) : Operation → Option Bool
  | .open _ => some false
  | register batch => losing (Store.loses (db.register batch).1)
  | sql _ text params => db.turn? text params

theorem launched_runSql (c : SqlCall) (db : Database) (text : String) (params : Value) :
    (Store.loses (Action.runSql c db text params).1, (Action.runSql c db text params).2) =
      db.launched text params := by
  cases c with
  | exec => exact db.launched_answer text params fun _ _ => rfl
  | query => exact db.launched_answer text params fun _ _ => rfl
  | fetchOne =>
    refine db.launched_answer text params fun names rows => ?_
    rcases rows with _ | ⟨r, _ | _⟩ <;> rfl
  | fetchOptional =>
    refine db.launched_answer text params fun names rows => ?_
    rcases rows with _ | ⟨r, _ | _⟩ <;> rfl
  | execute => exact db.launched_execute text params

/-- What a text leaves does not depend on what is asked about its rows. -/
theorem apply_sql (c : SqlCall) (db : Database) (text : String) (params : Value) :
    (sql c text params).apply db = (db.launched text params).2 :=
  congrArg Prod.snd (launched_runSql c db text params)

theorem loses_sql (c : SqlCall) (db : Database) (text : String) (params : Value) :
    (sql c text params).loses db = (db.launched text params).1 :=
  congrArg Prod.fst (launched_runSql c db text params)

theorem saved?_apply {op : Operation} {db : Database} (h : op.DeclaresPlain)
    (hdeclared : op.opens = true → ∀ d ∈ db.declared, Store.Plain d.createSql) :
    (op.apply db).saved? = backup (op.turn? db) db.saved? db.tables? := by
  cases op with
  | «open» path => exact db.saved?_opened path (hdeclared rfl)
  | register batch => exact (db.saved?_register h).trans (backup_losing _ _ _).symm
  | sql c text params =>
    rw [apply_sql]
    exact db.saved?_launched text params

theorem declared_apply {op : Operation} {db : Database} (h : op.DeclaresPlain)
    (hdeclared : ∀ d ∈ db.declared, Store.Plain d.createSql) :
    ∀ d ∈ (op.apply db).declared, Store.Plain d.createSql := by
  cases op with
  | «open» path =>
    intro d hd
    exact hdeclared d (db.declared_opened path ▸ hd)
  | register batch =>
    intro d hd
    rcases Database.mem_declared_register hd with ⟨ds, hds, hd⟩ | hd
    · exact h ds hds d hd
    · exact hdeclared d hd
  | sql c text params =>
    rw [apply_sql, Database.declared_launched]
    exact hdeclared

end Operation

namespace Performed

variable {β γ : Type} [Bridge β γ]

/-- Whether the call puts another store in the place of the present one. -/
def opens (p : Performed β γ) : Bool := p.operation?.any Operation.opens

/-- No text that comes with a declaration begins or ends a transaction. -/
def DeclaresPlain (p : Performed β γ) : Prop := ∀ op, p.operation? = some op → op.DeclaresPlain

/-- Whether the call fails and the open transaction is lost with it. -/
def loses (p : Performed β γ) : Bool := p.operation?.any fun op => op.loses p.state.database

/-- Whether the call leaves a transaction open, if it turns that at all. -/
def turn? (p : Performed β γ) : Option Bool := p.operation?.bind fun op => op.turn? p.state.database

/-- Whether a transaction is open after some calls: as the last one that turned it has left it. -/
def sheltered (start : Bool) (ps : List (Performed β γ)) : Bool :=
  (ps.filterMap turn?).getLast?.getD start

/-- What giving up brings back after some calls, by what it would have brought back before them. -/
def fallback (start : Option Tables) (ps : List (Performed β γ)) : Option Tables :=
  ps.foldl (fun saved p => backup p.turn? saved p.state.database.tables?) start

theorem sheltered_cons (start : Bool) (p : Performed β γ) (ps : List (Performed β γ)) :
    sheltered start (p :: ps) = sheltered (p.turn?.getD start) ps := by
  unfold sheltered
  cases ht : p.turn? with
  | none => rw [List.filterMap_cons_none ht, Option.getD_none]
  | some b =>
    rw [List.filterMap_cons_some ht, Option.getD_some, List.getLast?_cons]
    rfl

theorem tables?_of_turn {p : Performed β γ} (h : p.turn? = some true) :
    p.state.database.tables?.isSome := by
  unfold turn? at h
  cases hop : p.operation? with
  | none =>
    rw [hop] at h
    cases h
  | some op =>
    rw [hop, Option.bind_some] at h
    cases op with
    | «open» path => cases h
    | register batch => exact absurd h (losing_ne_some_true _)
    | sql c text params => exact Database.tables?_of_turn h

/-- Something is there to bring back just if the calls shelter. -/
theorem isSome_fallback (start : Option Tables) (ps : List (Performed β γ)) :
    (fallback start ps).isSome = sheltered start.isSome ps := by
  induction ps generalizing start with
  | nil => rfl
  | cons p rest ih =>
    have hrest := ih (backup p.turn? start p.state.database.tables?)
    rw [isSome_backup fun ht => tables?_of_turn ht] at hrest
    rw [sheltered_cons]
    exact hrest

/-- What one call does to the tables that giving up brings back. -/
theorem saved?_after {p : Performed β γ} (h : p.DeclaresPlain)
    (hdeclared : p.opens = true → ∀ d ∈ p.state.database.declared, Store.Plain d.createSql) :
    p.after.database.saved? =
      backup p.turn? p.state.database.saved? p.state.database.tables? := by
  rw [database_after]
  unfold turn?
  unfold opens at hdeclared
  cases hop : p.operation? with
  | none => rfl
  | some op =>
    rw [hop] at hdeclared
    exact Operation.saved?_apply (h op hop) hdeclared

theorem declared_after {p : Performed β γ} (h : p.DeclaresPlain)
    (hdeclared : ∀ d ∈ p.state.database.declared, Store.Plain d.createSql) :
    ∀ d ∈ p.after.database.declared, Store.Plain d.createSql := by
  rw [database_after]
  cases hop : p.operation? with
  | none => exact hdeclared
  | some op => exact Operation.declared_apply (h op hop) hdeclared

/-- What giving up brings back after a chain of calls is their fallback. -/
theorem Chained.saved?_eq {db last : Database} {ps : List (Performed β γ)} (h : Chained db ps last)
    (hplain : ∀ p ∈ ps, p.DeclaresPlain) (hdeclared : ∀ d ∈ db.declared, Store.Plain d.createSql) :
    last.saved? = fallback db.saved? ps := by
  induction ps generalizing db with
  | nil => rw [h]; rfl
  | cons p rest ih =>
    obtain ⟨hp, hrest⟩ := List.forall_mem_cons.mp hplain
    obtain ⟨rfl, hchained⟩ := h
    rw [ih hchained hrest (declared_after hp hdeclared), saved?_after hp fun _ => hdeclared]
    rfl

theorem Chained.split {db last : Database} {before after : List (Performed β γ)}
    {p : Performed β γ} (h : Chained db (before ++ p :: after) last) :
    Chained db before p.state.database := by
  induction before generalizing db with
  | nil => exact h.1
  | cons q before ih => exact ⟨h.1, ih h.2⟩

/-- A call in a chain finds a transaction open just if the calls before it shelter. -/
theorem Chained.inTransaction {db last : Database} {before after : List (Performed β γ)}
    {p : Performed β γ} (h : Chained db (before ++ p :: after) last)
    (hplain : ∀ q ∈ before, q.DeclaresPlain)
    (hdeclared : ∀ d ∈ db.declared, Store.Plain d.createSql) :
    p.state.database.inTransaction = sheltered db.inTransaction before := by
  rw [Database.inTransaction_eq, Database.inTransaction_eq, ← isSome_fallback,
    h.split.saved?_eq hplain hdeclared]

end Performed
end Host
end GuestHost
