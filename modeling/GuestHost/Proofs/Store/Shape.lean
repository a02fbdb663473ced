import GuestHost.Proofs.Store.Declaring
/-!
The names and columns of the tables in a store. Statements that insert, change, delete or ask for rows leave
them as they are; only creating a table adds to them.
-/
namespace GuestHost

namespace Text

theorem sameIgnoringCase_iff {s t : String} : sameIgnoringCase s t = true ↔
    s.utf8ByteSize = t.utf8ByteSize ∧ s.toList.map Char.toLower = t.toList.map Char.toLower := by
  rw [sameIgnoringCase, Bool.and_eq_true, beq_iff_eq, beq_iff_eq]

theorem sameIgnoringCase_refl (s : String) : sameIgnoringCase s s = true :=
  sameIgnoringCase_iff.mpr ⟨rfl, rfl⟩

theorem sameIgnoringCase_trans {s t u : String} (h : sameIgnoringCase s t = true)
    (h' : sameIgnoringCase t u = true) : sameIgnoringCase s u = true := by
  obtain ⟨hsize, hletters⟩ := sameIgnoringCase_iff.mp h
  obtain ⟨hsize', hletters'⟩ := sameIgnoringCase_iff.mp h'
  exact sameIgnoringCase_iff.mpr ⟨hsize.trans hsize', hletters.trans hletters'⟩

end Text

namespace Store

namespace Tables

/-- What a store says of its tables without their rows. -/
def shape (ts : Tables) : List (String × List Column) := ts.map fun t => (t.name, t.columns)

theorem find?_shape (ts : Tables) (name : String) :
    (ts.find? name).map (fun t => (t.name, t.columns)) =
      ts.shape.find? fun p => Text.sameIgnoringCase p.1 name := by
  rw [shape, List.find?_map]
  rfl

/-- Every table is still there, with the same columns. -/
def Extends (ts ts' : Tables) : Prop :=
  ∀ name t, ts.find? name = some t → ∃ t', ts'.find? name = some t' ∧ t'.columns = t.columns

theorem Extends.refl (ts : Tables) : Extends ts ts := fun _ t ht => ⟨t, ht, rfl⟩

theorem Extends.trans {ts ts' ts'' : Tables} (h : Extends ts ts') (h' : Extends ts' ts'') :
    Extends ts ts'' := by
  intro name t ht
  obtain ⟨t', ht', hcolumns⟩ := h name t ht
  obtain ⟨t'', ht'', hcolumns'⟩ := h' name t' ht'
  exact ⟨t'', ht'', hcolumns'.trans hcolumns⟩

theorem Extends.of_shape {ts ts' : Tables} (h : ts'.shape = ts.shape) : Extends ts ts' := by
  intro name t ht
  have hfind := find?_shape ts' name
  rw [h, ← find?_shape, ht, Option.map_some, Option.map_eq_some_iff] at hfind
  obtain ⟨t', ht', heq⟩ := hfind
  exact ⟨t', ht', (Prod.mk.inj heq).2⟩

theorem Extends.append (ts new : Tables) : Extends ts (ts ++ new) := by
  intro name t ht
  refine ⟨t, ?_, rfl⟩
  rw [find?, List.find?_append]
  rw [find?] at ht
  rw [ht, Option.some_or]

/-- A table takes the place of the one that is found under its name. -/
theorem shape_put {ts : Tables} {name : String} {s t : Table} (hs : ts.find? name = some s)
    (hname : t.name = s.name) (hcolumns : t.columns = s.columns) : (ts.put t).shape = ts.shape := by
  induction ts with
  | nil => cases hs
  | cons first rest ih =>
    have hsname : Text.sameIgnoringCase s.name name = true := by
      simpa using List.find?_some (p := fun t : Table => Text.sameIgnoringCase t.name name) hs
    rw [find?, List.find?_cons] at hs
    rw [put]
    cases hfirst : Text.sameIgnoringCase first.name name with
    | true =>
      rw [hfirst] at hs
      cases hs
      rw [hname, if_pos (Text.sameIgnoringCase_refl _), shape, shape, List.map_cons, List.map_cons, hname,
        hcolumns]
    | false =>
      rw [hfirst] at hs
      have hother : ¬Text.sameIgnoringCase first.name t.name = true := by
        intro h
        rw [hname] at h
        rw [Text.sameIgnoringCase_trans h hsname] at hfirst
        cases hfirst
      rw [if_neg hother, shape, shape, List.map_cons, List.map_cons]
      exact congrArg _ (ih hs)

end Tables

namespace Table

variable {t t' : Table}

/-- The same table, rows aside. -/
def Alike (t t' : Table) : Prop := t'.name = t.name ∧ t'.columns = t.columns

theorem Alike.refl (t : Table) : Alike t t := ⟨rfl, rfl⟩

theorem Alike.trans {t'' : Table} (h : Alike t t') (h' : Alike t' t'') : Alike t t'' :=
  ⟨h'.1.trans h.1, h'.2.trans h.2⟩

theorem alike_insert (t : Table) (number : Datum) (data : List Datum) :
    Except.Yields (Alike t) (t.insert number data) := by
  have hrow : ∀ rows last, Alike t { t with rows := rows, lastNumber := last } := fun _ _ => ⟨rfl, rfl⟩
  simp only [insert]
  repeat' with_reducible first
    | exact Except.Yields.pure (hrow _ _)
    | exact Except.Yields.throw _
    | refine Except.Yields.bind fun _ => ?_
    | split

theorem alike_replace (t : Table) (old : Row) (number : Option Datum) (data : List Datum) :
    Except.Yields (Alike t) (t.replace old number data) := by
  have hrows : ∀ rows, Alike t { t with rows := rows } := fun _ => ⟨rfl, rfl⟩
  simp only [replace]
  repeat' with_reducible first
    | exact Except.Yields.pure (hrows _)
    | exact Except.Yields.throw _
    | refine Except.Yields.bind fun _ => ?_
    | split

/-- What each step keeps, a fold over the steps keeps. -/
theorem alike_foldlM {α : Type} {f : Table → α → Except SqlError Table} {xs : List α}
    (hf : ∀ t x, Except.Yields (Alike t) (f t x)) (h : xs.foldlM f t = .ok t') : Alike t t' := by
  induction xs generalizing t with
  | nil =>
    cases h
    exact .refl _
  | cons x rest ih =>
    rw [List.foldlM_cons, Except.bind_eq_ok_iff] at h
    obtain ⟨t₁, hx, h⟩ := h
    exact (hf t x t₁ hx).trans (ih h)

end Table

/-- Statements that leave the tables in a store what they are, rows aside. -/
def Statement.rowLevel : Statement → Bool
  | .empty => true
  | .insert _ _ _ => true
  | .select _ => true
  | .update _ _ _ => true
  | .delete _ _ => true
  | _ => false

/-- Whatever is read as the first statement of the text is about rows only. -/
def RowLevel (sql : String) : Prop :=
  ∀ taken r, Statement.parse taken sql = .ok r → r.statement.rowLevel = true

def Plan.rowLevel : Plan → Bool
  | .nothing => true
  | .query _ _ => true
  | .insert _ _ => true
  | .update _ _ _ => true
  | .delete _ _ => true
  | _ => false

theorem Plan.rowLevel_ofStatement {sql : String} {tables : Tables} {s : Statement} {p : Plan}
    (hs : s.rowLevel = true) (h : ofStatement sql tables s = .ok p) : p.rowLevel = true := by
  have hyields : Except.Yields (fun p => p.rowLevel = true) (ofStatement sql tables s) := by
    cases s with
    | createTable _ _ _ | dropTable _ _ | begin | commit | rollback => cases hs
    | _ =>
      simp only [ofStatement, insertion, selection, change, deletion]
      repeat' with_reducible first
        | exact Except.Yields.ok rfl
        | exact Except.Yields.error _
        | exact Except.Yields.pure rfl
        | exact Except.Yields.throw _
        | refine Except.Yields.bind fun _ => ?_
        | split
  exact hyields p h

theorem rowLevel_prepare {tables : Tables} {sql : String} {p : Prepared} (hsql : RowLevel sql)
    (h : prepare tables sql = .ok p) : p.plan.rowLevel = true := by
  unfold prepare at h
  simp only [Except.bind_eq_ok_iff] at h
  obtain ⟨r, hr, plan, hplan, h⟩ := h
  cases h
  exact Plan.rowLevel_ofStatement (hsql _ r hr) hplan

namespace Connection

variable {c : Connection}

theorem wantTable_eq_ok {tables : Tables} {name : String} {t : Table}
    (h : Plan.wantTable tables name = .ok t) : tables.find? name = some t := by
  unfold Plan.wantTable at h
  split at h
  · next hfind =>
    cases h
    exact hfind
  · cases h

/-- What a statement about rows leaves of the tables: those from before the open transaction if that is
lost, and otherwise the same ones, rows aside. -/
def RowsOnly (c : Connection) (r : Except Failure (List Row) × Connection) : Prop :=
  if loses (r.1.mapError .sql) then r.2.tables = c.committed else r.2.tables.shape = c.tables.shape

theorem RowsOnly.failed {f : Failure} {c' : Connection} (h : c'.tables = (c.fail f).tables) :
    RowsOnly c (.error f, c') := by
  have hloses : loses ((Except.error f : Except Failure (List Row)).mapError .sql) = f.lost := rfl
  unfold RowsOnly
  rw [hloses]
  unfold fail at h
  split
  · next hlost =>
    rw [if_pos hlost] at h
    exact h
  · next hlost =>
    rw [if_neg hlost] at h
    exact congrArg Tables.shape h

/-- Writing a table back that is the same but for its rows. -/
theorem rowsOnly_write (failure : SqlError → Failure) (name : String)
    {result : Except SqlError (Table × Nat)}
    (h : ∀ t n, result = .ok (t, n) → ∃ s, c.tables.find? name = some s ∧ s.Alike t) :
    RowsOnly c (c.write failure result) := by
  cases hresult : result with
  | error e => exact .failed rfl
  | ok written =>
    obtain ⟨t, n⟩ := written
    obtain ⟨s, hs, hname, hcolumns⟩ := h t n hresult
    exact Tables.shape_put hs hname hcolumns

theorem rowsOnly_run (c : Connection) (params : List Datum) {p : Plan} (h : p.rowLevel = true) :
    RowsOnly c (c.run params p) := by
  cases p with
  | nothing => exact .failed rfl
  | query q names => exact rfl
  | insert name rows =>
    refine rowsOnly_write _ name fun t n ht => ?_
    simp only [Except.bind_eq_ok_iff, Except.pure_eq_ok_iff] at ht
    obtain ⟨s, hs, t', ht', heq⟩ := ht
    cases heq
    exact ⟨s, wantTable_eq_ok hs, Table.alike_foldlM (fun t _ => t.alike_insert _ _) ht'⟩
  | update name sets tests =>
    refine rowsOnly_write _ name fun t n ht => ?_
    simp only [Except.bind_eq_ok_iff, Except.pure_eq_ok_iff] at ht
    obtain ⟨s, hs, t', ht', heq⟩ := ht
    cases heq
    exact ⟨s, wantTable_eq_ok hs, Table.alike_foldlM (fun t _ => t.alike_replace _ _ _) ht'⟩
  | delete name tests =>
    refine rowsOnly_write _ name fun t n ht => ?_
    simp only [Except.bind_eq_ok_iff, Except.pure_eq_ok_iff] at ht
    obtain ⟨s, hs, heq⟩ := ht
    cases heq
    exact ⟨s, wantTable_eq_ok hs, .refl s⟩
  | _ => cases h

/-- A statement about rows leaves the names and columns of all tables, or the open transaction is lost. -/
theorem rowsOnly_attempt (c : Connection) (mishap : Option Failure) (params : List Datum) {p : Plan}
    (h : p.rowLevel = true) : RowsOnly c (c.attempt mishap params p) := by
  unfold attempt
  cases mishap with
  | none => exact c.rowsOnly_run params h
  | some f =>
    by_cases hneeds : c.needsStorage p = true
    · simp only [if_pos hneeds]
      refine .failed ?_
      cases p <;> rfl
    · simp only [if_neg hneeds]
      exact c.rowsOnly_run params h

/-- A plan about rows turns no transaction but by losing it. -/
theorem turned?_of_rowLevel {p : Plan} (h : p.rowLevel = true) (r : Except StoreError (List Row)) :
    p.turned? r = losing (loses r) := by
  cases r with
  | error e => rfl
  | ok rows => cases p <;> first | rfl | cases h

end Connection

end Store
end GuestHost
