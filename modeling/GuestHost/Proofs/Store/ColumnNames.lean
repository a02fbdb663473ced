import GuestHost.Proofs.Store.Creating
/-!
No two columns of a table that is created have one name, letter case aside. A name that comes a second time is
a fault; a fault waits for the next token, and a waiting fault lets nothing pass, so no definition with one is
read to its end.
-/
namespace GuestHost.Store

/-- No two columns have one name, letter case aside. -/
def DistinctNames (specs : List ColumnSpec) : Prop :=
  specs.Pairwise fun a b => Text.sameIgnoringCase a.name b.name = false

/-- The table that a statement creates, with its columns. -/
def Statement.created? : Statement → Option (String × List ColumnSpec)
  | .createTable name _ columns => some (name, columns)
  | _ => none

/-- If the statement creates a table that is not there yet, the names of its columns are distinct. -/
def Statement.Distinct (taken : String → Bool) (s : Statement) : Prop :=
  ∀ name columns, s.created? = some (name, columns) → taken name = false → DistinctNames columns

namespace Parser

variable {α δ : Type} {c c' : Cursor} {e : SqlError}

theorem Yields.ite {P : α → Prop} {b : Bool} {x y : Parser α} (hx : Yields P x) (hy : Yields P y) :
    Yields P (if b then x else y) := by
  cases b with
  | true => exact hx
  | false => exact hy

theorem Yields.fail {P : α → Prop} : Yields P Parser.fail := fun _ _ _ => nofun

/-! ## Places that no word can pass -/

/-- Here no word can be passed over. -/
def Wordless (c : Cursor) : Prop :=
  ∀ word b c', (keyword? word).run c = .ok (b, c') → b = false ∧ c' = c

theorem wordless_of_token (htoken : ∀ word, c.token.isKeyword word = false) : Wordless c := by
  intro word b c' h
  rw [keyword?_run_of_false (htoken word)] at h
  cases h
  exact ⟨rfl, rfl⟩

/-- Where a word may stand and none can, there is only the way on without it. -/
theorem Wordless.run {word : String} {a b : Parser α} {x : α} (hc : Wordless c)
    (h : (do if ← keyword? word then a else b : Parser α).run c = .ok (x, c')) :
    b.run c = .ok (x, c') := by
  rw [StateT.run_bind, Except.bind_eq_ok_iff] at h
  obtain ⟨⟨here, c₁⟩, hhere, h⟩ := h
  obtain ⟨rfl, rfl⟩ := hc word here c₁ hhere
  exact h

theorem Wordless.constraint? {column : String} {defining : Bool} {k : Option Constraint}
    (hc : Wordless c) (h : (constraint? column defining).run c = .ok (k, c')) : k = none ∧ c' = c := by
  have hprimary := hc.run h
  have hnot := hc.run hprimary
  have hnull := hc.run hnot
  have hunique := hc.run hnull
  have hdefault := hc.run hunique
  cases hdefault
  exact ⟨rfl, rfl⟩

theorem Wordless.constraints {defining : Option String} {keyed : Bool} {fuel : Nat}
    {spec s : ColumnSpec} (hc : Wordless c)
    (h : (constraints defining keyed fuel spec).run c = .ok (s, c')) : s = spec ∧ c' = c := by
  cases fuel with
  | zero =>
    cases h
    exact ⟨rfl, rfl⟩
  | succ fuel =>
    rw [Parser.constraints] at h
    replace h := hc.run h
    rw [StateT.run_bind, Except.bind_eq_ok_iff] at h
    obtain ⟨⟨k, c₁⟩, hk, h⟩ := h
    obtain ⟨rfl, rfl⟩ := hc.constraint? hk
    cases h
    exact ⟨rfl, rfl⟩

theorem symbol?_run_of_false {s : String} (h : c.token.isSymbol s = false) :
    (symbol? s).run c = .ok (false, c) := by
  simp [symbol?, atSymbol, h]

theorem constraints_name (defining : Option String) (keyed : Bool) (fuel : Nat) (spec : ColumnSpec) :
    Yields (fun s => s.name = spec.name) (constraints defining keyed fuel spec) := by
  induction fuel generalizing keyed spec with
  | zero => exact Yields.pure rfl
  | succ fuel ih =>
    rw [constraints]
    refine Yields.bind fun named => ?_
    split
    · exact Yields.bind fun _ => ih keyed spec
    · refine Yields.bind fun k => ?_
      split
      · exact Yields.pure rfl
      · exact Yields.bind fun _ => ih _ _

end Parser

end GuestHost.Store
