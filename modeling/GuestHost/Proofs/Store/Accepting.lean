import GuestHost.Proofs.Store.PlainTypes
/-!
Declarations that the store accepts. A plain definition is read to its end, and no fault is found, if its table
has a name that is not kept for the store itself and columns with distinct names, some but not too many.
-/
namespace GuestHost.Store

open Token (quotedText)

/-- A plain definition with nothing in it that the store refuses. -/
structure TableDef.Regular (d : TableDef) : Prop extends d.Plain where
  unreserved : (Text.asciiLower d.name).startsWith "sqlite_" = false
  ne_nil : d.columns ≠ []
  room : d.columns.length ≤ maxColumns
  distinct : d.columns.Pairwise fun a b => Text.sameIgnoringCase a.name b.name = false

namespace Parser

variable {α δ : Type} {c c' : Cursor} {pre next rest : List Char}

/-- The reader gets through, and no fault waits behind. -/
def Passes (p : Parser α) (c : Cursor) : Prop := ∃ x c', p.run c = .ok (x, c') ∧ c'.fault = none

namespace Passes

theorem pure (hfault : c.fault = none) (x : α) : Passes (Pure.pure x) c := ⟨x, c, rfl, hfault⟩

theorem bind {p : Parser δ} {f : δ → Parser α} (hp : Passes p c)
    (hf : ∀ x c', p.run c = .ok (x, c') → c'.fault = none → Passes (f x) c') : Passes (p >>= f) c := by
  obtain ⟨x, c₁, hx, hfault⟩ := hp
  obtain ⟨y, c₂, hy, hfault'⟩ := hf x c₁ hx hfault
  refine ⟨y, c₂, ?_, hfault'⟩
  rw [StateT.run_bind, hx]
  exact hy

/-- A first step of which the outcome is known. -/
theorem step {p : Parser δ} {f : δ → Parser α} {x : δ} (hp : p.run c = .ok (x, c'))
    (hf : Passes (f x) c') : Passes (p >>= f) c := by
  obtain ⟨y, c₁, hy, hfault⟩ := hf
  refine ⟨y, c₁, ?_, hfault⟩
  rw [StateT.run_bind, hp]
  exact hy

theorem peek {f : Token → Parser α} (h : Passes (f c.token) c) : Passes (Parser.peek >>= f) c := h

theorem get {f : Cursor → Parser α} (h : Passes (f c) c) : Passes (MonadState.get >>= f) c := h

theorem take (hfault : c.fault = none) : Passes Parser.take c :=
  ⟨(), { c with tokens := c.tokens.tail }, by simp [Parser.take, hfault], hfault⟩

end Passes

theorem name_run_of_name? {n : String} (h : c.token.name? = some n) (hfault : c.fault = none) :
    name.run c = .ok (n, { c with tokens := c.tokens.tail }) := by
  simp [name, peek, take, h, hfault]

theorem symbol?_run_of_true {s : String} (h : c.token.isSymbol s = true) (hfault : c.fault = none) :
    (symbol? s).run c = .ok (true, { c with tokens := c.tokens.tail }) := by
  simp [symbol?, atSymbol, take, h, hfault]

/-! ## Columns -/

theorem passes_typeWords (stop fuel : Nat) (hfault : c.fault = none) : Passes (typeWords stop fuel) c := by
  induction fuel generalizing c stop with
  | zero => exact .pure hfault stop
  | succ fuel ih =>
    rw [typeWords]
    refine .peek ?_
    cases c.token.freeName? with
    | none => exact .pure hfault stop
    | some _ => exact (Passes.take hfault).bind fun _ c₁ _ hfault₁ => ih _ hfault₁

theorem passes_columnType {ts : List Char} (hts : TypeWords ts) (hnext : EndsColumn next)
    (hat : c.At pre (ts ++ next)) (hfault : c.fault = none) : Passes columnType c := by
  have hfuel : ts.length ≤ c.bound := by
    have hbound := hat.length_le_bound
    rw [List.length_append] at hbound
    omega
  rw [columnType]
  refine .peek ?_
  split
  · exact .pure hfault _
  · refine .get ((passes_typeWords _ _ hfault).bind fun stop c₁ hwords hfault₁ => ?_)
    obtain ⟨-, hat₁⟩ := typeWords_run hts hnext hat hfuel hwords
    exact .step (symbol?_run_of_false (hnext.not_open hat₁)) ⟨_, _, rfl, hfault₁⟩

theorem passes_constraints (hnext : EndsColumn next) (hat : c.At pre next) (hfault : c.fault = none)
    (defining : Option String) (keyed : Bool) (fuel : Nat) (spec : ColumnSpec) :
    Passes (constraints defining keyed fuel spec) c := by
  have hother : ∀ word, (keyword? word).run c = .ok (false, c) :=
    fun word => keyword?_run_of_false (hnext.not_keyword hat word)
  cases fuel with
  | zero => exact .pure hfault spec
  | succ fuel =>
    have hnone : (constraint? spec.name defining.isSome).run c = .ok (none, c) := by
      simp [constraint?, hother]
    rw [constraints]
    exact .step (hother _) (.step hnone (.pure hfault spec))

theorem passes_columnSpec {d : ColumnDef} (hd : d.Plain) (hnext : EndsColumn next) (table : String)
    {earlier : List ColumnSpec} (hroom : earlier.length < maxColumns)
    (hnew : ∀ a ∈ earlier, Text.sameIgnoringCase a.name d.name = false) (hat : c.At pre (d.text ++ next))
    (hfault : c.fault = none) : Passes (columnSpec (some table) earlier) c := by
  obtain ⟨hname, hat₁⟩ := at_type hd hat
  have hfresh : ¬(earlier.any fun a => Text.sameIgnoringCase a.name d.name) = true := by
    rw [List.any_eq_true]
    rintro ⟨a, ha, hsame⟩
    rw [hnew a ha] at hsame
    cases hsame
  rw [columnSpec]
  refine .step (name_run_of_name? hname hfault) ?_
  refine (passes_columnType hd.type hnext hat₁ hfault).bind fun type c₂ htype hfault₂ => ?_
  obtain ⟨-, hat₂⟩ := columnType_run hd.type hnext hat₁ htype
  simp only [if_neg (Nat.not_le_of_lt hroom), if_neg hfresh]
  exact .get (passes_constraints hnext hat₂ hfault₂ _ _ _ _)

theorem passes_columnSpecs {ds : List ColumnDef} (hne : ds ≠ []) (hds : ∀ d ∈ ds, d.Plain) (table : String)
    {fuel : Nat} {earlier : List ColumnSpec} (hfuel : ds.length ≤ fuel)
    (hroom : earlier.length + ds.length ≤ maxColumns)
    (hnew : ∀ a ∈ earlier, ∀ d ∈ ds, Text.sameIgnoringCase a.name d.name = false)
    (hdistinct : ds.Pairwise fun a b => Text.sameIgnoringCase a.name b.name = false)
    (hat : c.At pre (columnsText ds ++ ')' :: rest)) (hfault : c.fault = none) :
    Passes (columnSpecs (some table) fuel earlier) c := by
  induction ds generalizing c pre fuel earlier with
  | nil => exact absurd rfl hne
  | cons d ds ih =>
    obtain ⟨hd, hmore⟩ := List.forall_mem_cons.mp hds
    obtain ⟨hfirst, hlater⟩ := List.pairwise_cons.mp hdistinct
    have hfresh : ∀ a ∈ earlier, Text.sameIgnoringCase a.name d.name = false :=
      fun a ha => hnew a ha d List.mem_cons_self
    rw [List.length_cons] at hfuel hroom
    cases fuel with
    | zero => cases hfuel
    | succ fuel =>
      rw [columnSpecs]
      cases ds with
      | nil =>
        have hclose : EndsColumn (')' :: rest) := ⟨_, _, rfl, by simp⟩
        have hsingle : columnsText [d] = d.text := List.intercalate_singleton
        rw [hsingle] at hat
        refine (passes_columnSpec hd hclose table (by omega) hfresh hat hfault).bind fun s c₁ hs hfault₁ => ?_
        obtain ⟨-, hat₁⟩ := columnSpec_run_plain hd hclose hat hs
        have hend : c₁.token.isSymbol "," = false := by
          rw [hat₁.symbol_token (by simp)]
          exact show (")" == ",") = false by decide
        exact .step (symbol?_run_of_false hend) (.pure hfault₁ _)
      | cons e ds =>
        have hother : EndsColumn (',' :: ' ' :: (columnsText (e :: ds) ++ ')' :: rest)) :=
          ⟨_, _, rfl, by simp⟩
        rw [columnsText_cons_cons, List.append_assoc, List.cons_append, List.cons_append] at hat
        refine (passes_columnSpec hd hother table (by omega) hfresh hat hfault).bind fun s c₁ hs hfault₁ => ?_
        obtain ⟨rfl, hat₁⟩ := columnSpec_run_plain hd hother hat hs
        have hcomma : c₁.token.isSymbol "," = true := by
          rw [hat₁.symbol_token (by simp)]
          exact show ("," == ",") = true by decide
        have hnew' : ∀ a ∈ d.spec :: earlier, ∀ d ∈ e :: ds, Text.sameIgnoringCase a.name d.name = false :=
          List.forall_mem_cons.mpr ⟨hfirst, fun a ha b hb => hnew a ha b (List.mem_cons_of_mem d hb)⟩
        refine .step (symbol?_run_of_true hcomma hfault₁) ?_
        exact ih (by simp) hmore (by omega) (by rw [List.length_cons]; omega) hnew' hlater
          (at_next_column hat₁) hfault₁

/-! ## Tables -/

theorem length_le_columnsText (ds : List ColumnDef) : ds.length ≤ (columnsText ds).length := by
  induction ds with
  | nil => exact Nat.zero_le _
  | cons d ds ih =>
    cases ds with
    | nil =>
      obtain ⟨r, hhead⟩ := columnsText_head d []
      rw [hhead]
      exact Nat.succ_le_succ (Nat.zero_le _)
    | cons e ds =>
      rw [columnsText_cons_cons, List.length_append, List.length_cons, List.length_cons]
      simp only [List.length_cons] at ih ⊢
      omega

theorem passes_bracketed {d : TableDef} (hd : d.Regular)
    (hat : c.At pre ('(' :: (columnsText d.columns ++ [')']))) (hfault : c.fault = none) :
    Passes (bracketed (do columnSpecs (some d.name) (← MonadState.get).bound [])) c := by
  have hopen : c.token.isSymbol "(" = true := by
    rw [hat.symbol_token (by simp)]
    exact show ("(" == "(") = true by decide
  have hat₁ := hat.symbol_tail (by simp)
  have hfuel : d.columns.length ≤ Cursor.bound { c with tokens := c.tokens.tail } := by
    have hbound := hat₁.length_le_bound
    have hcolumns := length_le_columnsText d.columns
    rw [List.length_append] at hbound
    omega
  have hcolumns : Passes (do columnSpecs (some d.name) (← MonadState.get).bound [])
      { c with tokens := c.tokens.tail } :=
    .get (passes_columnSpecs hd.ne_nil hd.columns d.name hfuel (by simpa using hd.room) nofun
      hd.distinct hat₁ hfault)
  rw [bracketed]
  refine .step (symbol_run hopen hfault) (hcolumns.bind fun specs c₂ hspecs hfault₂ => ?_)
  have hspecs : (columnSpecs (some d.name) (Cursor.bound { c with tokens := c.tokens.tail }) []).run
      { c with tokens := c.tokens.tail } = .ok (specs, c₂) := hspecs
  obtain ⟨-, hat₂⟩ := columnSpecs_run_plain hd.columns hat₁ hspecs
  have hclose : c₂.token.isSymbol ")" = true := by
    rw [hat₂.symbol_token (by simp)]
    exact show (")" == ")") = true by decide
  exact .step (symbol_run hclose hfault₂) ⟨specs, _, rfl, hfault₂⟩

theorem passes_createTable {d : TableDef} (hd : d.Regular) {taken : String → Bool}
    (hnew : taken d.name = false) (hat : c.At pre d.text) (hfault : c.fault = none) :
    Passes (createTable taken) c := by
  obtain ⟨htable, hat₁⟩ := at_table hat
  obtain ⟨hif, hname, hat₂⟩ := at_columns hat₁
  have hfree : ∀ raw place, tableFault? taken false d.name raw place = none := by
    intro raw place
    simp [tableFault?, hd.unreserved, hnew]
  rw [createTable]
  refine .step (keyword_run htable hfault) (.step (keyword?_run_of_false hif) ?_)
  rw [if_neg Bool.false_ne_true]
  refine .peek (.step (name_run_of_name? hname hfault) (.get ?_))
  simp only [hfree, hnew, Bool.false_eq_true, if_false]
  refine .step rfl ?_
  refine (passes_bracketed hd hat₂ hfault).bind fun columns c₃ hcolumns hfault₃ => ?_
  obtain ⟨-, hat₃⟩ := bracketed_run_plain hd.columns hat₂ hcolumns
  refine .peek ?_
  rw [hat₃.token_nil]
  exact .pure hfault₃ _

theorem passes_finish (hat : c.At pre []) (hfault : c.fault = none) : Passes finish c := by
  rw [finish]
  refine .peek ?_
  rw [hat.token_nil]
  exact (Passes.take hfault).bind fun _ c₁ _ hfault₁ => ⟨_, _, rfl, hfault₁⟩

end Parser

namespace TableDef

variable {d : TableDef}

/-- The text of a regular definition is read whole, as the definition of a table with just the declared
columns. -/
theorem Regular.parse_createSql (hd : d.Regular) (taken : String → Bool) (hnew : taken d.name = false) :
    ∃ r, Statement.parse taken d.createSql = .ok r ∧ r.rest = "" ∧
      r.statement = .createTable d.name false (d.columns.map ColumnDef.spec) := by
  obtain ⟨hkind, pre, hat⟩ := hd.at_definition
  have hfault : (Cursor.ofText d.createSql).fault = none := rfl
  unfold Statement.parse
  generalize Cursor.ofText d.createSql = c at *
  have hcreate : c.token.isKeyword "CREATE" = true := by
    rw [Token.isKeyword, hkind]
    decide
  obtain ⟨htable, hat₁⟩ := Parser.at_table hat
  obtain ⟨hif, -, -⟩ := Parser.at_columns hat₁
  obtain ⟨s, c₁, hs, hfault₁⟩ := Parser.passes_createTable hd hnew hat hfault
  obtain ⟨-, -, -, -, hfree⟩ := Parser.createTable_run htable hif hfault hs
  obtain ⟨rfl, hat₂⟩ := Parser.createTable_run_plain hd.columns hat hfree
  obtain ⟨left, c₂, hleft, -⟩ := Parser.passes_finish hat₂ hfault₁
  obtain rfl := Parser.finish_run_end hat₂ hleft
  have hstatement := Parser.statement_run_create taken hcreate hfault
  refine ⟨⟨.createTable d.name false (d.columns.map ColumnDef.spec), c₂.params, ""⟩, ?_, rfl, rfl⟩
  simp only [hkind, StateT.run_bind, hstatement, hs, hleft, Except.ok_bind]
  rfl

end TableDef
end GuestHost.Store
