import GuestHost.Proofs.Store.Accepting
/-!
Names in the texts that the store is given. Whatever quotes a name has in it, a reader finds its end just where
it was closed, so it is read back as it is and takes nothing of what follows. Only a null character, which ends
every text, breaks a name off, and then no name is read.
-/
namespace GuestHost.Store

namespace Token

/-- A name in double quotes at the start of a text: the name, and what stands behind its closing quote. -/
def scanName : List Char → Option (List Char × List Char)
  | '"' :: cs => scanQuoted '"' cs
  | _ => none

theorem scanName_quoteName (name : String) {rest : List Char} (hrest : rest.head? ≠ some '"') :
    scanName ((quoteName name).toList ++ rest) = some (name.toList, rest) := by
  rw [toList_quoteName, quotedText, List.cons_append, List.append_assoc, List.singleton_append]
  exact scanQuoted_doubled name.toList hrest

theorem scanOne_quoteName (name : String) {rest : List Char} (hrest : rest.head? ≠ some '"') :
    scanOne ((quoteName name).toList ++ rest) = (.quoted name .double, (quoteName name).toList.length) := by
  rw [toList_quoteName, (piece_quotedText name.toList).taken hrest, String.ofList_toList]

theorem visible_quoteName (name : String) (rest : List Char) : visible ((quoteName name).toList ++ rest) =
    '"' :: visible (doubled name.toList ++ '"' :: rest) := by
  rw [toList_quoteName, quotedText, List.cons_append, List.append_assoc, List.singleton_append]
  rfl

theorem head?_visible_ne {cs : List Char} {c : Char} (h : cs.head? ≠ some c) :
    (visible cs).head? ≠ some c := by
  cases cs with
  | nil => exact h
  | cons d r =>
    rw [visible, List.takeWhile_cons]
    split
    · exact h
    · simp

/-- Behind a null character the closing quote is not found. -/
theorem scanQuoted_eq_none {name : List Char} (h : '\x00' ∈ name) (rest : List Char) :
    scanQuoted '"' (visible (doubled name ++ rest)) = none := by
  induction name with
  | nil => cases h
  | cons c cs ih =>
    have hcons : doubled (c :: cs) = (if c = '"' then ['"', '"'] else [c]) ++ doubled cs := rfl
    rw [hcons, List.append_assoc]
    by_cases hnull : c = '\x00'
    · subst hnull
      rfl
    · have hcs : '\x00' ∈ cs := (List.mem_cons.mp h).resolve_left fun heq => hnull heq.symm
      by_cases hquote : c = '"'
      · subst hquote
        rw [if_pos rfl, visible_append (by decide)]
        simp [scanQuoted, ih hcs]
      · have hone : '\x00' ∉ [c] := fun hmem => hnull (List.mem_singleton.mp hmem).symm
        rw [if_neg hquote, visible_append hone, List.singleton_append, scanQuoted_cons_of_ne hquote, ih hcs]
        rfl

end Token

/-- Names that are quoted alike are the same. -/
theorem quoteName_injective : Function.Injective quoteName := by
  intro name name' h
  have hscan : ∀ name, Token.scanName ((quoteName name).toList ++ []) = some (name.toList, []) :=
    fun name => Token.scanName_quoteName name (by simp)
  have hsame := hscan name
  rw [h, hscan, Option.some.injEq, Prod.mk.injEq] at hsame
  exact (String.toList_inj.mp hsame.1).symm

/-! ## Readers that have come to a name -/

/-- No fault waits, and what is left to read are the tokens of some characters, as far as no null character
ends them. -/
structure Cursor.Faces (c : Cursor) (cs : List Char) : Prop where
  fault : c.fault = none
  tokens : ∃ fuel start, (Token.visible cs).length < fuel ∧ c.tokens = Token.scan fuel start (Token.visible cs)

namespace Cursor.Faces

variable {c : Cursor} {name : String} {rest : List Char}

theorem of_scan (sql : String) {cs : List Char} {fuel : Nat} (start : Nat)
    (h : (Token.visible cs).length < fuel) :
    Cursor.Faces { sql := sql, tokens := Token.scan fuel start (Token.visible cs) } cs :=
  ⟨rfl, fuel, start, h, rfl⟩

theorem tokens_succ {cs : List Char} (h : c.Faces cs) : ∃ fuel start, (Token.visible cs).length ≤ fuel ∧
    c.tokens = Token.scan (fuel + 1) start (Token.visible cs) := by
  obtain ⟨fuel, start, hfuel, htokens⟩ := h.tokens
  cases fuel with
  | zero => cases hfuel
  | succ fuel => exact ⟨fuel, start, Nat.le_of_lt_succ hfuel, htokens⟩

theorem of_scan_name (sql : String) {fuel : Nat} (start : Nat)
    (h : (Token.visible (Token.doubled name.toList ++ '"' :: rest)).length < fuel) :
    Cursor.Faces ⟨sql, Token.scan (fuel + 1) start ('"' :: Token.visible (Token.doubled name.toList ++ '"' :: rest)),
      0, [], none⟩ ((quoteName name).toList ++ rest) := by
  have hlength : (Token.visible ((quoteName name).toList ++ rest)).length < fuel + 1 := by
    rw [Token.visible_quoteName]
    exact Nat.succ_lt_succ h
  rw [← Token.visible_quoteName]
  exact of_scan sql start hlength

/-- A name without a null character is the next token, and behind it there is what follows. -/
theorem token_quoted (h : c.Faces ((quoteName name).toList ++ rest)) (hrest : rest.head? ≠ some '"')
    (hnull : '\x00' ∉ name.toList) :
    c.token.kind = .quoted name .double ∧ Cursor.Faces { c with tokens := c.tokens.tail } rest := by
  obtain ⟨fuel, start, hfuel, htokens⟩ := h.tokens_succ
  have hpiece := Token.piece_quotedText name.toList
  have hends := Token.head?_visible_ne hrest
  have hlength : 0 < (Token.quotedText name.toList).length := Nat.succ_pos _
  rw [Token.toList_quoteName, Token.visible_append (null_notMem_quotedText hnull)] at hfuel htokens
  rw [Token.scan_piece hpiece.ne_nil (hpiece.visible hends) (hpiece.taken hends)] at htokens
  rw [List.length_append] at hfuel
  refine ⟨?_, h.fault, fuel, _, by omega, by rw [htokens, List.tail_cons]⟩
  rw [Cursor.token, htokens, String.ofList_toList]
  rfl

/-- A name with a null character leaves a token that is no name. -/
theorem token_broken (h : c.Faces ((quoteName name).toList ++ rest)) (hnull : '\x00' ∈ name.toList) :
    c.token.kind = .illegal := by
  obtain ⟨fuel, start, -, htokens⟩ := h.tokens_succ
  rw [Token.visible_quoteName] at htokens
  obtain ⟨t, more, hscan, hkind⟩ :=
    Token.scan_quote fuel start (Token.visible (Token.doubled name.toList ++ '"' :: rest))
  rw [Token.scanQuoted_eq_none hnull] at hkind
  rw [Cursor.token, htokens, hscan]
  exact hkind

/-- A name is no word of the language. -/
theorem not_keyword (h : c.Faces ((quoteName name).toList ++ rest)) (hrest : rest.head? ≠ some '"')
    (word : String) : c.token.isKeyword word = false := by
  by_cases hnull : '\x00' ∈ name.toList
  · rw [Token.isKeyword, h.token_broken hnull]
  · rw [Token.isKeyword, (h.token_quoted hrest hnull).1]

/-- In front of a blank and an opening bracket. -/
theorem token_open (h : c.Faces (' ' :: '(' :: rest)) :
    c.token.isSymbol "(" = true ∧ Cursor.Faces { c with tokens := c.tokens.tail } rest := by
  obtain ⟨fuel, start, hfuel, htokens⟩ := h.tokens_succ
  have hvisible : Token.visible (' ' :: '(' :: rest) = ' ' :: (['('] ++ Token.visible rest) := rfl
  have hpiece : Token.Piece .symbol ['('] fun _ => True := Token.piece_symbol (by simp)
  rw [hvisible] at hfuel htokens
  rw [Token.scan_space (by rintro a r ⟨⟩; decide)] at htokens
  cases fuel with
  | zero => cases hfuel
  | succ fuel =>
    rw [Token.scan_piece hpiece.ne_nil (hpiece.visible trivial) (hpiece.taken trivial)] at htokens
    simp only [List.length_cons, List.length_append] at hfuel
    refine ⟨?_, h.fault, fuel, _, by omega, by rw [htokens, List.tail_cons]⟩
    rw [Cursor.token, htokens]
    exact show ("(" == "(") = true by decide

end Cursor.Faces

namespace Parser

variable {c c' : Cursor}

theorem name_run_of_illegal (h : c.token.kind = .illegal) : ∃ e, name.run c = .error e := by
  have hname : c.token.name? = none := by
    rw [Token.name?, Token.identifier?, h]
  refine ⟨c.unexpected, ?_⟩
  simp [name, peek, fail, hname]
  rfl

/-- A column has the name that is read first. -/
theorem columnSpec_name {defining : Option String} {earlier : List ColumnSpec} {s : ColumnSpec}
    (h : (columnSpec defining earlier).run c = .ok (s, c')) : ∃ c₁, name.run c = .ok (s.name, c₁) := by
  rw [columnSpec, StateT.run_bind, Except.bind_eq_ok_iff] at h
  obtain ⟨⟨n, c₁⟩, hname, h⟩ := h
  rw [StateT.run_bind, Except.bind_eq_ok_iff] at h
  obtain ⟨⟨type, c₂⟩, -, h⟩ := h
  have hkept : ∀ keyed, Yields (fun s => s.name = n)
      (do constraints defining keyed (← get).bound ⟨n, type, []⟩) :=
    fun _ => Yields.bind fun _ => constraints_name _ _ _ _
  have hsame : s.name = n := by
    simp only at h
    split at h
    · exact hkept _ _ _ _ h
    · split at h
      · exact (Yields.bind fun _ => hkept _) _ _ _ h
      · split at h
        · exact (Yields.bind fun _ => hkept _) _ _ _ h
        · exact hkept _ _ _ _ h
  exact ⟨c₁, hsame ▸ hname⟩

/-- The columns that have been read stay in front of those that come. -/
theorem columnSpecs_prefix (defining : Option String) (fuel : Nat) (earlier : List ColumnSpec) :
    Yields (fun specs => earlier.reverse <+: specs) (columnSpecs defining fuel earlier) := by
  induction fuel generalizing earlier with
  | zero => exact Yields.fail
  | succ fuel ih =>
    rw [columnSpecs]
    refine Yields.bind fun s => Yields.bind fun comma => ?_
    have hgrown : earlier.reverse <+: (s :: earlier).reverse := by simp
    cases comma with
    | true => exact fun c specs c' h => hgrown.trans (ih (s :: earlier) c specs c' h)
    | false => exact Yields.pure hgrown

end Parser

namespace Cursor.Faces

variable {c c' : Cursor} {name : String} {rest : List Char}

/-- A reader that has come to a name without a null character reads it. -/
theorem name_run (h : c.Faces ((quoteName name).toList ++ rest)) (hrest : rest.head? ≠ some '"')
    (hnull : '\x00' ∉ name.toList) : ∃ c', Parser.name.run c = .ok (name, c') ∧ c'.Faces rest := by
  obtain ⟨hkind, hnext⟩ := h.token_quoted hrest hnull
  have hname : c.token.name? = some name := by
    rw [Token.name?, Token.identifier?, hkind]
  exact ⟨_, Parser.name_run_of_name? hname h.fault, hnext⟩

/-- What is read where a name stands is the name. -/
theorem of_name_run (h : c.Faces ((quoteName name).toList ++ rest)) (hrest : rest.head? ≠ some '"') {n : String}
    (hrun : Parser.name.run c = .ok (n, c')) : '\x00' ∉ name.toList ∧ n = name ∧ c'.Faces rest := by
  by_cases hnull : '\x00' ∈ name.toList
  · obtain ⟨e, he⟩ := Parser.name_run_of_illegal (h.token_broken hnull)
    rw [he] at hrun
    cases hrun
  · obtain ⟨c₁, hname, hc₁⟩ := h.name_run hrest hnull
    rw [hname] at hrun
    cases hrun
    exact ⟨hnull, rfl, hc₁⟩

/-- A column that is read where a name stands has the name, whatever its type and constraints are. -/
theorem of_columnSpec_run (h : c.Faces ((quoteName name).toList ++ rest)) (hrest : rest.head? ≠ some '"')
    {defining : Option String} {earlier : List ColumnSpec} {s : ColumnSpec}
    (hrun : (Parser.columnSpec defining earlier).run c = .ok (s, c')) :
    '\x00' ∉ name.toList ∧ s.name = name := by
  obtain ⟨c₁, hname⟩ := Parser.columnSpec_name hrun
  obtain ⟨hnull, hsame, -⟩ := h.of_name_run hrest hname
  exact ⟨hnull, hsame⟩

/-- It stays the first column if it is the first. -/
theorem of_columnSpecs_run (h : c.Faces ((quoteName name).toList ++ rest)) (hrest : rest.head? ≠ some '"')
    {defining : Option String} {fuel : Nat} {columns : List ColumnSpec}
    (hrun : (Parser.columnSpecs defining fuel []).run c = .ok (columns, c')) :
    '\x00' ∉ name.toList ∧ ∃ s more, columns = s :: more ∧ s.name = name := by
  cases fuel with
  | zero => cases hrun
  | succ fuel =>
    rw [Parser.columnSpecs, StateT.run_bind, Except.bind_eq_ok_iff] at hrun
    obtain ⟨⟨s, c₁⟩, hs, hrun⟩ := hrun
    obtain ⟨hnull, hsame⟩ := h.of_columnSpec_run hrest hs
    have hprefix : Parser.Yields (fun columns => [s] <+: columns) (do
        if ← Parser.symbol? "," then Parser.columnSpecs defining fuel [s] else return [s].reverse) := by
      refine Parser.Yields.bind fun comma => Parser.Yields.ite ?_ (Parser.Yields.pure (List.prefix_refl _))
      exact Parser.columnSpecs_prefix defining fuel [s]
    obtain ⟨more, rfl⟩ := hprefix _ _ _ hrun
    exact ⟨hnull, s, more, rfl, hsame⟩

end Cursor.Faces

/-- A quoted name in front of other characters is read back. -/
structure ReadsBack (name : String) (rest : List Char) : Prop where
  /-- The scanner finds the name, and stops right behind its closing quote. -/
  scanned : Token.scanName ((quoteName name).toList ++ rest) = some (name.toList, rest)
  token : Token.scanOne ((quoteName name).toList ++ rest) =
    (.quoted name .double, (quoteName name).toList.length)
  /-- A reader that has come to the name reads it, and has then come to what follows. -/
  read : ∀ c : Cursor, c.Faces ((quoteName name).toList ++ rest) → '\x00' ∉ name.toList →
    ∃ c', Parser.name.run c = .ok (name, c') ∧ c'.Faces rest
  /-- If a null character breaks the name off, no name is read. -/
  refused : ∀ c : Cursor, c.Faces ((quoteName name).toList ++ rest) → '\x00' ∈ name.toList →
    ∃ e, Parser.name.run c = .error e
  /-- A column that is read from there has just that name, whatever its type and constraints are. -/
  column : ∀ c : Cursor, c.Faces ((quoteName name).toList ++ rest) → ∀ defining earlier s c',
    (Parser.columnSpec defining earlier).run c = .ok (s, c') → '\x00' ∉ name.toList ∧ s.name = name

theorem readsBack_quoteName (name : String) {rest : List Char} (hrest : rest.head? ≠ some '"') :
    ReadsBack name rest where
  scanned := Token.scanName_quoteName name hrest
  token := Token.scanOne_quoteName name hrest
  read _ hc := hc.name_run hrest
  refused _ hc hnull := Parser.name_run_of_illegal (hc.token_broken hnull)
  column _ hc _ _ _ _ := hc.of_columnSpec_run hrest

namespace Parser

variable {c c' : Cursor}

/-- Where a symbol has been passed there was no fault to note before. -/
theorem eq_of_blameIf {e : Option SqlError} {s : String} {u v : Unit} {c₁ : Cursor}
    (hblame : (blameIf e).run c = .ok (u, c₁)) (hsymbol : (symbol s).run c₁ = .ok (v, c')) : c₁ = c := by
  cases e with
  | none =>
    cases hblame
    rfl
  | some e =>
    cases hblame
    obtain ⟨e', herror⟩ := symbol_run_of_fault (c := { c with fault := some e }) rfl s
    rw [herror] at hsymbol
    cases hsymbol

/-- Where the name of a table and its columns stand behind the next token, that name is read, and then the reader
comes to the columns. -/
theorem createTable_run_listing {taken : String → Bool} {n : String} {cs : List Char} {s : Statement}
    (hc : Cursor.Faces { c with tokens := c.tokens.tail } ((quoteName n).toList ++ ' ' :: '(' :: cs))
    (h : (createTable taken).run c = .ok (s, c')) :
    '\x00' ∉ n.toList ∧ ∃ columns defining fuel c₁ c₂, s = .createTable n false columns ∧ c₁.Faces cs ∧
      (columnSpecs defining fuel []).run c₁ = .ok (columns, c₂) := by
  have hrest : (' ' :: '(' :: cs).head? ≠ some '"' := by simp
  rw [createTable, StateT.run_bind, Except.bind_eq_ok_iff] at h
  obtain ⟨⟨_, c₁⟩, htable, h⟩ := h
  obtain rfl := keyword_run_eq_ok htable
  rw [StateT.run_bind, keyword?_run_of_false (hc.not_keyword hrest "IF"), Except.ok_bind] at h
  simp only [Bool.false_eq_true, if_false, peek, StateT.run_bind, StateT.run_get, pure_bind, StateT.run_pure,
    Except.bind_eq_ok_iff] at h
  obtain ⟨⟨m, c₂⟩, hread, ⟨_, c₃⟩, hblame, ⟨columns, c₄⟩, hcolumns, h⟩ := h
  obtain ⟨hnull, rfl, hc₂⟩ := hc.of_name_run hrest hread
  simp only [bracketed, StateT.run_bind, Except.bind_eq_ok_iff] at hcolumns
  obtain ⟨⟨_, c₅⟩, hopen, ⟨specs, c₆⟩, ⟨⟨now, c₇⟩, hget, hspecs⟩, ⟨_, c₈⟩, -, hpure⟩ := hcolumns
  cases hget
  cases hpure
  -- A name that is taken or kept for the store itself leaves a fault, which the bracket does not let pass.
  have hc₃ : c₃.Faces (' ' :: '(' :: cs) := eq_of_blameIf hblame hopen ▸ hc₂
  obtain ⟨-, rfl⟩ := symbol_run_eq_ok hopen
  have hs : s = .createTable m false specs := by
    split at h
    · simp only [StateT.run_bind, Except.bind_eq_ok_iff] at h
      obtain ⟨_, -, _, -, h⟩ := h
      cases h
      rfl
    · cases h
      rfl
  exact ⟨hnull, specs, _, _, _, c₆, hs, hc₃.token_open.2, hspecs⟩

end Parser

/-! ## The question for the columns of a table -/

/-- The reader of the question comes to the name of the table. -/
theorem exists_faces_infoSql (name : String) : ∃ c, c.Faces ((quoteName name).toList ++ [')']) ∧
    Parser.tableInfo.run (Cursor.ofText (infoSql name)) =
      (do let n ← Parser.name; Parser.symbol ")"; return n : Parser String).run c := by
  obtain ⟨fuel, hfuel, htokens⟩ := ofText_infoSql name
  exact ⟨_, .of_scan_name _ _ hfuel, Parser.tableInfo_run htokens⟩

/-- The question is read as one for the table of that name, unless the name is broken off. -/
theorem infoTable_infoSql_iff {name n : String} :
    Statement.infoTable (infoSql name) = .ok n ↔ n = name ∧ '\x00' ∉ name.toList := by
  obtain ⟨c, hc, hrun⟩ := exists_faces_infoSql name
  have hback : ReadsBack name [')'] := readsBack_quoteName name (by decide)
  rw [Statement.infoTable, hrun, StateT.run_bind]
  by_cases hnull : '\x00' ∈ name.toList
  · obtain ⟨e, he⟩ := hback.refused c hc hnull
    rw [he, Except.error_bind]
    have herror : ¬(Except.error e : Except SqlError (String × Cursor)).map Prod.fst = .ok n := by rintro ⟨⟩
    exact iff_of_false herror fun h => h.2 hnull
  · obtain ⟨c₁, hname, hc₁⟩ := hback.read c hc hnull
    have hclose : c₁.token.isSymbol ")" = true := by
      obtain ⟨fuel, start, -, htokens⟩ := hc₁.tokens_succ
      rw [Cursor.token, htokens]
      exact show (")" == ")") = true by decide
    rw [hname, Except.ok_bind, StateT.run_bind, Parser.symbol_run hclose hc₁.fault]
    simp only [hnull, not_false_eq_true, and_true, Except.ok_bind, StateT.run_pure]
    exact ⟨fun h => by cases h; rfl, fun h => by rw [h]; rfl⟩

/-! ## The text that creates a table -/

theorem ColumnDef.sql_eq (x : ColumnDef) : ∃ rest, x.sql = quoteName x.name ++ (" " ++ rest) := by
  refine ⟨x.type ++ (if Text.trim x.constraints = "" then "" else " " ++ Text.trim x.constraints), ?_⟩
  unfold sql
  simp only [String.append_assoc]

/-- In the texts of some columns, one stands behind those before it with their separators. -/
theorem intercalate_columns (before : List ColumnDef) (x : ColumnDef) (after : List ColumnDef) :
    ∃ more, ", ".intercalate ((before ++ x :: after).map ColumnDef.sql) =
      String.join (before.map fun y => y.sql ++ ", ") ++ (x.sql ++ more) := by
  induction before with
  | nil =>
    simp only [List.nil_append, List.map_nil, String.join_nil, String.empty_append]
    cases after with
    | nil => exact ⟨"", by simp⟩
    | cons y after =>
      refine ⟨", " ++ ", ".intercalate ((y :: after).map ColumnDef.sql), ?_⟩
      rw [List.map_cons, List.map_cons, String.intercalate_cons_cons, String.append_assoc]
  | cons y before ih =>
    obtain ⟨more, hmore⟩ := ih
    have hne : (before ++ x :: after).map ColumnDef.sql ≠ [] := by simp
    refine ⟨more, ?_⟩
    rw [List.cons_append, List.map_cons, String.intercalate_cons_of_ne_nil hne, hmore, List.map_cons,
      String.join_cons]
    simp only [String.append_assoc]

namespace TableDef

variable {d : TableDef}

/-- What stands in front of the name of a column, if these are the columns before it. -/
def textBefore (d : TableDef) (before : List ColumnDef) : String :=
  "CREATE TABLE " ++ quoteName d.name ++ " (" ++ String.join (before.map fun y => y.sql ++ ", ")

/-- Where the name of a column stands in the text. -/
theorem createSql_split {before after : List ColumnDef} {x : ColumnDef}
    (h : d.columns = before ++ x :: after) :
    ∃ rest, d.createSql = d.textBefore before ++ quoteName x.name ++ rest ∧ rest.toList.head? ≠ some '"' := by
  obtain ⟨more, hmore⟩ := intercalate_columns before x after
  obtain ⟨rest, hsql⟩ := x.sql_eq
  refine ⟨" " ++ (rest ++ (more ++ ")")), ?_, by simp⟩
  unfold createSql textBefore
  rw [h, hmore, hsql]
  simp only [String.append_assoc]

/-- Behind the first words of the text the reader comes to the name of the table. -/
theorem exists_faces_createSql (d : TableDef) : ∃ more,
    Cursor.Faces { sql := d.createSql, tokens := more } ((quoteName d.name).toList ++ ' ' :: d.listing) ∧
      Token.ofText d.createSql =
        ⟨.word "CREATE", "CREATE", 0, 6⟩ :: ⟨.word "TABLE", "TABLE", 7, 12⟩ :: more := by
  obtain ⟨fuel, hfuel, htokens⟩ := ofText_createSql d
  exact ⟨_, .of_scan_name _ _ hfuel, htokens⟩

/-- Whatever the types and constraints are, the text is read, if at all, for a table of the whole name, the first
column of which has the name of the first that is declared. -/
theorem names_of_parse {taken : String → Bool} {r : Statement.Reading}
    (h : Statement.parse taken d.createSql = .ok r) : '\x00' ∉ d.name.toList ∧
      ∃ columns, r.statement = .createTable d.name false columns ∧
        ∀ x after, d.columns = x :: after → '\x00' ∉ x.name.toList ∧
          ∃ s more, columns = s :: more ∧ s.name = x.name := by
  obtain ⟨more, hfaces, htokens⟩ := exists_faces_createSql d
  obtain ⟨c, c', hcreate, -⟩ := (parse_createSql_iff htokens).mp h
  obtain ⟨hnull, columns, defining, fuel, c₁, c₂, hs, hc₁, hcolumns⟩ :=
    Parser.createTable_run_listing hfaces hcreate
  refine ⟨hnull, columns, hs, fun x after hx => ?_⟩
  obtain ⟨more, hmore⟩ := intercalate_columns [] x after
  obtain ⟨rest, hsql⟩ := x.sql_eq
  have hlisting : (", ".intercalate (d.columns.map ColumnDef.sql)).toList ++ [')'] =
      (quoteName x.name).toList ++ ((" " ++ rest ++ more).toList ++ [')']) := by
    rw [List.nil_append] at hmore
    rw [hx, hmore, hsql]
    simp
  rw [hlisting] at hc₁
  exact hc₁.of_columnSpecs_run (by simp) hcolumns

/-- A table with a regular definition is created under its name, with columns of the declared names. -/
theorem Regular.reconcileTable (hd : d.Regular) {c : Connection} (hnew : c.tables.find? d.name = none) :
    ∃ t : Table, t.name = d.name ∧ t.columns.map Column.name = d.columns.map ColumnDef.name ∧
      c.reconcileTable d = (.ok (), { c with tables := c.tables ++ [t] }) := by
  have hinfo : Statement.infoTable (infoSql d.name) = .ok d.name := infoTable_infoSql_iff.mpr ⟨rfl, hd.name⟩
  obtain ⟨r, hparse, -, hr⟩ := hd.parse_createSql (fun name => (c.tables.find? name).isSome)
    (by rw [hnew, Option.isSome_none])
  obtain ⟨columns, hcolumns, -, hrun⟩ :=
    Connection.runText_createSql hd.toPlain.faithful.lone hnew hparse
  rw [hr, Statement.createTable.injEq] at hcolumns
  obtain ⟨-, -, rfl⟩ := hcolumns
  refine ⟨Plan.newTable d.name (d.columns.map ColumnDef.spec), rfl, ?_, ?_⟩
  · simp [Plan.newTable, Plan.column, ColumnDef.spec]
  · unfold Connection.reconcileTable
    simp only [hinfo, hnew, hrun]
    rfl

end TableDef

/-- The names in the texts for a table are read back. -/
structure TableDef.NamesReadBack (d : TableDef) : Prop where
  /-- The name of the table, where it is created. -/
  table : ∃ rest, d.createSql = "CREATE TABLE " ++ quoteName d.name ++ rest ∧ ReadsBack d.name rest.toList
  /-- The name of each of its columns there. -/
  columns : ∀ before x after, d.columns = before ++ x :: after → ∃ rest,
    d.createSql = d.textBefore before ++ quoteName x.name ++ rest ∧ ReadsBack x.name rest.toList
  /-- The name of the table in the question for its columns. -/
  question : infoSql d.name = "PRAGMA table_info(" ++ quoteName d.name ++ ")" ∧ ReadsBack d.name ")".toList
  asked : ∀ n, Statement.infoTable (infoSql d.name) = .ok n ↔ n = d.name ∧ '\x00' ∉ d.name.toList
  /-- Whatever the types and constraints are, the text is read, if at all, for a table of the whole name, the
  first column of which has the name of the first that is declared. -/
  created : ∀ taken r, Statement.parse taken d.createSql = .ok r → '\x00' ∉ d.name.toList ∧
    ∃ columns, r.statement = .createTable d.name false columns ∧
      ∀ x after, d.columns = x :: after → '\x00' ∉ x.name.toList ∧
        ∃ s more, columns = s :: more ∧ s.name = x.name
  /-- The text of a regular definition is read, and the table then has just the declared names. -/
  whole : d.Regular → ∀ c : Connection, c.tables.find? d.name = none → ∃ t : Table, t.name = d.name ∧
    t.columns.map Column.name = d.columns.map ColumnDef.name ∧
      c.reconcileTable d = (.ok (), { c with tables := c.tables ++ [t] })

/-- Every name is read back from its quotes, whatever stands behind, so different names are quoted differently,
and names in the texts for a table are read back from them. -/
theorem names_read_back :
    (∀ (name : String) (rest : List Char), rest.head? ≠ some '"' → ReadsBack name rest) ∧
      Function.Injective quoteName ∧ ∀ d : TableDef, d.NamesReadBack := by
  refine ⟨fun name _ => readsBack_quoteName name, quoteName_injective, fun d => ?_⟩
  exact {
    table := by
      refine ⟨" (" ++ (", ".intercalate (d.columns.map ColumnDef.sql) ++ ")"), ?_, readsBack_quoteName _ (by simp)⟩
      unfold TableDef.createSql
      simp only [String.append_assoc]
    columns := by
      intro before x after h
      obtain ⟨rest, hsplit, hrest⟩ := TableDef.createSql_split h
      exact ⟨rest, hsplit, readsBack_quoteName x.name hrest⟩
    question := ⟨rfl, readsBack_quoteName d.name (by decide)⟩
    asked := fun _ => infoTable_infoSql_iff
    created := fun _ _ => TableDef.names_of_parse
    whole := fun hd _ => hd.reconcileTable }

/-- A table whose names would end the text around them, if quotes in them were taken for their ends. -/
def hostile : TableDef := ⟨"a\"\" (x); --", [⟨"\"", "TEXT", ""⟩, ⟨"b\"); DROP TABLE t; --", "BIG INT", " "⟩]⟩

theorem regular_hostile : hostile.Regular where
  name := by decide
  columns := by
    intro x hx
    rcases List.mem_pair.mp hx with rfl | rfl
    · exact ⟨by decide, .one (by decide), by decide, by decide⟩
    · have htype : TypeWords ("BIG".toList ++ ' ' :: "INT".toList) := .more (by decide) (.one (by decide))
      exact ⟨by decide, htype, by decide, by decide⟩
  unreserved := by decide +kernel
  ne_nil := by decide
  room := by decide
  distinct := by decide

theorem hostile_read_back :
    Token.scanName ((quoteName hostile.name).toList ++ " (\"".toList) =
      some (hostile.name.toList, " (\"".toList) ∧
    (∃ c c' : Cursor, c.Faces ((quoteName hostile.name).toList ++ [')']) ∧
      Parser.name.run c = .ok (hostile.name, c') ∧ c'.Faces [')']) ∧
    (∃ c : Cursor, c.Faces ((quoteName "a\x00b").toList ++ [')']) ∧ ∃ e, Parser.name.run c = .error e) ∧
    quoteName "\"" ≠ quoteName "\"\"" ∧
    (∃ rest, hostile.createSql = hostile.textBefore [⟨"\"", "TEXT", ""⟩] ++
      quoteName "b\"); DROP TABLE t; --" ++ rest ∧ ReadsBack "b\"); DROP TABLE t; --" rest.toList) ∧
    Statement.infoTable (infoSql hostile.name) = .ok hostile.name ∧
    (∃ r s more, Statement.parse (fun _ => false) hostile.createSql = .ok r ∧
      r.statement = .createTable hostile.name false (s :: more) ∧ s.name = "\"") ∧
    ∃ t : Table, t.columns.map Column.name = hostile.columns.map ColumnDef.name ∧
      Connection.reconcileTable {} hostile = (.ok (), { tables := [] ++ [t] }) := by
  obtain ⟨hread, hinjective, hnames⟩ := names_read_back
  have hback := hread hostile.name [')'] (by decide)
  have hbroken := hread "a\x00b" [')'] (by decide)
  have hcursor : ∀ name, ∃ c : Cursor, c.Faces ((quoteName name).toList ++ [')']) :=
    fun name => ⟨_, .of_scan "" 0 (Nat.lt_succ_self _)⟩
  obtain ⟨c, hc⟩ := hcursor hostile.name
  obtain ⟨c', hrun, hc'⟩ := hback.read c hc (by decide)
  obtain ⟨d, hd⟩ := hcursor "a\x00b"
  obtain ⟨r, hparse, -⟩ := regular_hostile.parse_createSql (fun _ => false) rfl
  obtain ⟨-, columns, hcolumns, hfirst⟩ := (hnames hostile).created _ r hparse
  obtain ⟨-, s, more, rfl, hs⟩ := hfirst ⟨"\"", "TEXT", ""⟩ _ rfl
  obtain ⟨t, -, ht, hcreated⟩ := (hnames hostile).whole regular_hostile {} rfl
  have hsecond := (hnames hostile).columns [⟨"\"", "TEXT", ""⟩] ⟨"b\"); DROP TABLE t; --", "BIG INT", " "⟩ [] rfl
  have hasked := ((hnames hostile).asked hostile.name).mpr ⟨rfl, by decide⟩
  refine ⟨(hread hostile.name _ (by decide)).scanned, ⟨c, c', hc, hrun, hc'⟩,
    ⟨d, hd, hbroken.refused d hd (by decide)⟩, fun h => ?_, hsecond, hasked,
    ⟨r, s, more, hparse, hcolumns, hs⟩, t, ht, hcreated⟩
  exact absurd (hinjective h) (by decide)

/-- Names with a null character are not read back: no columns are asked for, and no table is created. -/
theorem null_not_read_back :
    Statement.infoTable (infoSql "a\x00b") ≠ .ok "a\x00b" ∧
    (∀ taken r, Statement.parse taken (TableDef.createSql ⟨"a\x00b", [⟨"x", "TEXT", ""⟩]⟩) ≠ .ok r) ∧
    ∀ taken r, Statement.parse taken (TableDef.createSql ⟨"t", [⟨"a\x00b", "TEXT", ""⟩]⟩) ≠ .ok r := by
  refine ⟨fun h => ?_, fun taken r h => ?_, fun taken r h => ?_⟩
  · exact (infoTable_infoSql_iff.mp h).2 (by decide)
  · exact (TableDef.names_of_parse h).1 (by decide)
  · obtain ⟨-, columns, -, hfirst⟩ := TableDef.names_of_parse h
    exact (hfirst _ [] rfl).1 (by decide)

end GuestHost.Store
