import GuestHost.Proofs.Store.Transaction
/-!
The text that creates a declared table. Whatever the types and constraints of the declaration hold, a
reader that gets through a statement of the text has read the definition of a table of the declared name.
-/
namespace GuestHost.Store

namespace Token

/-- What is read of a text, which a null character ends. -/
def visible (cs : List Char) : List Char := cs.takeWhile (· != '\x00')

theorem ofText_eq (sql : String) :
    ofText sql = scan ((visible sql.toList).length + 1) 0 (visible sql.toList) := rfl

theorem visible_append {cs : List Char} (h : '\x00' ∉ cs) (ds : List Char) :
    visible (cs ++ ds) = cs ++ visible ds := by
  refine List.takeWhile_append_of_pos fun c hc => ?_
  rw [bne_iff_ne]
  rintro rfl
  exact h hc

theorem visible_of_notMem {cs : List Char} (h : '\x00' ∉ cs) : visible cs = cs := by
  have happend := visible_append h []
  have hnil : visible [] = [] := rfl
  rwa [hnil, List.append_nil] at happend

/-- The characters of a name between its quotes. -/
def doubled (name : List Char) : List Char := name.flatMap fun c => if c = '"' then ['"', '"'] else [c]

theorem scanQuoted_cons_of_ne {quote c : Char} (h : c ≠ quote) (cs : List Char) :
    scanQuoted quote (c :: cs) = (scanQuoted quote cs).map fun (name, r) => (c :: name, r) := by
  rw [scanQuoted.eq_def]
  exact if_neg h

/-- What can be scanned of a quoted name is the name. -/
theorem name_of_scanQuoted {name rest n r : List Char} {next : Char} (hnext : next ≠ '"')
    (h : scanQuoted '"' (visible (doubled name ++ '"' :: next :: rest)) = some (n, r)) : n = name := by
  rw [visible] at h
  induction name generalizing n r with
  | nil =>
    by_cases hnull : next = '\x00' <;> simp [doubled, scanQuoted, hnull, hnext] at h
    · exact h.1
    · exact h.1
  | cons c cs ih =>
    have hcons : doubled (c :: cs) = (if c = '"' then ['"', '"'] else [c]) ++ doubled cs := rfl
    rw [hcons] at h
    by_cases hquote : c = '"'
    · subst hquote
      simp [scanQuoted] at h
      obtain ⟨m, hm, rfl⟩ := h
      rw [ih hm]
    · by_cases hnull : c = '\x00'
      · subst hnull
        simp [scanQuoted] at h
      · simp only [if_neg hquote, List.cons_append, List.nil_append, List.takeWhile_cons, bne_iff_ne, ne_eq,
          hnull, not_false_eq_true, if_true] at h
        rw [scanQuoted_cons_of_ne hquote, Option.map_eq_some_iff] at h
        obtain ⟨⟨m, r'⟩, hm, heq⟩ := h
        cases heq
        rw [ih hm]

theorem scanOne_quote (cs : List Char) : scanOne ('"' :: cs) =
    match scanQuoted '"' cs with
    | some (name, _) => (.quoted (String.ofList name) .double, quotedSize '"' name)
    | none => (.illegal, cs.length + 1) := rfl

/-- A quote starts a name, or something illegal. -/
theorem scan_quote (fuel at_ : Nat) (cs : List Char) :
    ∃ t more, scan (fuel + 1) at_ ('"' :: cs) = t :: more ∧ t.kind =
      match scanQuoted '"' cs with
      | some (name, _) => .quoted (String.ofList name) .double
      | none => .illegal := by
  refine ⟨_, _, rfl, ?_⟩
  change (scanOne ('"' :: cs)).1 = _
  rw [scanOne_quote]
  cases scanQuoted '"' cs <;> rfl

end Token

namespace Token

theorem scan_create (fuel : Nat) (rest : List Char) :
    scan (fuel + 1) 0 ('C' :: 'R' :: 'E' :: 'A' :: 'T' :: 'E' :: ' ' :: rest) =
      ⟨.word "CREATE", "CREATE", 0, 6⟩ :: scan fuel 6 (' ' :: rest) := rfl

theorem scan_table (fuel : Nat) (rest : List Char) :
    scan (fuel + 3) 6 (' ' :: 'T' :: 'A' :: 'B' :: 'L' :: 'E' :: ' ' :: '"' :: rest) =
      ⟨.word "TABLE", "TABLE", 7, 12⟩ :: scan fuel 13 ('"' :: rest) := rfl

end Token

/-- The text behind the name of a table and a blank. -/
def TableDef.listing (d : TableDef) : List Char :=
  '(' :: ((", ".intercalate (d.columns.map ColumnDef.sql)).toList ++ [')'])

theorem toList_createSql (d : TableDef) : d.createSql.toList =
    'C' :: 'R' :: 'E' :: 'A' :: 'T' :: 'E' :: ' ' :: 'T' :: 'A' :: 'B' :: 'L' :: 'E' :: ' ' :: '"' ::
      (Token.doubled d.name.toList ++ '"' :: ' ' :: d.listing) := by
  unfold TableDef.createSql TableDef.listing quoteName
  simp only [String.toList_append, String.toList_ofList, List.append_assoc]
  rfl

/-- The first words of the text that creates a table, and the tokens from the name of the table on. -/
theorem ofText_createSql (d : TableDef) : ∃ fuel,
    (Token.visible (Token.doubled d.name.toList ++ '"' :: ' ' :: d.listing)).length < fuel ∧
    Token.ofText d.createSql = ⟨.word "CREATE", "CREATE", 0, 6⟩ :: ⟨.word "TABLE", "TABLE", 7, 12⟩ ::
      Token.scan (fuel + 1) 13
        ('"' :: Token.visible (Token.doubled d.name.toList ++ '"' :: ' ' :: d.listing)) := by
  have hchars := toList_createSql d
  generalize d.listing = body at *
  refine ⟨(Token.visible (Token.doubled d.name.toList ++ '"' :: ' ' :: body)).length + 10, by omega, ?_⟩
  rw [Token.ofText_eq, hchars, ← Token.scan_table, ← Token.scan_create]
  rfl

/-- Behind the first words of the text there is a token that can be no other name. -/
theorem tokens_createSql (d : TableDef) : ∃ t more, Token.ofText d.createSql =
    ⟨.word "CREATE", "CREATE", 0, 6⟩ :: ⟨.word "TABLE", "TABLE", 7, 12⟩ :: t :: more ∧
      t.isKeyword "IF" = false ∧ ∀ n, t.name? = some n → n = d.name := by
  obtain ⟨fuel, -, htokens⟩ := ofText_createSql d
  generalize hs : Token.visible (Token.doubled d.name.toList ++ '"' :: ' ' :: d.listing) = s at htokens
  obtain ⟨t, more, hscan, hkind⟩ := Token.scan_quote fuel 13 s
  refine ⟨t, more, by rw [htokens, hscan], ?_, fun n hn => ?_⟩
  · rw [Token.isKeyword, hkind]
    cases Token.scanQuoted '"' s <;> rfl
  · rw [Token.name?, Token.identifier?, hkind] at hn
    rcases hname : Token.scanQuoted '"' s with _ | ⟨m, r⟩ <;> rw [hname] at hn <;> cases hn
    rw [← hs] at hname
    rw [Token.name_of_scanQuoted (by decide) hname, String.ofList_toList]

namespace Parser

variable {c c' : Cursor}

theorem keyword?_run_of_true {word : String} (h : c.token.isKeyword word = true)
    (hfault : c.fault = none) :
    (keyword? word).run c = .ok (true, { c with tokens := c.tokens.tail }) := by
  simp [keyword?, atKeyword, take, h, hfault]

theorem keyword?_run_of_false {word : String} (h : c.token.isKeyword word = false) :
    (keyword? word).run c = .ok (false, c) := by
  simp [keyword?, atKeyword, h]

theorem keyword_run {word : String} (h : c.token.isKeyword word = true)
    (hfault : c.fault = none) :
    (keyword word).run c = .ok ((), { c with tokens := c.tokens.tail }) := by
  rw [keyword, StateT.run_bind, keyword?_run_of_true h hfault]
  rfl

/-- A waiting fault lets no symbol pass. -/
theorem symbol_run_of_fault {e : SqlError} (h : c.fault = some e) (s : String) :
    ∃ e', (symbol s).run c = .error e' := by
  by_cases hs : c.token.isSymbol s = true
  · refine ⟨e, ?_⟩
    simp [symbol, symbol?, atSymbol, take, h, hs]
    rfl
  · refine ⟨c.unexpected, ?_⟩
    simp [symbol, symbol?, atSymbol, fail, hs]
    rfl

theorem name_run_eq_ok {n : String} (h : name.run c = .ok (n, c')) :
    c.token.name? = some n := by
  simp only [name, peek, StateT.run_bind, StateT.run_pure, StateT.run_get, pure_bind] at h
  split at h
  · next m hm =>
    rw [StateT.run_bind, Except.bind_eq_ok_iff] at h
    obtain ⟨_, -, h⟩ := h
    cases h
    exact hm
  · cases h

theorem tableFault?_of_taken {taken : String → Bool} {n : String} (h : taken n = true) (raw : String)
    (place : Place) : ∃ e, tableFault? taken false n raw place = some e := by
  unfold tableFault?
  split
  · exact ⟨_, rfl⟩
  · rw [h]
    exact ⟨_, rfl⟩

/-- A definition that is read is that of a table, under the name that follows the first words; and it is
read so whatever other tables are there. -/
theorem createTable_run {taken : String → Bool} {s : Statement}
    (htable : c.token.isKeyword "TABLE" = true) (hif : c.following.isKeyword "IF" = false)
    (hfault : c.fault = none) (h : (createTable taken).run c = .ok (s, c')) :
    ∃ n columns, s = .createTable n false columns ∧ c.following.name? = some n ∧
      (createTable fun _ => false).run c = .ok (s, c') := by
  have hif' : (keyword? "IF").run { c with tokens := c.tokens.tail } =
      .ok (false, { c with tokens := c.tokens.tail }) := keyword?_run_of_false hif
  simp only [createTable, StateT.run_bind, keyword_run htable hfault, hif', Except.ok_bind,
    Bool.false_eq_true, if_false, StateT.run_pure, peek, pure_bind, StateT.run_get] at h ⊢
  rw [Except.bind_eq_ok_iff] at h
  obtain ⟨⟨n, c₁⟩, hn, h⟩ := h
  have hname : c.following.name? = some n := name_run_eq_ok hn
  rw [hn, Except.ok_bind]
  cases htaken : taken n with
  | true =>
    obtain ⟨e, he⟩ := tableFault?_of_taken htaken c.following.raw (c₁.place c.following.start)
    obtain ⟨e', hsymbol⟩ := symbol_run_of_fault (c := { c₁ with fault := some e }) rfl "("
    have hblame : (blameIf (some e)).run c₁ = .ok ((), { c₁ with fault := some e }) := rfl
    have hfollowing : c.tokens.tail.head?.getD ⟨.finish, "", 0, 0⟩ = c.following := rfl
    simp only [Cursor.token, hfollowing, he, hblame, Except.ok_bind, bracketed, StateT.run_bind, hsymbol,
      Except.error_bind] at h
    cases h
  | false =>
    have hfault : ∀ raw place, tableFault? taken false n raw place =
        tableFault? (fun _ => false) false n raw place := by
      intro raw place
      rw [tableFault?, tableFault?, htaken]
    simp only [hfault, htaken] at h
    refine ⟨n, ?_⟩
    have hread := h
    simp only [Except.bind_eq_ok_iff] at h
    obtain ⟨⟨_, c₂⟩, -, ⟨columns, c₃⟩, -, h⟩ := h
    refine ⟨columns, ?_, hname, hread⟩
    split at h
    · simp only [StateT.run_bind, Except.bind_eq_ok_iff] at h
      obtain ⟨_, -, _, -, h⟩ := h
      cases h
      rfl
    · cases h
      rfl

theorem statement_run_create (taken : String → Bool) (hcreate : c.token.isKeyword "CREATE" = true)
    (hfault : c.fault = none) :
    (statement taken).run c = (createTable taken).run { c with tokens := c.tokens.tail } := by
  rw [statement, StateT.run_bind, keyword?_run_of_true hcreate hfault]
  rfl

end Parser

/-- Behind the first word of the text a definition is read, and then the text ends. -/
theorem parse_createSql_iff {d : TableDef} {taken : String → Bool} {r : Statement.Reading} {more : List Token}
    (htokens : Token.ofText d.createSql =
      ⟨.word "CREATE", "CREATE", 0, 6⟩ :: ⟨.word "TABLE", "TABLE", 7, 12⟩ :: more) :
    Statement.parse taken d.createSql = .ok r ↔ ∃ c c',
      (Parser.createTable taken).run
        { sql := d.createSql, tokens := ⟨.word "TABLE", "TABLE", 7, 12⟩ :: more } = .ok (r.statement, c) ∧
      Parser.finish.run c = .ok (r.rest, c') ∧ r.params = c'.params := by
  have hcursor : Cursor.ofText d.createSql = { sql := d.createSql, tokens :=
      ⟨.word "CREATE", "CREATE", 0, 6⟩ :: ⟨.word "TABLE", "TABLE", 7, 12⟩ :: more } := by
    rw [Cursor.ofText, htokens]
    rfl
  generalize hc : Cursor.ofText d.createSql = c at *
  have hcreate : Token.isKeyword ⟨.word "CREATE", "CREATE", 0, 6⟩ "CREATE" = true := by decide
  have hkind : c.token.kind = .word "CREATE" := hcursor ▸ rfl
  have hstatement : (Parser.statement taken).run c =
      (Parser.createTable taken).run { c with tokens := c.tokens.tail } :=
    Parser.statement_run_create taken (hcursor ▸ hcreate) (hcursor ▸ rfl)
  have htail : { c with tokens := c.tokens.tail } =
      { sql := d.createSql, tokens := ⟨.word "TABLE", "TABLE", 7, 12⟩ :: more } := by rw [hcursor, List.tail_cons]
  simp only [Statement.parse, hc, hkind, StateT.run_bind, hstatement, htail, Except.bind_eq_ok_iff]
  constructor
  · rintro ⟨⟨⟨s, rest⟩, c₁⟩, ⟨⟨s', c₂⟩, hs, ⟨rest', c₃⟩, hfinish, hpure⟩, hr⟩
    cases hpure
    cases hr
    exact ⟨c₂, _, hs, hfinish, rfl⟩
  · rintro ⟨c₂, c₃, hs, hfinish, hparams⟩
    refine ⟨((r.statement, r.rest), c₃), ⟨(r.statement, c₂), hs, (r.rest, c₃), hfinish, rfl⟩, ?_⟩
    rw [← hparams]
    rfl

/-- What is read of the text that creates a declared table is the definition of a table of its name, and it is
read so whatever other tables are there. -/
theorem parse_createSql {d : TableDef} {taken : String → Bool} {r : Statement.Reading}
    (h : Statement.parse taken d.createSql = .ok r) :
    (∃ columns, r.statement = .createTable d.name false columns) ∧
      Statement.parse (fun _ => false) d.createSql = .ok r := by
  obtain ⟨t, more, htokens, hif, hname⟩ := tokens_createSql d
  obtain ⟨c, c', hcreate, hfinish⟩ := (parse_createSql_iff htokens).mp h
  have htable : Token.isKeyword ⟨.word "TABLE", "TABLE", 7, 12⟩ "TABLE" = true := by decide
  obtain ⟨n, columns, hs, hn, hsame⟩ := Parser.createTable_run
    (c := ⟨d.createSql, ⟨.word "TABLE", "TABLE", 7, 12⟩ :: t :: more, 0, [], none⟩) htable hif rfl hcreate
  exact ⟨⟨columns, hname n hn ▸ hs⟩, (parse_createSql_iff htokens).mpr ⟨c, c', hsame, hfinish⟩⟩

end GuestHost.Store
