import Mathlib.Data.List.TakeWhile
import GuestHost.Proofs.Store.ColumnNames
import GuestHost.Proofs.Store.Reconciling
import GuestHost.Proofs.Store.TokenText
/-!
Declarations that are read as they are meant. Whatever the names in it, the text that creates a table has its
columns in it with their types, if every type is some plain words and no column has constraints: no word of a
type is taken for the start of anything else, and nothing is left behind the last bracket.
-/
namespace GuestHost.Store

open Token (Piece PlainWord EndsWord quotedText bytesOf)

/-! ## Where a reader stands -/

/-- The reader stands in its text behind some characters and before the others. -/
structure Cursor.At (c : Cursor) (pre cs : List Char) : Prop where
  split : c.sql.toList = pre ++ cs
  tokens : ∃ fuel, cs.length < fuel ∧ c.tokens = Token.scan fuel (bytesOf pre) cs

namespace Cursor.At

variable {c c' : Cursor} {pre cs piece rest : List Char} {kind : TokenKind} {follows : List Char → Prop}

theorem congr (h : c.At pre cs) (hsql : c'.sql = c.sql) (htokens : c'.tokens = c.tokens) : c'.At pre cs where
  split := hsql ▸ h.split
  tokens := htokens ▸ h.tokens

theorem space (h : c.At pre (' ' :: cs)) (hcs : ∀ a r, cs = a :: r → isSqlSpace a = false) :
    c.At (pre ++ [' ']) cs where
  split := by rw [h.split, List.append_assoc, List.singleton_append]
  tokens := by
    obtain ⟨fuel, hfuel, htokens⟩ := h.tokens
    cases fuel with
    | zero => cases hfuel
    | succ fuel =>
      rw [Token.scan_space hcs, ← Token.bytesOf_append] at htokens
      exact ⟨fuel, Nat.lt_of_succ_lt_succ hfuel, htokens⟩

/-- The tokens from a piece on. -/
theorem tokens_eq (h : c.At pre (piece ++ rest)) (hpiece : Piece kind piece follows)
    (hrest : follows rest) : ∃ fuel, rest.length < fuel ∧ c.tokens =
      ⟨kind, String.ofList piece, bytesOf pre, bytesOf (pre ++ piece)⟩ ::
        Token.scan fuel (bytesOf (pre ++ piece)) rest := by
  obtain ⟨fuel, hfuel, htokens⟩ := h.tokens
  cases fuel with
  | zero => cases hfuel
  | succ fuel =>
    have hlength : 0 < piece.length := List.length_pos_iff.mpr hpiece.ne_nil
    rw [List.length_append] at hfuel
    rw [Token.scan_piece hpiece.ne_nil (hpiece.visible hrest) (hpiece.taken hrest),
      ← Token.bytesOf_append] at htokens
    exact ⟨fuel, by omega, htokens⟩

theorem token (h : c.At pre (piece ++ rest)) (hpiece : Piece kind piece follows) (hrest : follows rest) :
    c.token = ⟨kind, String.ofList piece, bytesOf pre, bytesOf (pre ++ piece)⟩ := by
  obtain ⟨fuel, -, htokens⟩ := h.tokens_eq hpiece hrest
  rw [Cursor.token, htokens]
  rfl

/-- Behind the token of a piece. -/
theorem tail (h : c.At pre (piece ++ rest)) (hpiece : Piece kind piece follows) (hrest : follows rest) :
    Cursor.At { c with tokens := c.tokens.tail } (pre ++ piece) rest where
  split := by rw [List.append_assoc, h.split]
  tokens := by
    obtain ⟨fuel, hfuel, htokens⟩ := h.tokens_eq hpiece hrest
    exact ⟨fuel, hfuel, by rw [htokens, List.tail_cons]⟩

theorem symbol_token {a : Char} (h : c.At pre (a :: rest)) (ha : a ∈ ['(', ',', ')']) :
    c.token = ⟨.symbol, String.ofList [a], bytesOf pre, bytesOf (pre ++ [a])⟩ :=
  have hat : c.At pre ([a] ++ rest) := h
  hat.token (Token.piece_symbol ha) trivial

theorem symbol_tail {a : Char} (h : c.At pre (a :: rest)) (ha : a ∈ ['(', ',', ')']) :
    Cursor.At { c with tokens := c.tokens.tail } (pre ++ [a]) rest :=
  have hat : c.At pre ([a] ++ rest) := h
  hat.tail (Token.piece_symbol ha) trivial

theorem length_le_bound (h : c.At pre cs) : cs.length ≤ c.bound := by
  have hbytes := Token.length_le_bytesOf c.sql.toList
  rw [Token.bytesOf_toList, h.split, List.length_append] at hbytes
  rw [Cursor.bound]
  omega

theorem token_nil (h : c.At pre []) : c.token = ⟨.finish, "", bytesOf pre, bytesOf pre⟩ := by
  obtain ⟨fuel, hfuel, htokens⟩ := h.tokens
  cases fuel with
  | zero => cases hfuel
  | succ fuel =>
    rw [Cursor.token, htokens, Token.scan_nil]
    rfl

end Cursor.At

namespace Parser

variable {c c' : Cursor}

theorem take_run (h : take.run c = .ok ((), c')) : c' = { c with tokens := c.tokens.tail } := by
  simp only [take, StateT.run_bind, StateT.run_get, pure_bind] at h
  split at h
  · cases h
  · cases h
    rfl

theorem symbol?_run {s : String} {b : Bool} (h : (symbol? s).run c = .ok (b, c')) :
    b = c.token.isSymbol s ∧ c' = if b then { c with tokens := c.tokens.tail } else c := by
  cases hs : c.token.isSymbol s with
  | true =>
    simp only [symbol?, atSymbol, hs, StateT.run_bind, StateT.run_get, pure_bind, StateT.run_pure, if_true,
      Except.bind_eq_ok_iff] at h
    obtain ⟨⟨_, c₁⟩, htake, h⟩ := h
    cases h
    exact ⟨rfl, take_run htake⟩
  | false =>
    rw [symbol?_run_of_false hs] at h
    cases h
    exact ⟨rfl, rfl⟩

theorem symbol_run_eq_ok {s : String} (h : (symbol s).run c = .ok ((), c')) :
    c.token.isSymbol s = true ∧ c' = { c with tokens := c.tokens.tail } := by
  rw [symbol, StateT.run_bind, Except.bind_eq_ok_iff] at h
  obtain ⟨⟨b, c₁⟩, hb, h⟩ := h
  obtain ⟨hhere, rfl⟩ := symbol?_run hb
  cases b with
  | true =>
    cases h
    exact ⟨hhere.symm, rfl⟩
  | false => cases h

theorem keyword_run_eq_ok {word : String} (h : (keyword word).run c = .ok ((), c')) :
    c' = { c with tokens := c.tokens.tail } := by
  rw [keyword, StateT.run_bind, Except.bind_eq_ok_iff] at h
  obtain ⟨⟨b, c₁⟩, hb, h⟩ := h
  cases hword : c.token.isKeyword word with
  | true =>
    simp only [keyword?, atKeyword, hword, StateT.run_bind, StateT.run_get, pure_bind, StateT.run_pure,
      if_true, Except.bind_eq_ok_iff] at hb
    obtain ⟨⟨_, c₂⟩, htake, hb⟩ := hb
    cases hb
    cases h
    exact take_run htake
  | false =>
    rw [keyword?_run_of_false hword] at hb
    cases hb
    cases h

theorem name_run {n : String} (h : name.run c = .ok (n, c')) :
    c.token.name? = some n ∧ c' = { c with tokens := c.tokens.tail } := by
  refine ⟨name_run_eq_ok h, ?_⟩
  simp only [name, peek, StateT.run_bind, StateT.run_pure, StateT.run_get, pure_bind] at h
  split at h
  · rw [StateT.run_bind, Except.bind_eq_ok_iff] at h
    obtain ⟨⟨_, c₁⟩, htake, h⟩ := h
    cases h
    exact take_run htake
  · cases h

end Parser

/-! ## Types -/

/-- A word that is no more than a word wherever a name may stand. -/
structure TypeWord (w : List Char) : Prop where
  plain : PlainWord w
  free : Text.asciiUpper (String.ofList w) ∉ "INDEXED" :: (Token.joinWords ++ Token.reserved)

theorem typeWord_iff {w : List Char} : TypeWord w ↔ PlainWord w ∧
    Text.asciiUpper (String.ofList w) ∉ "INDEXED" :: (Token.joinWords ++ Token.reserved) :=
  ⟨fun h => ⟨h.plain, h.free⟩, fun h => ⟨h.1, h.2⟩⟩

instance (w : List Char) : Decidable (TypeWord w) := decidable_of_iff' _ typeWord_iff

/-- Such words with a blank between each two. -/
inductive TypeWords : List Char → Prop where
  | one {w : List Char} (hw : TypeWord w) : TypeWords w
  | more {w rest : List Char} (hw : TypeWord w) (h : TypeWords rest) : TypeWords (w ++ ' ' :: rest)

theorem TypeWord.freeName? {w : List Char} (hw : TypeWord w) (raw : String) (start stop : Nat) :
    Token.freeName? ⟨.word (String.ofList w), raw, start, stop⟩ = some (String.ofList w) := by
  have hfree := hw.free
  simp only [List.mem_cons, List.mem_append, not_or] at hfree
  simp [Token.freeName?, Token.name?, Token.identifier?, hfree]

/-- What stands behind the columns of a table or between two of them. -/
def EndsColumn (rest : List Char) : Prop := ∃ c r, rest = c :: r ∧ c ∈ [',', ')']

theorem EndsColumn.endsWord {rest : List Char} (h : EndsColumn rest) : EndsWord rest := by
  obtain ⟨c, r, hrest, hc⟩ := h
  exact ⟨c, r, hrest, List.mem_cons_of_mem _ hc⟩

theorem EndsColumn.token {c : Cursor} {pre rest : List Char} (h : EndsColumn rest) (hat : c.At pre rest) :
    ∃ s, c.token = ⟨.symbol, s, bytesOf pre, bytesOf pre + 1⟩ ∧ (s = "," ∨ s = ")") := by
  obtain ⟨a, r, rfl, ha⟩ := h
  have htoken := hat.symbol_token (List.mem_cons_of_mem _ ha)
  rw [Token.bytesOf_append] at htoken
  simp only [List.mem_cons, List.not_mem_nil, or_false] at ha
  rcases ha with rfl | rfl
  · exact ⟨_, htoken, .inl rfl⟩
  · exact ⟨_, htoken, .inr rfl⟩

theorem EndsColumn.not_keyword {c : Cursor} {pre rest : List Char} (h : EndsColumn rest) (hat : c.At pre rest)
    (word : String) : c.token.isKeyword word = false := by
  obtain ⟨s, htoken, -⟩ := h.token hat
  rw [htoken]
  rfl

theorem EndsColumn.not_open {c : Cursor} {pre rest : List Char} (h : EndsColumn rest) (hat : c.At pre rest) :
    c.token.isSymbol "(" = false := by
  obtain ⟨s, htoken, rfl | rfl⟩ := h.token hat <;> rw [htoken]
  · exact show ("," == "(") = false by decide
  · exact show (")" == "(") = false by decide

theorem TypeWords.head {ts : List Char} (h : TypeWords ts) :
    ∃ c r, ts = c :: r ∧ Token.isPlainChar c = true := by
  cases h with
  | one hw =>
    obtain ⟨c, r, rfl, -⟩ := hw.plain.head
    exact ⟨c, r, rfl, hw.plain.chars c List.mem_cons_self⟩
  | more hw h =>
    obtain ⟨c, r, rfl, -⟩ := hw.plain.head
    exact ⟨c, _, List.cons_append .., hw.plain.chars c List.mem_cons_self⟩

theorem TypeWords.ascii {ts : List Char} (h : TypeWords ts) : ∀ a ∈ ts, a.toNat < 0x80 := by
  induction h with
  | one hw => exact fun a ha => (Token.toNat_of_isPlainChar (hw.plain.chars a ha)).2
  | more hw _ ih =>
    intro a ha
    rcases List.mem_append.mp ha with ha | ha
    · exact (Token.toNat_of_isPlainChar (hw.plain.chars a ha)).2
    · rcases List.mem_cons.mp ha with rfl | ha
      · decide
      · exact ih a ha

namespace Parser

variable {c c' : Cursor} {pre next : List Char}

theorem typeWords_run_of_other {stop fuel stop' : Nat} (h : (typeWords stop fuel).run c = .ok (stop', c'))
    (hother : c.token.freeName? = none) : stop' = stop ∧ c' = c := by
  cases fuel with
  | zero =>
    cases h
    exact ⟨rfl, rfl⟩
  | succ fuel =>
    simp only [typeWords, peek, StateT.run_bind, StateT.run_get, pure_bind, StateT.run_pure, hother] at h
    cases h
    exact ⟨rfl, rfl⟩

theorem typeWords_run_word {w : List Char} (hw : TypeWord w) (hnext : EndsWord next)
    {stop fuel stop' : Nat} (hat : c.At pre (w ++ next))
    (h : (typeWords stop (fuel + 1)).run c = .ok (stop', c')) :
    ∃ c₁, c₁.At (pre ++ w) next ∧ (typeWords (bytesOf (pre ++ w)) fuel).run c₁ = .ok (stop', c') := by
  have hpiece := Token.piece_word hw.plain
  have hfree : c.token.freeName? = some (String.ofList w) := by
    rw [hat.token hpiece hnext]
    exact hw.freeName? _ _ _
  simp only [typeWords, peek, StateT.run_bind, StateT.run_get, pure_bind, StateT.run_pure, hfree,
    Except.bind_eq_ok_iff] at h
  obtain ⟨⟨_, c₁⟩, htake, h⟩ := h
  obtain rfl := take_run htake
  rw [hat.token hpiece hnext] at h
  exact ⟨_, hat.tail hpiece hnext, h⟩

theorem typeWords_run {ts : List Char} (hts : TypeWords ts) (hnext : EndsColumn next)
    {stop fuel stop' : Nat} (hat : c.At pre (ts ++ next)) (hfuel : ts.length ≤ fuel)
    (h : (typeWords stop fuel).run c = .ok (stop', c')) :
    stop' = bytesOf (pre ++ ts) ∧ c'.At (pre ++ ts) next := by
  induction hts generalizing c pre fuel stop with
  | @one w hw =>
    obtain ⟨a, r, rfl, -⟩ := hw.plain.head
    cases fuel with
    | zero => cases hfuel
    | succ fuel =>
      obtain ⟨c₁, hat₁, h⟩ := typeWords_run_word hw hnext.endsWord hat h
      obtain ⟨s, htoken, -⟩ := hnext.token hat₁
      have hother : c₁.token.freeName? = none := by
        rw [htoken]
        rfl
      obtain ⟨rfl, rfl⟩ := typeWords_run_of_other h hother
      exact ⟨rfl, hat₁⟩
  | @more w rest hw hrest ih =>
    obtain ⟨a, r, hhead, hplain⟩ := hrest.head
    rw [List.append_assoc, List.cons_append] at hat
    rw [List.length_append, List.length_cons] at hfuel
    cases fuel with
    | zero => cases hfuel
    | succ fuel =>
      have hblank : EndsWord (' ' :: (rest ++ next)) := ⟨_, _, rfl, List.mem_cons_self⟩
      obtain ⟨c₁, hat₁, h⟩ := typeWords_run_word hw hblank hat h
      have hvisible : ∀ b s, rest ++ next = b :: s → isSqlSpace b = false := by
        intro b s hbs
        rw [hhead, List.cons_append] at hbs
        cases hbs
        exact Token.isSqlSpace_of_isPlainChar hplain
      have hmore := ih (hat₁.space hvisible) (by omega) h
      rwa [List.append_assoc, List.append_assoc, List.singleton_append] at hmore

/-- The type of a column is the whole of its words. -/
theorem columnType_run {ts : List Char} (hts : TypeWords ts) (hnext : EndsColumn next) {type : ColumnType}
    (hat : c.At pre (ts ++ next)) (h : columnType.run c = .ok (type, c')) :
    type = .ofWritten (String.ofList ts) ∧ c'.At (pre ++ ts) next := by
  obtain ⟨w, rest, hw, hrest, hsplit⟩ : ∃ w rest, TypeWord w ∧ EndsWord (rest ++ next) ∧ ts = w ++ rest := by
    cases hts with
    | one hw => exact ⟨ts, [], hw, hnext.endsWord, (List.append_nil ts).symm⟩
    | @more w rest hw _ => exact ⟨w, ' ' :: rest, hw, ⟨_, _, rfl, List.mem_cons_self⟩, rfl⟩
  have htoken : c.token.freeName? = some (String.ofList w) ∧ c.token.start = bytesOf pre := by
    rw [hsplit, List.append_assoc] at hat
    rw [hat.token (Token.piece_word hw.plain) hrest]
    exact ⟨hw.freeName? _ _ _, rfl⟩
  have hfuel : ts.length ≤ c.bound := by
    have hbound := hat.length_le_bound
    rw [List.length_append] at hbound
    omega
  simp only [columnType, peek, StateT.run_bind, StateT.run_get, pure_bind, StateT.run_pure, htoken,
    Except.bind_eq_ok_iff] at h
  obtain ⟨⟨stop, c₁⟩, hwords, ⟨sized, c₂⟩, hsymbol, h⟩ := h
  obtain ⟨rfl, hat₁⟩ := typeWords_run hts hnext hat hfuel hwords
  rw [symbol?_run_of_false (hnext.not_open hat₁)] at hsymbol
  cases hsymbol
  have hwhole : c₁.sql.toList = pre ++ (ts ++ next) := by rw [hat₁.split, List.append_assoc]
  have hslice := slice_run hwhole hts.ascii
  rw [if_neg Bool.false_ne_true, StateT.run_bind, hslice, Except.ok_bind, StateT.run_pure,
    Except.pure_eq_ok_iff] at h
  obtain ⟨rfl, rfl⟩ := Prod.mk.inj h
  exact ⟨rfl, hat₁⟩

end Parser

/-! ## Columns -/

/-- A column with a name that no null character breaks off, a type of plain words, the last of which is not
taken for that of a generated column, and no constraints. -/
structure ColumnDef.Plain (d : ColumnDef) : Prop where
  name : '\x00' ∉ d.name.toList
  type : TypeWords d.type.toList
  whole : ColumnType.dropGenerated d.type.toList = d.type.toList
  constraints : Text.trim d.constraints = ""

/-- The column that is meant. -/
def ColumnDef.spec (d : ColumnDef) : ColumnSpec := ⟨d.name, .ofWritten d.type, []⟩

def ColumnDef.text (d : ColumnDef) : List Char := quotedText d.name.toList ++ ' ' :: d.type.toList

def columnsText (ds : List ColumnDef) : List Char := [',', ' '].intercalate (ds.map ColumnDef.text)

theorem columnsText_cons_cons (d e : ColumnDef) (ds : List ColumnDef) :
    columnsText (d :: e :: ds) = d.text ++ ',' :: ' ' :: columnsText (e :: ds) := by
  rw [columnsText, List.map_cons, List.map_cons, List.intercalate_cons_cons, List.append_assoc]
  rfl

/-- The text of some columns starts with a quote. -/
theorem columnsText_head (d : ColumnDef) (ds : List ColumnDef) : ∃ r, columnsText (d :: ds) = '"' :: r := by
  cases ds with
  | nil => exact ⟨_, rfl⟩
  | cons e ds => exact ⟨_, columnsText_cons_cons d e ds⟩

namespace Parser

variable {c c' : Cursor} {pre next rest : List Char}

/-- The constraints of a column without any. A fault of the column makes no difference here. -/
theorem constraints_run_plain {defining : Option String} {keyed : Bool} {fuel : Nat} {spec s : ColumnSpec}
    (hnext : EndsColumn next) (hat : c.At pre next)
    (h : (constraints defining keyed fuel spec).run c = .ok (s, c')) : s = spec ∧ c'.At pre next := by
  have hwordless : Wordless c := wordless_of_token (hnext.not_keyword hat)
  obtain ⟨rfl, rfl⟩ := hwordless.constraints h
  exact ⟨rfl, hat⟩

theorem constraints_run_blamed {defining : Option String} {keyed : Bool} {spec s : ColumnSpec}
    {e : SqlError} (hnext : EndsColumn next) (hat : c.At pre next)
    (h : (do blame e; constraints defining keyed (← get).bound spec : Parser ColumnSpec).run c =
      .ok (s, c')) : s = spec ∧ c'.At pre next := by
  simp only [StateT.run_bind, Except.bind_eq_ok_iff] at h
  obtain ⟨⟨_, c₁⟩, hblame, ⟨now, c₂⟩, hget, h⟩ := h
  cases hblame
  cases hget
  have hblamed : Cursor.At { c with fault := some e } pre next := hat.congr rfl rfl
  exact constraints_run_plain hnext hblamed h

/-- In front of a plain column its name is the next token, and its type stands behind it. -/
theorem at_type {d : ColumnDef} (hd : d.Plain) (hat : c.At pre (d.text ++ next)) :
    c.token.name? = some d.name ∧ Cursor.At { c with tokens := c.tokens.tail }
      (pre ++ quotedText d.name.toList ++ [' ']) (d.type.toList ++ next) := by
  have hname := Token.piece_quotedText d.name.toList
  have hquoted : (' ' :: d.type.toList ++ next).head? ≠ some '"' := by simp
  have hvisible : ∀ a r, d.type.toList ++ next = a :: r → isSqlSpace a = false := by
    intro a r har
    obtain ⟨b, s, hb, hplain⟩ := hd.type.head
    rw [hb, List.cons_append] at har
    cases har
    exact Token.isSqlSpace_of_isPlainChar hplain
  rw [ColumnDef.text, List.append_assoc] at hat
  refine ⟨?_, (hat.tail hname hquoted).space hvisible⟩
  rw [hat.token hname hquoted]
  simp [Token.name?, Token.identifier?]

theorem columnSpec_run_plain {d : ColumnDef} (hd : d.Plain) (hnext : EndsColumn next) {table : String}
    {earlier : List ColumnSpec} {s : ColumnSpec} (hat : c.At pre (d.text ++ next))
    (h : (columnSpec (some table) earlier).run c = .ok (s, c')) :
    s = d.spec ∧ c'.At (pre ++ d.text) next := by
  obtain ⟨hname, hat₁⟩ := at_type hd hat
  rw [columnSpec, StateT.run_bind, Except.bind_eq_ok_iff] at h
  obtain ⟨⟨n, c₁⟩, hread, h⟩ := h
  obtain ⟨hn, rfl⟩ := name_run hread
  obtain rfl : d.name = n := Option.some.inj (hname.symm.trans hn)
  rw [StateT.run_bind, Except.bind_eq_ok_iff] at h
  obtain ⟨⟨type, c₂⟩, htype, h⟩ := h
  obtain ⟨hwritten, hat₂⟩ := columnType_run hd.type hnext hat₁ htype
  rw [hwritten, String.ofList_toList] at h
  have htext : pre ++ quotedText d.name.toList ++ [' '] ++ d.type.toList = pre ++ d.text := by
    simp [ColumnDef.text]
  rw [htext] at hat₂
  simp only at h
  split at h
  · exact constraints_run_blamed hnext hat₂ h
  · split at h
    · exact constraints_run_blamed hnext hat₂ h
    · rw [StateT.run_bind, Except.bind_eq_ok_iff] at h
      obtain ⟨⟨now, c₃⟩, hget, h⟩ := h
      cases hget
      exact constraints_run_plain hnext hat₂ h

/-- Behind a comma the next column stands. -/
theorem at_next_column {e : ColumnDef} {ds : List ColumnDef}
    (hat : c.At pre (',' :: ' ' :: (columnsText (e :: ds) ++ rest))) :
    Cursor.At { c with tokens := c.tokens.tail } (pre ++ [','] ++ [' ']) (columnsText (e :: ds) ++ rest) := by
  obtain ⟨r, hhead⟩ := columnsText_head e ds
  refine (hat.symbol_tail (by simp)).space fun a s has => ?_
  rw [hhead, List.cons_append] at has
  cases has
  decide

theorem columnSpecs_run_plain {ds : List ColumnDef} (hds : ∀ d ∈ ds, d.Plain) {table : String} {fuel : Nat}
    {earlier specs : List ColumnSpec} (hat : c.At pre (columnsText ds ++ ')' :: rest))
    (h : (columnSpecs (some table) fuel earlier).run c = .ok (specs, c')) :
    specs = earlier.reverse ++ ds.map ColumnDef.spec ∧ c'.At (pre ++ columnsText ds) (')' :: rest) := by
  induction ds generalizing c pre fuel earlier with
  | nil =>
    -- No table is read without a column: a bracket is no name.
    cases fuel with
    | zero => cases h
    | succ fuel =>
      rw [columnSpecs, StateT.run_bind, Except.bind_eq_ok_iff] at h
      obtain ⟨⟨s, c₁⟩, hs, -⟩ := h
      rw [columnSpec, StateT.run_bind, Except.bind_eq_ok_iff] at hs
      obtain ⟨⟨n, c₂⟩, hread, -⟩ := hs
      have hn := name_run_eq_ok hread
      have htoken := hat.symbol_token (by simp)
      rw [htoken] at hn
      cases hn
  | cons d ds ih =>
    obtain ⟨hd, hmore⟩ := List.forall_mem_cons.mp hds
    cases fuel with
    | zero => cases h
    | succ fuel =>
      rw [columnSpecs, StateT.run_bind, Except.bind_eq_ok_iff] at h
      obtain ⟨⟨s, c₁⟩, hs, h⟩ := h
      rw [StateT.run_bind, Except.bind_eq_ok_iff] at h
      obtain ⟨⟨comma, c₂⟩, hsymbol, h⟩ := h
      obtain ⟨hcomma, hc₂⟩ := symbol?_run hsymbol
      cases ds with
      | nil =>
        have hclose : EndsColumn (')' :: rest) := ⟨_, _, rfl, by simp⟩
        have hsingle : columnsText [d] = d.text := List.intercalate_singleton
        rw [hsingle] at hat ⊢
        obtain ⟨rfl, hat₁⟩ := columnSpec_run_plain hd hclose hat hs
        have htoken := hat₁.symbol_token (by simp)
        rw [htoken] at hcomma
        have hnone : comma = false := hcomma
        subst hnone
        obtain rfl : c₂ = c₁ := hc₂
        cases h
        exact ⟨by simp, hat₁⟩
      | cons e ds =>
        have hother : EndsColumn (',' :: ' ' :: (columnsText (e :: ds) ++ ')' :: rest)) :=
          ⟨_, _, rfl, by simp⟩
        rw [columnsText_cons_cons, List.append_assoc, List.cons_append, List.cons_append] at hat
        obtain ⟨rfl, hat₁⟩ := columnSpec_run_plain hd hother hat hs
        have htoken := hat₁.symbol_token (by simp)
        rw [htoken] at hcomma
        have hone : comma = true := hcomma
        subst hone
        obtain rfl : c₂ = { c₁ with tokens := c₁.tokens.tail } := hc₂
        obtain ⟨hspecs, hat₃⟩ := ih hmore (at_next_column hat₁) h
        refine ⟨by simpa using hspecs, ?_⟩
        simpa [columnsText_cons_cons] using hat₃

end Parser

/-! ## Tables -/

/-- The definition of a table behind its first word. -/
def TableDef.text (d : TableDef) : List Char :=
  "TABLE".toList ++ ' ' :: (quotedText d.name.toList ++ ' ' :: '(' :: (columnsText d.columns ++ [')']))

namespace Parser

variable {c c' : Cursor} {pre next rest : List Char}

theorem bracketed_run_plain {ds : List ColumnDef} (hds : ∀ d ∈ ds, d.Plain) {table : String}
    {specs : List ColumnSpec} (hat : c.At pre ('(' :: (columnsText ds ++ [')'])))
    (h : (bracketed (do columnSpecs (some table) (← get).bound [])).run c = .ok (specs, c')) :
    specs = ds.map ColumnDef.spec ∧ c'.At (pre ++ '(' :: (columnsText ds ++ [')'])) [] := by
  simp only [bracketed, StateT.run_bind, Except.bind_eq_ok_iff] at h
  obtain ⟨⟨_, c₁⟩, hopen, ⟨specs', c₂⟩, ⟨⟨now, c₃⟩, hget, hspecs⟩, ⟨_, c₄⟩, hclose, h⟩ := h
  cases hget
  cases h
  obtain ⟨-, rfl⟩ := symbol_run_eq_ok hopen
  obtain ⟨-, rfl⟩ := symbol_run_eq_ok hclose
  have hat₁ := hat.symbol_tail (by simp)
  obtain ⟨rfl, hat₂⟩ := columnSpecs_run_plain hds hat₁ hspecs
  have hat₃ := hat₂.symbol_tail (by simp)
  exact ⟨rfl, by simpa using hat₃⟩

/-- A fault does not move the reader. -/
theorem at_of_blameIf {e : Option SqlError} {u : Unit} (hat : c.At pre rest)
    (h : (blameIf e).run c = .ok (u, c')) : c'.At pre rest := by
  cases e with
  | none =>
    cases h
    exact hat
  | some e =>
    cases h
    exact hat.congr rfl rfl

/-- In front of a definition behind its first word there is the word for a table, and behind that the name
of the table. -/
theorem at_table {d : TableDef} (hat : c.At pre d.text) :
    c.token.isKeyword "TABLE" = true ∧ Cursor.At { c with tokens := c.tokens.tail }
      (pre ++ "TABLE".toList ++ [' ']) (quotedText d.name.toList ++
        ' ' :: '(' :: (columnsText d.columns ++ [')'])) := by
  have hword : PlainWord "TABLE".toList := by decide
  have hblank : EndsWord (' ' :: (quotedText d.name.toList ++ ' ' :: '(' :: (columnsText d.columns ++ [')']))) :=
    ⟨_, _, rfl, List.mem_cons_self⟩
  rw [TableDef.text] at hat
  refine ⟨?_, (hat.tail (Token.piece_word hword) hblank).space (by rintro a r ⟨⟩; decide)⟩
  rw [hat.token (Token.piece_word hword) hblank]
  exact show (Text.asciiUpper (String.ofList "TABLE".toList) == "TABLE") = true by decide

/-- In front of the name of a table there is no other word, and behind the name there are the columns. -/
theorem at_columns {name : String} (hat : c.At pre (quotedText name.toList ++ ' ' :: '(' :: rest)) :
    c.token.isKeyword "IF" = false ∧ c.token.name? = some name ∧
      Cursor.At { c with tokens := c.tokens.tail } (pre ++ quotedText name.toList ++ [' ']) ('(' :: rest) := by
  have hname := Token.piece_quotedText name.toList
  have hquoted : (' ' :: '(' :: rest).head? ≠ some '"' := by simp
  refine ⟨?_, ?_, (hat.tail hname hquoted).space (by rintro a r ⟨⟩; decide)⟩
  · rw [hat.token hname hquoted]
    rfl
  · rw [hat.token hname hquoted]
    simp [Token.name?, Token.identifier?]

theorem createTable_run_plain {d : TableDef} (hd : ∀ x ∈ d.columns, x.Plain) {s : Statement}
    (hat : c.At pre d.text) (h : (createTable fun _ => false).run c = .ok (s, c')) :
    s = .createTable d.name false (d.columns.map ColumnDef.spec) ∧ c'.At (pre ++ d.text) [] := by
  obtain ⟨-, hat₁⟩ := at_table hat
  obtain ⟨hif, hname, hat₂⟩ := at_columns hat₁
  rw [createTable, StateT.run_bind, Except.bind_eq_ok_iff] at h
  obtain ⟨⟨_, c₁⟩, htable, h⟩ := h
  obtain rfl := keyword_run_eq_ok htable
  rw [StateT.run_bind, keyword?_run_of_false hif, Except.ok_bind] at h
  simp only [Bool.false_eq_true, if_false, peek, StateT.run_bind, StateT.run_get, pure_bind, StateT.run_pure,
    Except.bind_eq_ok_iff] at h
  obtain ⟨⟨n, c₂⟩, hread, ⟨_, c₃⟩, hblame, ⟨columns, c₄⟩, hcolumns, h⟩ := h
  obtain ⟨hn, rfl⟩ := name_run hread
  obtain rfl : d.name = n := Option.some.inj (hname.symm.trans hn)
  have hat₃ := at_of_blameIf hat₂ hblame
  obtain ⟨rfl, hat₄⟩ := bracketed_run_plain hd hat₃ hcolumns
  rw [hat₄.token_nil] at h
  cases h
  refine ⟨rfl, ?_⟩
  unfold TableDef.text
  simpa using hat₄

/-- Behind the definition the text ends. -/
theorem finish_run_end {left : String} (hat : c.At pre []) (h : finish.run c = .ok (left, c')) :
    left = "" := by
  have htoken := hat.token_nil
  have hsplit : c.sql.toList = pre := by rw [hat.split, List.append_nil]
  simp only [finish, peek, StateT.run_bind, StateT.run_get, pure_bind, StateT.run_pure, htoken,
    Except.bind_eq_ok_iff] at h
  obtain ⟨⟨_, c₁⟩, htake, h⟩ := h
  obtain rfl := take_run htake
  have hend := slice_run_end (c := { c with tokens := c.tokens.tail }) c.sql.utf8ByteSize
  rw [hsplit] at hend
  rw [hend] at h
  cases h
  rfl

end Parser

/-- A table of plain columns, with a name that no null character breaks off. -/
structure TableDef.Plain (d : TableDef) : Prop where
  name : '\x00' ∉ d.name.toList
  columns : ∀ x ∈ d.columns, x.Plain

theorem ColumnDef.toList_sql {d : ColumnDef} (h : Text.trim d.constraints = "") : d.sql.toList = d.text := by
  have hspace : " ".toList = [' '] := by decide
  rw [ColumnDef.sql]
  simp only [h, if_true, String.toList_append, Token.toList_quoteName, ColumnDef.text, hspace]
  simp only [List.append_assoc, List.singleton_append, String.toList_empty, List.append_nil]

theorem TableDef.toList_createSql {d : TableDef} (h : ∀ x ∈ d.columns, Text.trim x.constraints = "") :
    d.createSql.toList = "CREATE".toList ++ ' ' :: d.text := by
  have hcomma : ", ".toList = [',', ' '] := by decide
  have hcolumns : (", ".intercalate (d.columns.map ColumnDef.sql)).toList = columnsText d.columns := by
    have hmap : (d.columns.map ColumnDef.sql).map String.toList = d.columns.map ColumnDef.text := by
      rw [List.map_map]
      exact List.map_congr_left fun x hx => ColumnDef.toList_sql (h x hx)
    rw [String.toList_intercalate, hmap, hcomma, columnsText]
  have hcreate : "CREATE TABLE ".toList = "CREATE".toList ++ ' ' :: ("TABLE".toList ++ [' ']) := by decide
  have hopen : " (".toList = [' ', '('] := by decide
  have hclose : ")".toList = [')'] := by decide
  unfold TableDef.createSql TableDef.text
  simp only [String.toList_append, hcolumns, Token.toList_quoteName, hcreate, hopen, hclose, List.append_assoc,
    List.cons_append, List.nil_append]

theorem null_notMem_quotedText {name : List Char} (h : '\x00' ∉ name) : '\x00' ∉ quotedText name := by
  have hdoubled : '\x00' ∉ Token.doubled name := by
    rw [Token.doubled, List.mem_flatMap]
    rintro ⟨c, hc, hnull⟩
    split at hnull
    · exact absurd hnull (by decide)
    · rw [List.mem_singleton.mp hnull] at h
      exact h hc
  simp [quotedText, hdoubled]

theorem TypeWords.null_notMem {ts : List Char} (h : TypeWords ts) : '\x00' ∉ ts := by
  have hword : ∀ {w}, TypeWord w → '\x00' ∉ w := by
    intro w hw hnull
    exact absurd (hw.plain.chars _ hnull) (by decide)
  induction h with
  | one hw => exact hword hw
  | more hw _ ih => simp [hword hw, ih]

theorem null_notMem_columnsText {ds : List ColumnDef} (h : ∀ d ∈ ds, d.Plain) :
    '\x00' ∉ columnsText ds := by
  have htext : ∀ d ∈ ds, '\x00' ∉ d.text := by
    intro d hd
    simp [ColumnDef.text, null_notMem_quotedText (h d hd).name, (h d hd).type.null_notMem]
  induction ds with
  | nil => nofun
  | cons d ds ih =>
    obtain ⟨hd, hmore⟩ := List.forall_mem_cons.mp htext
    have hrest := ih (fun e he => h e (List.mem_cons_of_mem d he)) hmore
    cases ds with
    | nil =>
      have hsingle : columnsText [d] = d.text := List.intercalate_singleton
      rw [hsingle]
      exact hd
    | cons e ds =>
      rw [columnsText_cons_cons]
      simp [hd, hrest]

namespace TableDef

variable {d : TableDef}

theorem Plain.null_notMem (hd : d.Plain) : '\x00' ∉ d.createSql.toList := by
  rw [toList_createSql fun x hx => (hd.columns x hx).constraints]
  unfold text
  simp [null_notMem_quotedText hd.name, null_notMem_columnsText hd.columns]

/-- The reader starts in front of the text. -/
theorem Plain.at_ofText (hd : d.Plain) :
    (Cursor.ofText d.createSql).At [] ("CREATE".toList ++ ' ' :: d.text) := by
  have hchars := toList_createSql fun x hx => (hd.columns x hx).constraints
  obtain ⟨t, more, htokens, -⟩ := tokens_createSql d
  have hwhole : Token.visible d.createSql.toList = d.createSql.toList :=
    Token.visible_of_notMem hd.null_notMem
  have hkept : (Cursor.ofText d.createSql).tokens = Token.ofText d.createSql := by
    rw [Cursor.ofText, htokens]
    rfl
  refine ⟨hchars, d.createSql.toList.length + 1, ?_, ?_⟩
  · rw [hchars]
    exact Nat.lt_succ_self _
  · rw [hkept, Token.ofText_eq, hwhole, ← hchars]
    rfl

/-- The first word of the text, and the definition behind it. -/
theorem Plain.at_definition (hd : d.Plain) : (Cursor.ofText d.createSql).token.kind = .word "CREATE" ∧
    ∃ pre, Cursor.At { Cursor.ofText d.createSql with tokens := (Cursor.ofText d.createSql).tokens.tail }
      pre d.text := by
  have hat := hd.at_ofText
  have hword : PlainWord "CREATE".toList := by decide
  have hblank : EndsWord (' ' :: d.text) := ⟨_, _, rfl, List.mem_cons_self⟩
  refine ⟨?_, _, (hat.tail (Token.piece_word hword) hblank).space (by rintro a r ⟨⟩; decide)⟩
  rw [hat.token (Token.piece_word hword) hblank, String.ofList_toList]

/-- What is read of the text of a plain definition. -/
theorem Plain.parse_createSql (hd : d.Plain) {r : Statement.Reading}
    (h : Statement.parse (fun _ => false) d.createSql = .ok r) :
    r.statement = .createTable d.name false (d.columns.map ColumnDef.spec) ∧ r.rest = "" := by
  obtain ⟨hkind, pre, hat₁⟩ := hd.at_definition
  have hcreate : (Cursor.ofText d.createSql).token.isKeyword "CREATE" = true := by
    rw [Token.isKeyword, hkind]
    decide
  have hstatement := Parser.statement_run_create (fun _ => false) hcreate rfl
  simp only [Statement.parse, hkind, StateT.run_bind, hstatement, Except.bind_eq_ok_iff] at h
  obtain ⟨⟨⟨s, left⟩, c₁⟩, ⟨⟨s', c₂⟩, hs, ⟨left', c₃⟩, hleft, hpure⟩, h⟩ := h
  cases hpure
  cases h
  obtain ⟨rfl, hat₂⟩ := Parser.createTable_run_plain hd.columns hat₁ hs
  exact ⟨rfl, Parser.finish_run_end hat₂ hleft⟩

end TableDef

/-! ## The types of the columns -/

theorem isBlank_of_isPlainChar {c : Char} (h : Token.isPlainChar c = true) : Text.isBlank c = false := by
  have hrange := Token.toNat_of_isPlainChar h
  simp [Text.isBlank]
  omega

theorem TypeWords.last {ts : List Char} (h : TypeWords ts) :
    ∃ c r, ts.reverse = c :: r ∧ Token.isPlainChar c = true := by
  induction h with
  | @one w hw =>
    obtain ⟨a, r, hhead, -⟩ := hw.plain.head
    cases hreverse : w.reverse with
    | nil =>
      rw [List.reverse_eq_nil_iff, hhead] at hreverse
      cases hreverse
    | cons c s =>
      have hmem : c ∈ w := List.mem_reverse.mp (hreverse ▸ List.mem_cons_self)
      exact ⟨c, s, rfl, hw.plain.chars c hmem⟩
  | @more w rest _ _ ih =>
    obtain ⟨c, s, hreverse, hc⟩ := ih
    exact ⟨c, s ++ ' ' :: w.reverse, by simp [hreverse], hc⟩

theorem TypeWords.trim {type : String} (h : TypeWords type.toList) : Text.trim type = type := by
  obtain ⟨a, r, hhead, ha⟩ := h.head
  obtain ⟨b, s, hlast, hb⟩ := h.last
  have hstart : Text.trimStartChars type.toList = type.toList := by
    rw [hhead, Text.trimStartChars, List.dropWhile_cons, isBlank_of_isPlainChar ha,
      if_neg Bool.false_ne_true]
  have hend : Text.trimStartChars type.toList.reverse = type.toList.reverse := by
    rw [hlast, Text.trimStartChars, List.dropWhile_cons, isBlank_of_isPlainChar hb,
      if_neg Bool.false_ne_true]
  rw [Text.trim, Text.trimChars, hstart, hend, List.reverse_reverse, String.ofList_toList]

theorem isQuote_of_isPlainChar {c : Char} (h : Token.isPlainChar c = true) :
    ColumnType.isQuote c = false := by
  have hne : ∀ d, Token.isPlainChar d = false → (c == d) = false :=
    fun d hd => beq_eq_false_iff_ne.mpr (Token.ne_of_isPlainChar h hd)
  have hback : (c.toNat == 0x60) = false := by
    apply beq_eq_false_iff_ne.mpr
    intro hc
    have hgrave : c = Char.ofNat 0x60 := by rw [← hc, Char.ofNat_toNat]
    rw [hgrave] at h
    exact absurd h (by decide)
  rw [ColumnType.isQuote, hne '"' (by decide), hne '\'' (by decide), hne '[' (by decide), hback]
  rfl

/-- The type that plain words are read as shows them, but for the case of their letters. -/
theorem text_ofWritten {type : String} (h : TypeWords type.toList)
    (hwhole : ColumnType.dropGenerated type.toList = type.toList) :
    Text.sameIgnoringCase (Text.trim (ColumnType.ofWritten type).text) (Text.trim type) = true := by
  obtain ⟨a, r, hhead, ha⟩ := h.head
  have hquote := isQuote_of_isPlainChar ha
  have hunwrap : ColumnType.unwrap type.toList = type.toList := by
    rw [hhead]
    simp [ColumnType.unwrap, hquote]
  have hunquote : ColumnType.unquote type.toList = type.toList := by
    rw [hhead]
    simp [ColumnType.unquote, hquote]
  have hfilled : type.toList.isEmpty = false := by
    rw [hhead]
    rfl
  unfold ColumnType.ofWritten
  simp only [hwhole, hunwrap, ite_self, String.ofList_toList]
  split
  · next t ht =>
    have htrim : ∀ t ∈ ColumnType.usualTypes, Text.trim t.text = t.text := by decide
    rw [htrim t (List.mem_of_find?_eq_some ht), h.trim]
    simpa using List.find?_some ht
  · rw [hfilled, if_neg Bool.false_ne_true, hunquote]
    simp only [String.ofList_toList]
    exact Text.sameIgnoringCase_refl _

/-- The text of a plain definition is read as it is meant. -/
theorem TableDef.Plain.faithful {d : TableDef} (hd : d.Plain) : d.Faithful := by
  refine ⟨lone_of_rest fun r hr => ?_, fun r columns hr hcreate => ?_⟩
  · cases hparse : Statement.parse (fun _ => false) d.createSql with
    | error e =>
      rw [hparse] at hr
      cases hr
    | ok r' =>
      rw [hparse] at hr
      cases hr
      exact (hd.parse_createSql hparse).2
  · rw [(hd.parse_createSql hr).1] at hcreate
    cases hcreate
    intro c hc
    have hmem : Plan.column c.spec ∈ (Plan.newTable d.name (d.columns.map ColumnDef.spec)).columns :=
      List.mem_map_of_mem (List.mem_map_of_mem hc)
    have hname : (Plan.column c.spec).name = c.name := rfl
    have htype : (Plan.column c.spec).type.text = (ColumnType.ofWritten c.type).text := rfl
    refine ⟨Plan.column c.spec, hmem, ?_, ?_⟩
    · rw [hname]
      exact Text.sameIgnoringCase_refl c.name
    · rw [htype]
      exact text_ofWritten (hd.columns c hc).type (hd.columns c hc).whole

end GuestHost.Store
