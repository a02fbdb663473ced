import GuestHost.Proofs.Value.Listing
import GuestHost.Serve.Message
import Mathlib.Data.List.Forall2
import Mathlib.Data.List.TakeWhile
/-!
Requests as a handler is given them. Form data lists pairs of texts; of the pairs of one name the last
counts, in the place of the first. The parameters of the path come behind those of the query and so count
before them, however the query spells their names.
-/
namespace GuestHost

namespace Serve.Form

/-- A percent sign with two hexadecimal digits behind it. -/
def StartsEscape : List UInt8 → Prop
  | a :: b :: _ => (hexByte? a).isSome ∧ (hexByte? b).isSome
  | _ => False

/-- The bytes that escaped bytes stand for: an escape for one byte, `+` for a space, and all else for
itself, a percent sign that starts no escape included. -/
inductive Unescapes : List UInt8 → List UInt8 → Prop where
  | nil : Unescapes [] []
  | escape {a b : UInt8} {x y : Nat} {rest raw : List UInt8} (ha : hexByte? a = some x)
    (hb : hexByte? b = some y) (h : Unescapes rest raw) :
    Unescapes (37 :: a :: b :: rest) ((16 * x + y).toUInt8 :: raw)
  | percent {rest raw : List UInt8} (hplain : ¬StartsEscape rest) (h : Unescapes rest raw) :
    Unescapes (37 :: rest) (37 :: raw)
  | space {rest raw : List UInt8} (h : Unescapes rest raw) : Unescapes (43 :: rest) (32 :: raw)
  | plain {c : UInt8} {rest raw : List UInt8} (hpercent : c ≠ 37) (hplus : c ≠ 43)
    (h : Unescapes rest raw) : Unescapes (c :: rest) (c :: raw)

/-- The text that escaped bytes spell; where they are no text, its replacement. -/
def Spells (bytes : List UInt8) (s : String) : Prop :=
  ∃ raw, Unescapes bytes raw ∧ s = Text.textLossy raw

/-- The pair of a piece: what stands before its first `=` and behind it, or an empty text if it has none. -/
inductive PairOf : List UInt8 → String × String → Prop where
  | bare {name : List UInt8} {n : String} (hname : 61 ∉ name) (hn : Spells name n) :
    PairOf name (n, "")
  | bound {name value : List UInt8} {n v : String} (hname : 61 ∉ name) (hn : Spells name n)
    (hv : Spells value v) : PairOf (name ++ 61 :: value) (n, v)

/-- The pairs that form data lists: of the pieces between ampersands those that are not empty. -/
def Lists (bytes : List UInt8) (pairs : List (String × String)) : Prop :=
  ∃ pieces : List (List UInt8), [38].intercalate pieces = bytes ∧ (∀ p ∈ pieces, 38 ∉ p) ∧
    List.Forall₂ PairOf (pieces.filter (· ≠ [])) pairs

theorem unescapes_unescape (bytes : List UInt8) : Unescapes bytes (unescape bytes) := by
  fun_induction unescape bytes with
  | case1 => exact .nil
  | case2 a b rest y x hx hy ih => exact .escape hy hx ih
  | case3 a b rest hno ih =>
    apply Unescapes.percent _ ih
    rintro ⟨hx, hy⟩
    obtain ⟨x, hx⟩ := Option.isSome_iff_exists.mp hx
    obtain ⟨y, hy⟩ := Option.isSome_iff_exists.mp hy
    exact hno x y hx hy
  | case4 rest ih => exact .space ih
  | case5 c rest hno hplus ih =>
    by_cases hpercent : c = 37
    · subst hpercent
      apply Unescapes.percent _ ih
      intro hstarts
      match rest, hstarts with
      | a :: b :: more, _ => exact hno a b more rfl rfl
    · exact .plain hpercent hplus ih

/-- A percent sign that starts no escape stands for itself. -/
theorem unescape_percent {rest : List UInt8} (h : ¬StartsEscape rest) :
    unescape (37 :: rest) = 37 :: unescape rest := by
  match rest, h with
  | [], _ | [a], _ => simp [unescape]
  | a :: b :: more, h =>
    rw [unescape]
    split
    · next hx hy => exact absurd ⟨by simp [hx], by simp [hy]⟩ h
    · rfl

theorem Unescapes.eq {bytes raw : List UInt8} (h : Unescapes bytes raw) : unescape bytes = raw := by
  induction h with
  | nil => rw [unescape]
  | escape ha hb _ ih =>
    rw [unescape, ih]
    simp [ha, hb]
  | percent hplain _ ih => rw [unescape_percent hplain, ih]
  | space _ ih => rw [unescape, ih]
  | plain hpercent hplus _ ih =>
    rw [unescape, ih]
    · rintro _ _ _ rfl
      exact absurd rfl hpercent
    · exact hplus

theorem spells_iff {bytes : List UInt8} {s : String} : Spells bytes s ↔ s = decodeText bytes := by
  constructor
  · rintro ⟨raw, hraw, rfl⟩
    rw [decodeText, hraw.eq]
  · rintro rfl
    exact ⟨unescape bytes, unescapes_unescape bytes, rfl⟩

theorem decodePair_bare {name : List UInt8} (h : 61 ∉ name) :
    decodePair name = (decodeText name, "") := by
  have hall : ∀ c ∈ name, decide (c ≠ 61) = true := by
    intro c hc
    simpa using ne_of_mem_of_not_mem hc h
  have hempty : decodeText [] = "" := by
    simp [decodeText, unescape, Text.textLossy, Text.decodeLossy]
  rw [decodePair, List.takeWhile_eq_self_iff.mpr hall, List.dropWhile_eq_nil_iff.mpr hall]
  exact congrArg _ hempty

theorem decodePair_bound {name : List UInt8} (h : 61 ∉ name) (value : List UInt8) :
    decodePair (name ++ 61 :: value) = (decodeText name, decodeText value) := by
  have hall : ∀ c ∈ name, decide (c ≠ 61) = true := by
    intro c hc
    simpa using ne_of_mem_of_not_mem hc h
  rw [decodePair, List.takeWhile_append_of_pos hall, List.dropWhile_append_of_pos hall]
  simp

theorem pairOf_iff {piece : List UInt8} {pair : String × String} :
    PairOf piece pair ↔ decodePair piece = pair := by
  constructor
  · intro h
    cases h with
    | bare hname hn => rw [decodePair_bare hname, spells_iff.mp hn]
    | bound hname hn hv => rw [decodePair_bound hname, spells_iff.mp hn, spells_iff.mp hv]
  · rintro rfl
    by_cases hequals : 61 ∈ piece
    · obtain ⟨name, value, rfl, hname⟩ := List.eq_append_cons_of_mem hequals
      rw [decodePair_bound hname]
      exact .bound hname (spells_iff.mpr rfl) (spells_iff.mpr rfl)
    · rw [decodePair_bare hequals]
      exact .bare hequals (spells_iff.mpr rfl)

theorem splitBytes_eq (sep : UInt8) (bytes : List UInt8) : splitBytes sep bytes = bytes.splitOn sep := by
  induction bytes with
  | nil => simp [splitBytes]
  | cons b rest ih =>
    rw [splitBytes, List.splitOn_cons_eq_if_modifyHead, ih]
    simp only [beq_iff_eq]
    split
    · rfl
    · cases hsplit : rest.splitOn sep with
      | nil => exact absurd hsplit (List.splitOn_ne_nil sep rest)
      | cons piece pieces => rfl

theorem notMem_of_mem_splitOn {sep : UInt8} {bytes piece : List UInt8} (h : piece ∈ bytes.splitOn sep) :
    sep ∉ piece := by
  induction bytes generalizing piece with
  | nil =>
    simp only [List.splitOn_nil, List.mem_singleton] at h
    simp [h]
  | cons b rest ih =>
    rw [List.splitOn_cons_eq_if_modifyHead] at h
    split at h
    · rcases List.mem_cons.mp h with rfl | h
      · simp
      · exact ih h
    · next hb =>
      obtain ⟨first, more, hsplit⟩ := List.exists_cons_of_ne_nil (List.splitOn_ne_nil sep rest)
      rw [hsplit] at h ih
      rcases List.mem_cons.mp h with rfl | h
      · have hne : sep ≠ b := by
          rintro rfl
          simp at hb
        simp [hne, ih List.mem_cons_self]
      · exact ih (List.mem_cons_of_mem first h)

theorem forall₂_pairOf_iff {pieces : List (List UInt8)} {pairs : List (String × String)} :
    List.Forall₂ PairOf pieces pairs ↔ pieces.map decodePair = pairs := by
  have hdecoded : PairOf = fun piece pair => decodePair piece = pair := by
    funext piece pair
    exact propext pairOf_iff
  rw [← List.forall₂_eq_eq_eq, List.forall₂_map_left_iff, hdecoded]

/-- Form data is decoded to the pairs that it lists, and lists no others. -/
theorem lists_iff {bytes : List UInt8} {pairs : List (String × String)} :
    Lists bytes pairs ↔ decode bytes = pairs := by
  constructor
  · rintro ⟨pieces, rfl, hfree, h⟩
    rw [decode, splitBytes_eq, ← forall₂_pairOf_iff.mp h]
    by_cases hnone : pieces = []
    · subst hnone
      rfl
    · rw [List.splitOn_intercalate 38 hfree hnone]
  · intro h
    refine ⟨bytes.splitOn 38, List.intercalate_splitOn 38, fun p => notMem_of_mem_splitOn, ?_⟩
    rwa [forall₂_pairOf_iff, ← splitBytes_eq]

end Serve.Form

/-! ### Requests -/

namespace Serve

open Members

/-- Texts under names. -/
def texts (pairs : List (String × String)) : List (String × Value) :=
  pairs.map fun p => (p.1, .string p.2)

/-- The pairs of the query. -/
def Request.queried (r : Request) : List (String × String) :=
  Form.decode (Text.encode (r.query.getD ""))

/-- Blanks aside, the content type starts with that of form data. -/
def Request.PostsForm (r : Request) : Prop :=
  ∃ blanks rest : List Char, (∀ c ∈ blanks, Text.isBlank c = true) ∧
    r.contentType.map String.toList = some (blanks ++ formType.toList ++ rest)

theorem isForm_iff (r : Request) : isForm r = true ↔ r.PostsForm := by
  unfold isForm Request.PostsForm
  cases r.contentType with
  | none => simp
  | some ct =>
    simp only [Option.map_some, Option.some_inj, List.isPrefixOf_iff_prefix]
    constructor
    · rintro ⟨rest, hrest⟩
      refine ⟨ct.toList.takeWhile Text.isBlank, rest, fun c => List.mem_takeWhile_imp, ?_⟩
      rw [List.append_assoc, hrest]
      exact List.takeWhile_append_dropWhile.symm
    · rintro ⟨blanks, rest, hblanks, hct⟩
      have htype : Text.trimStartChars (formType.toList ++ rest) = formType.toList ++ rest := by
        simp [Text.trimStartChars, formType, Text.isBlank]
      refine ⟨rest, ?_⟩
      rw [hct, List.append_assoc, Text.trimStartChars, List.dropWhile_append_of_pos hblanks]
      exact htype.symm

theorem formMembers_eq (bytes : List UInt8) : formMembers bytes = listing (texts (Form.decode bytes)) :=
  ofPairs_eq_listing _

theorem overlay_formMembers (bytes : List UInt8) (params : List (String × String)) :
    overlay (formMembers bytes) (texts params) = listing (texts (Form.decode bytes ++ params)) := by
  rw [formMembers, overlay_ofPairs, texts, texts, List.map_append]

/-- The parameters come behind the pairs of the query. -/
theorem requestValue_eq (params : List (String × String)) (r : Request) :
    requestValue params r = .object [("path", .string r.path), ("method", .string r.method),
      ("query", .object (listing (texts (r.queried ++ params)))),
      ("form", .object (if isForm r then listing (texts (Form.decode r.body)) else []))] := by
  have hquery : overlay (formMembers (Text.encode (r.query.getD ""))) (texts params) =
      listing (texts (r.queried ++ params)) := overlay_formMembers _ _
  have hempty : formMembers (Text.encode "") = [] := by
    simp [formMembers, Form.decode, Text.encode, Form.splitBytes, ofPairs, overlay]
  rw [← hquery, ← formMembers_eq, requestValue]
  cases r.query with
  | none =>
    rw [Option.getD_none, hempty]
    rfl
  | some q => rfl

/-- What a handler finds under a name in the query of its request. -/
def queryMember? (name : String) (request : Value) : Option Value :=
  match request with
  | .object members =>
    match get? "query" members with
    | some (.object query) => get? name query
    | _ => none
  | _ => none

/-- A request is an object of four members in a fixed order. Its query has the names of the decoded pairs in
the order in which they come first and the other names of parameters behind them, each bound to its last
parameter or else its last pair; so what is bound by the path is the same under every query and body. Its
form lists the pairs of the body in this way if form data is posted, and is empty otherwise. -/
theorem request_overlaid (params : List (String × String)) (r : Request) :
    ∃ (queried posted : List (String × String)) (query form : Members Value),
      Form.Lists (Text.encode (r.query.getD "")) queried ∧ Form.Lists r.body posted ∧
      requestValue params r = .object [("path", .string r.path), ("method", .string r.method),
        ("query", .object query), ("form", .object form)] ∧
      keys query = firstNames queried ++
        firstNames (params.filter fun p => p.1 ∉ firstNames queried) ∧
      (∀ name, get? name query = ((last? name params).or (last? name queried)).map .string) ∧
      (r.PostsForm → keys form = firstNames posted ∧
        ∀ name, get? name form = (last? name posted).map .string) ∧
      (¬r.PostsForm → form = []) ∧
      ∀ name v, last? name params = some v →
        ∀ r' : Request, queryMember? name (requestValue params r') = some (.string v) := by
  have hvalue : ∀ (pairs : List (String × String)) name,
      get? name (listing (texts pairs)) = (last? name pairs).map .string := fun pairs name => by
    rw [get?_listing, texts, last?_map]
  have hnames : ∀ pairs : List (String × String), keys (listing (texts pairs)) = firstNames pairs :=
    fun pairs => by rw [keys_listing, texts, firstNames_map]
  refine ⟨r.queried, Form.decode r.body, _, _, Form.lists_iff.mpr rfl, Form.lists_iff.mpr rfl,
    requestValue_eq params r, ?_, ?_, ?_, ?_, ?_⟩
  · rw [hnames, firstNames_append_sets]
  · intro name
    rw [hvalue, last?_append_sets]
  · intro hform
    rw [if_pos ((isForm_iff r).mpr hform)]
    exact ⟨hnames _, hvalue _⟩
  · intro hform
    rw [if_neg (mt (isForm_iff r).mp hform)]
  · intro name v hv r'
    rw [requestValue_eq]
    change get? name (listing (texts (r'.queried ++ params))) = _
    rw [hvalue, last?_append_sets, hv]
    rfl

/-- A query that spells the name of a parameter with an escape. -/
example : queryMember? "id" (requestValue [("id", "abc")]
    { method := "GET", path := "/items/abc", query := some "i%64=zzz&q=a+b&id" }) =
      some (.string "abc") := by cbv

end Serve
end GuestHost
