import GuestHost.Proofs.Json.DocumentText
import GuestHost.Proofs.Json.Nesting
import GuestHost.Proofs.Schema.Describing
/-!
Schemas read back from their descriptions. A reader asks for members by their names, so whichever way a
schema is described, and however that is spelled, it is the schema that is read. The outermost description
is read from the text piece by piece, with its tag taken out wherever it stands.
-/
namespace GuestHost.Schema

open Json (Document Misfit readText readBoolean readInteger readFloat readOptional)

/-! ### Members by their names -/

theorem map_under (name : String) (ms : List (String × Document)) :
    (under name ms).map (fun d => (name, d)) = ms.filter fun m => m.1 = name := by
  induction ms with
  | nil => rfl
  | cons m rest ih =>
    obtain ⟨key, d⟩ := m
    by_cases hkey : key = name
    · subst hkey
      rw [under_cons_self, List.map_cons, ih, List.filter_cons_of_pos (by simp)]
    · rw [under_cons_of_ne hkey, ih, List.filter_cons_of_neg (by simpa using hkey)]

/-- What a reader makes of the only thing of a name; if there is none, what was there before stays. -/
def Fills {α : Type} (read : Document → Except Misfit α) (ds : List Document) (old new : Option α) : Prop :=
  ds = [] ∧ new = old ∨ old = none ∧ ∃ d a, ds = [d] ∧ read d = .ok a ∧ new = some a

section

variable {α : Type} {read : Document → Except Misfit α}

theorem Fills.of_nil {old new : Option α} (h : Fills read [] old new) : new = old := by
  rcases h with ⟨-, hnew⟩ | ⟨-, d, a, hds, -⟩
  · exact hnew
  · cases hds

theorem fills_one {d : Document} {a : α} (h : read d = .ok a) : Fills read [d] none (some a) :=
  .inr ⟨rfl, d, a, rfl, h, rfl⟩

/-- The first thing of a name is read, and it has to be the last one. -/
theorem Fills.of_cons {d : Document} {ds : List Document} {old new : Option α}
    (h : Fills read (d :: ds) old new) : old = none ∧ ∃ a, read d = .ok a ∧ Fills read ds (some a) new := by
  rcases h with ⟨hds, -⟩ | ⟨hold, d', a, hds, hread, hnew⟩
  · cases hds
  · cases hds
    exact ⟨hold, a, hread, .inl ⟨rfl, hnew⟩⟩

theorem Fills.under_cons {name key : String} {d : Document} {ms : List (String × Document)}
    {old new : Option α} (h : Fills read (under name ((key, d) :: ms)) old new) (hne : key ≠ name) :
    Fills read (under name ms) old new := by
  rwa [under_cons_of_ne hne] at h

/-- Something optional is read as it is given. -/
theorem fills_given {write : α → Document} (hread : ∀ a, readOptional read (write a) = .ok (some a))
    {given : Option α} {ds : List Document} (h : Given (given.map write) ds) :
    ∃ new, Fills (readOptional read) ds none new ∧ new.getD none = given := by
  cases given with
  | some a =>
    obtain rfl : ds = [write a] := h
    exact ⟨_, fills_one (hread a), rfl⟩
  | none =>
    rcases h with rfl | rfl
    · exact ⟨none, .inl ⟨rfl, rfl⟩, rfl⟩
    · exact ⟨some none, fills_one rfl, rfl⟩

end

theorem ofName_name (tag : Tag) : Tag.ofName tag.name = .ok tag := by cases tag <;> rfl

theorem tagAmong_eq {ms : List (String × Document)} {found : Option Tag} {tag : Tag}
    (h : Fills Tag.ofDocument (under "type" ms) found (some tag)) : tagAmong found ms = .ok tag := by
  induction ms generalizing found with
  | nil =>
    rw [tagAmong, ← h.of_nil]
    rfl
  | cons m rest ih =>
    obtain ⟨key, d⟩ := m
    rw [tagAmong]
    by_cases hkey : key = "type"
    · subst hkey
      rw [under_cons_self] at h
      obtain ⟨rfl, t, ht, h⟩ := h.of_cons
      rw [if_pos rfl, once, ht]
      exact ih h
    · rw [if_neg hkey]
      exact ih (h.under_cons hkey)

/-- The names of the members that mean something under a tag. -/
def partNames : Tag → List String
  | .string | .boolean | .integer | .number => ["literal"]
  | .array | .tuple => ["items"]
  | .union => ["variants"]
  | .object => ["fields", "index"]
  | .json | .undefined | .null => []

section

variable {tag : Tag} {p : Parts} {ms : List (String × Document)}

theorem readParts_cons_of_notMem {key : String} (h : key ∉ partNames tag) (p : Parts) (d : Document)
    (ms : List (String × Document)) : readParts tag p ((key, d) :: ms) = readParts tag p ms := by
  rw [readParts.eq_def]
  simp only
  split
  all_goals first | rfl | exact absurd (by decide) h

/-- Members of other names can be left out. -/
theorem readParts_filter (keep : String → Bool) (h : ∀ name ∈ partNames tag, keep name = true) (p : Parts)
    (ms : List (String × Document)) :
    readParts tag p (ms.filter fun m => keep m.1) = readParts tag p ms := by
  induction ms generalizing p with
  | nil => rfl
  | cons m rest ih =>
    obtain ⟨key, d⟩ := m
    by_cases hkeep : keep key = true
    · rw [List.filter_cons_of_pos (by exact hkeep)]
      unfold readParts
      simp only [ih]
    · rw [List.filter_cons_of_neg (by exact hkeep), ih,
        readParts_cons_of_notMem fun hmem => hkeep (h key hmem)]

theorem readParts_of_no_name (h : partNames tag = []) (p : Parts) (ms : List (String × Document)) :
    readParts tag p ms = .ok p := by
  rw [← readParts_filter (fun _ => false) (by simp [h]) p ms, List.filter_false, readParts]

/-- Under a tag with one name, only what stands under it counts. -/
theorem readParts_of_name {α : Type} {read : Document → Except Misfit α} {name : String}
    (hname : partNames tag = [name]) {fill : α → Parts}
    (hfill : ∀ {d a}, read d = .ok a → readParts tag {} [(name, d)] = .ok (fill a)) {new : Option α}
    (h : Fills read (under name ms) none new) : readParts tag {} ms = .ok (new.elim {} fill) := by
  rw [← readParts_filter (fun key => key = name) (by simp [hname]) {} ms, ← map_under]
  rcases h with ⟨hds, rfl⟩ | ⟨-, d, a, hds, hread, rfl⟩
  · rw [hds, List.map_nil, readParts]
    rfl
  · rw [hds]
    exact hfill hread

/-- The list of schemas in a document. -/
def schemasOf : Document → Except Misfit (List Schema)
  | .array ds => ofDocuments ds
  | d => Json.wrongType d "a sequence"

theorem readParts_items {d : Document} {s : Schema} (hd : ofDocument d = .ok s) :
    readParts .array {} [("items", d)] = .ok { item := some s } := by
  rw [readParts]
  simp only [once, hd, Except.ok_bind, readParts]

theorem readParts_list {tag : Tag} {name : String} {d : Document} {ss : List Schema}
    (htag : tag = .tuple ∧ name = "items" ∨ tag = .union ∧ name = "variants")
    (hd : schemasOf d = .ok ss) : readParts tag {} [(name, d)] = .ok { list := some ss } := by
  cases d with
  | array ds =>
    have hds : ofDocuments ds = .ok ss := hd
    rcases htag with ⟨rfl, rfl⟩ | ⟨rfl, rfl⟩
    all_goals
      rw [readParts]
      simp only [once, hds, Except.ok_bind, readParts]
  | _ => cases hd

/-- The list of fields in a document. -/
def fieldsOf : Document → Except Misfit (List (String × Schema))
  | .array ds => ofFields ds
  | d => Json.wrongType d "a sequence"

/-- The index in a document, which may be null. -/
def indexOf : Document → Except Misfit (Option Schema)
  | .null => .ok none
  | d => (ofDocument d).map some

theorem readParts_fields {d : Document} {fs : List (String × Schema)} (hp : p.fields = none)
    (hd : fieldsOf d = .ok fs) :
    readParts .object p (("fields", d) :: ms) = readParts .object { p with fields := some fs } ms := by
  cases d with
  | array ds =>
    have hds : ofFields ds = .ok fs := hd
    rw [readParts, hp]
    simp only [once, hds, Except.ok_bind]
  | _ => cases hd

theorem readParts_index {d : Document} {index : Option Schema} (hp : p.index = none)
    (hd : indexOf d = .ok index) :
    readParts .object p (("index", d) :: ms) = readParts .object { p with index := some index } ms := by
  unfold indexOf at hd
  split at hd
  · cases hd
    rw [readParts, hp]
    rfl
  · obtain ⟨s, hs, rfl⟩ := Except.map_eq_ok_iff.mp hd
    rw [readParts.eq_def]
    simp only [hp, once, hd, Except.ok_bind]

/-- The two parts of an object do not disturb each other, whichever comes first. -/
theorem readParts_object {fs : Option (List (String × Schema))} {index : Option (Option Schema)}
    (hfields : Fills fieldsOf (under "fields" ms) p.fields fs)
    (hindex : Fills indexOf (under "index" ms) p.index index) :
    readParts .object p ms = .ok { p with fields := fs, index := index } := by
  induction ms generalizing p with
  | nil =>
    rw [hfields.of_nil, hindex.of_nil, readParts]
  | cons m rest ih =>
    obtain ⟨key, d⟩ := m
    by_cases hkey : key = "fields"
    · subst hkey
      rw [under_cons_self] at hfields
      obtain ⟨hnone, fs', hread, hfields⟩ := hfields.of_cons
      rw [readParts_fields hnone hread]
      exact ih hfields (hindex.under_cons (by decide))
    · by_cases hkey' : key = "index"
      · subst hkey'
        rw [under_cons_self] at hindex
        obtain ⟨hnone, index', hread, hindex⟩ := hindex.of_cons
        rw [readParts_index hnone hread]
        exact ih (hfields.under_cons (by decide)) hindex
      · rw [readParts_cons_of_notMem (by simp [partNames, hkey, hkey'])]
        exact ih (hfields.under_cons hkey) (hindex.under_cons hkey')

theorem ofFieldMembers_eq {found : Option String} {foundSchema : Option Schema} {name : String} {s : Schema}
    (hname : Fills readText (under "name" ms) found (some name))
    (hs : Fills ofDocument (under "schema" ms) foundSchema (some s)) :
    ofFieldMembers found foundSchema ms = .ok (name, s) := by
  induction ms generalizing found foundSchema with
  | nil =>
    rw [ofFieldMembers, ← hname.of_nil, ← hs.of_nil]
    rfl
  | cons m rest ih =>
    obtain ⟨key, d⟩ := m
    rw [ofFieldMembers]
    by_cases hkey : key = "name"
    · subst hkey
      rw [under_cons_self] at hname
      obtain ⟨rfl, name', hread, hname⟩ := hname.of_cons
      rw [if_pos rfl, once, hread]
      exact ih hname (hs.under_cons (by decide))
    · rw [if_neg hkey]
      by_cases hkey' : key = "schema"
      · subst hkey'
        rw [under_cons_self] at hs
        obtain ⟨rfl, s', hread, hs⟩ := hs.of_cons
        rw [if_pos rfl, once, hread]
        exact ih (hname.under_cons (by decide)) hs
      · rw [if_neg hkey']
        exact ih (hname.under_cons hkey) (hs.under_cons hkey')

end

/-! ### Reading a description -/

/-- An object whose tag and members amount to the schema. -/
def AmountsTo (d : Document) (s : Schema) : Prop :=
  ∃ tag ms, d = .object ms ∧ under "type" ms = [.string tag.name] ∧
    ((readParts tag {} ms).bind fun p => assemble p tag) = .ok s

theorem AmountsTo.ofDocument {d : Document} {s : Schema} (h : AmountsTo d s) :
    Schema.ofDocument d = .ok s := by
  obtain ⟨tag, ms, rfl, htag, hparts⟩ := h
  have hfound : tagAmong none ms = .ok tag := by
    refine tagAmong_eq ?_
    rw [htag]
    exact fills_one (ofName_name tag)
  rw [Schema.ofDocument, hfound]
  exact hparts

theorem AmountsTo.indexOf {d : Document} {s : Schema} (h : AmountsTo d s) :
    Schema.indexOf d = .ok (some s) := by
  have hread : Schema.ofDocument d = .ok s := h.ofDocument
  obtain ⟨tag, ms, rfl, -⟩ := h
  exact congrArg (Except.map some) hread

theorem Tagged.amountsTo {tag : Tag} {d : Document} {parts : List (String × Document) → Prop} {s : Schema}
    (h : Tagged tag d parts)
    (hparts : ∀ {ms}, parts ms → ∃ p, readParts tag {} ms = .ok p ∧ assemble p tag = .ok s) :
    AmountsTo d s := by
  obtain ⟨ms, rfl, htag, hms⟩ := h
  obtain ⟨p, hp, hs⟩ := hparts hms
  refine ⟨tag, ms, rfl, htag, ?_⟩
  rw [hp]
  exact hs

/-- Under some tags a literal is all there can be. -/
theorem Tagged.amountsTo_literal {α : Type} {d : Document} {s : Schema} (tag : Tag) (literal : Option α)
    (read : Document → Except Misfit α) (write : α → Document) (fill : Option α → Parts)
    (hname : partNames tag = ["literal"]) (hread : ∀ a, readOptional read (write a) = .ok (some a))
    (hfill : ∀ {d a}, readOptional read d = .ok a → readParts tag {} [("literal", d)] = .ok (fill a))
    (hassemble : assemble (fill literal) tag = .ok s) (hnone : literal = none → assemble {} tag = .ok s)
    (h : Tagged tag d fun ms => Given (literal.map write) (under "literal" ms)) : AmountsTo d s := by
  refine h.amountsTo fun hgiven => ?_
  obtain ⟨new, hnew, hliteral⟩ := fills_given hread hgiven
  refine ⟨_, readParts_of_name hname hfill hnew, ?_⟩
  cases new with
  | none => exact hnone hliteral.symm
  | some l =>
    obtain rfl : l = literal := hliteral
    exact hassemble

theorem readInteger_toInt (n : Int64) :
    readOptional readInteger (.number (.integer n.toInt)) = .ok (some n) := by
  have hread : readInteger (.number (.integer n.toInt)) = .ok n := by
    rw [readInteger, if_pos n.toInt_le, Int64.ofInt_toInt]
  exact congrArg (Except.map some) hread

mutual

theorem Describes.amountsTo : ∀ {s : Schema} {d : Document}, Describes s d → AmountsTo d s
  | json, _, h | undefined, _, h | null, _, h =>
    Tagged.amountsTo h fun _ => ⟨{}, readParts_of_no_name rfl {} _, rfl⟩
  | string literal, _, h =>
    Tagged.amountsTo_literal .string literal readText .string (fun l => { stringLiteral := some l }) rfl
      (fun _ => rfl) (fun hl => by simp [readParts, once, hl]) rfl (fun hnone => by rw [hnone]; rfl) h
  | boolean literal, _, h =>
    Tagged.amountsTo_literal .boolean literal readBoolean .boolean (fun l => { booleanLiteral := some l }) rfl
      (fun _ => rfl) (fun hl => by simp [readParts, once, hl]) rfl (fun hnone => by rw [hnone]; rfl) h
  | integer literal, _, h =>
    Tagged.amountsTo_literal .integer literal readInteger (fun n => .number (.integer n.toInt))
      (fun l => { integerLiteral := some l }) rfl readInteger_toInt
      (fun hl => by simp [readParts, once, hl]) rfl (fun hnone => by rw [hnone]; rfl) h
  | number literal, _, ⟨hnone, h⟩ => by
    subst hnone
    exact Tagged.amountsTo_literal .number none readFloat (fun x => .number (.real x))
      (fun l => { numberLiteral := some l }) rfl (fun _ => rfl)
      (fun hl => by simp [readParts, once, hl]) rfl (fun _ => rfl) h
  | array items, _, h => Tagged.amountsTo h fun ⟨e, hunder, he⟩ => by
    have hitem := fills_one (Describes.amountsTo he).ofDocument
    rw [← hunder] at hitem
    exact ⟨_, readParts_of_name rfl readParts_items hitem, rfl⟩
  | tuple items, _, h => Tagged.amountsTo h fun ⟨es, hunder, hes⟩ => by
    have hlist : Fills schemasOf [.array es] none (some items) := fills_one (DescribesEach.ofDocuments hes)
    rw [← hunder] at hlist
    exact ⟨_, readParts_of_name rfl (readParts_list (.inl ⟨rfl, rfl⟩)) hlist, rfl⟩
  | object fields index, _, h => by
    rw [Describes] at h
    refine h.amountsTo fun {ms} ⟨hfields, hindex⟩ => ?_
    have hfs : ∃ fs, Fills fieldsOf (under "fields" ms) none fs ∧ fs.getD [] = fields := by
      rcases hfields with ⟨hnil, hunder⟩ | ⟨es, hunder, hes⟩
      · exact ⟨none, .inl ⟨hunder, rfl⟩, hnil.symm⟩
      · rw [hunder]
        exact ⟨some fields, fills_one (DescribesFields.ofFields hes), rfl⟩
    have hi : ∃ i, Fills indexOf (under "index" ms) none i ∧ i.getD none = index := by
      cases index with
      | none =>
        rcases hindex with hunder | hunder
        · exact ⟨none, .inl ⟨hunder, rfl⟩, rfl⟩
        · rw [hunder]
          exact ⟨some none, fills_one rfl, rfl⟩
      | some s =>
        obtain ⟨e, hunder, he⟩ := hindex
        rw [hunder]
        exact ⟨some (some s), fills_one (Describes.amountsTo he).indexOf, rfl⟩
    obtain ⟨fs, hfs, rfl⟩ := hfs
    obtain ⟨i, hi, rfl⟩ := hi
    exact ⟨_, readParts_object hfs hi, rfl⟩
  | union variants, _, h => Tagged.amountsTo h fun ⟨es, hunder, hes⟩ => by
    have hlist : Fills schemasOf [.array es] none (some variants) :=
      fills_one (DescribesEach.ofDocuments hes)
    rw [← hunder] at hlist
    exact ⟨_, readParts_of_name rfl (readParts_list (.inr ⟨rfl, rfl⟩)) hlist, rfl⟩

theorem DescribesEach.ofDocuments : ∀ {ss : List Schema} {ds : List Document}, DescribesEach ss ds →
    Schema.ofDocuments ds = .ok ss
  | [], _, h => by
    obtain rfl := h
    rw [Schema.ofDocuments]
  | s :: rest, _, h => by
    obtain ⟨e, es, rfl, he, hes⟩ := h
    rw [Schema.ofDocuments, (Describes.amountsTo he).ofDocument, DescribesEach.ofDocuments hes]
    rfl

theorem DescribesFields.ofFields : ∀ {fields : List (String × Schema)} {ds : List Document},
    DescribesFields fields ds → Schema.ofFields ds = .ok fields
  | [], _, h => by
    obtain rfl := h
    rw [Schema.ofFields]
  | (name, s) :: rest, _, h => by
    obtain ⟨ms, es, rfl, hname, ⟨e, hschema, he⟩, hes⟩ := h
    have hmembers : ofFieldMembers none none ms = .ok (name, s) := by
      refine ofFieldMembers_eq ?_ ?_
      · rw [hname]
        exact fills_one rfl
      · rw [hschema]
        exact fills_one (Describes.amountsTo he).ofDocument
    rw [Schema.ofFields, hmembers, DescribesFields.ofFields hes]
    rfl

end

/-! ### The outermost description -/

end GuestHost.Schema
