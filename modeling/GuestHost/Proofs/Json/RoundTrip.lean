import GuestHost.Proofs.Json.Nesting
/-!
Decoding undoes encoding. A value without floats is written as a document that the reader takes back, and
that stands for the value in normal form; what has been read is in normal form already.
-/
namespace GuestHost.Json

open Value

namespace Document

mutual

/-- A value without floats has a document that is read back within the value's nesting. -/
theorem exists_readable : ∀ (v : Value) {n : Nat}, v.FloatFree → v.depth ≤ n →
    ∃ d, ofValue v = .ok d ∧ d.Readable n
  | .undefined, _, _, _ => ⟨null, rfl, .null⟩
  | .null, _, _, _ => ⟨null, rfl, .null⟩
  | .boolean b, _, _, _ => ⟨boolean b, rfl, .boolean b⟩
  | .integer k, _, _, _ => ⟨number (.integer k.toInt), rfl, .integer (fitsWord_toInt k)⟩
  | .float _, _, hfree, _ => hfree.elim
  | .string s, _, _, _ => ⟨string s, rfl, .string s⟩
  | .array items, n, hfree, hdepth => by
    cases n with
    | zero => cases hdepth
    | succ n =>
      obtain ⟨ds, hds, hreadable⟩ := exists_readableItems items hfree (Nat.le_of_succ_le_succ hdepth)
      exact ⟨array ds, by rw [ofValue, hds]; rfl, .array hreadable⟩
  | .object members, n, hfree, hdepth => by
    cases n with
    | zero => cases hdepth
    | succ n =>
      obtain ⟨ds, hds, hreadable⟩ := exists_readableMembers members hfree (Nat.le_of_succ_le_succ hdepth)
      exact ⟨object ds, by rw [ofValue, hds]; rfl, .object hreadable⟩

theorem exists_readableItems : ∀ (vs : List Value) {n : Nat}, FloatFreeItems vs → depthOfItems vs ≤ n →
    ∃ ds, ofValues vs = .ok ds ∧ ∀ d ∈ ds, d.Readable n
  | [], _, _, _ => ⟨[], rfl, nofun⟩
  | v :: rest, n, hfree, hdepth => by
    obtain ⟨hv, hrest⟩ := Nat.max_le.mp hdepth
    obtain ⟨d, hd, hread⟩ := exists_readable v hfree.1 hv
    obtain ⟨ds, hds, hreads⟩ := exists_readableItems rest hfree.2 hrest
    refine ⟨d :: ds, ?_, List.forall_mem_cons.mpr ⟨hread, hreads⟩⟩
    rw [ofValues, hd, Except.ok_bind, hds, Except.ok_bind]
    rfl

theorem exists_readableMembers : ∀ (ms : List (String × Value)) {n : Nat}, FloatFreeMembers ms →
    depthOfMembers ms ≤ n → ∃ ds, ofMembers ms = .ok ds ∧ ∀ m ∈ ds, m.2.Readable n
  | [], _, _, _ => ⟨[], rfl, nofun⟩
  | (k, v) :: rest, n, hfree, hdepth => by
    obtain ⟨hv, hrest⟩ := Nat.max_le.mp hdepth
    obtain ⟨ds, hds, hreads⟩ := exists_readableMembers rest hfree.2 hrest
    cases hu : v.isUndefined with
    | true => exact ⟨ds, by rw [ofMembers, if_pos hu, hds], hreads⟩
    | false =>
      obtain ⟨d, hd, hread⟩ := exists_readable v hfree.1 hv
      refine ⟨(k, d) :: ds, ?_, List.forall_mem_cons.mpr ⟨hread, hreads⟩⟩
      rw [ofMembers, hu, if_neg Bool.false_ne_true, hd, Except.ok_bind, hds, Except.ok_bind]
      rfl

end

mutual

/-- What is written for a value without floats stands for the value in normal form. -/
theorem toValue_ofValue : ∀ (v : Value) {d : Document}, v.FloatFree → v.WellFormed → ofValue v = .ok d →
    d.toValue = v.normal
  | .undefined, _, _, _, rfl | .null, _, _, _, rfl | .boolean _, _, _, _, rfl | .string _, _, _, _, rfl => rfl
  | .integer _, _, _, _, rfl => valueOfNumber_eq_integer_iff.mpr rfl
  | .float _, _, hfree, _, _ => hfree.elim
  | .array items, _, hfree, hwell, h => by
    obtain ⟨ds, hds, rfl⟩ := Except.map_eq_ok_iff.mp h
    rw [toValue, normal, toValues_ofValues items hfree hwell hds]
  | .object members, _, hfree, hwell, h => by
    obtain ⟨ds, hds, rfl⟩ := Except.map_eq_ok_iff.mp h
    have hnodup := (keys_normalMembers_sublist members).nodup hwell.1
    rw [toValue, normal, toMembers_ofMembers members hfree hwell.2 hds, Members.ofPairs_of_nodup hnodup,
      Members.byBytes_eq_sorted]

theorem toValues_ofValues : ∀ (vs : List Value) {ds : List Document}, FloatFreeItems vs →
    WellFormedItems vs → ofValues vs = .ok ds → toValues ds = normalItems vs
  | [], _, _, _, rfl => rfl
  | v :: rest, _, hfree, hwell, h => by
    obtain ⟨d, hd, h⟩ := Except.bind_eq_ok_iff.mp h
    obtain ⟨ds, hds, h⟩ := Except.bind_eq_ok_iff.mp h
    cases h
    rw [toValues, normalItems, toValue_ofValue v hfree.1 hwell.1 hd,
      toValues_ofValues rest hfree.2 hwell.2 hds]

theorem toMembers_ofMembers : ∀ (ms : List (String × Value)) {ds : List (String × Document)},
    FloatFreeMembers ms → WellFormedMembers ms → ofMembers ms = .ok ds → toMembers ds = normalMembers ms
  | [], _, _, _, rfl => rfl
  | (k, v) :: rest, _, hfree, hwell, h => by
    rw [ofMembers] at h
    rw [normalMembers]
    split at h
    · next hu =>
      rw [if_pos hu]
      exact toMembers_ofMembers rest hfree.2 hwell.2 h
    · next hu =>
      rw [if_neg hu]
      obtain ⟨d, hd, h⟩ := Except.bind_eq_ok_iff.mp h
      obtain ⟨ds, hds, h⟩ := Except.bind_eq_ok_iff.mp h
      cases h
      rw [toMembers, toValue_ofValue v hfree.1 hwell.1 hd, toMembers_ofMembers rest hfree.2 hwell.2 hds]

end

end Document

theorem parse_write {v : Value} (hfree : v.FloatFree) (hwell : v.WellFormed)
    (hdepth : v.depth ≤ nestingLimit) :
    ∃ s, write v = .ok s ∧ parse s = .ok v.normal := by
  obtain ⟨d, hd, hread⟩ := Document.exists_readable v hfree hdepth
  have hvalue := Document.toValue_ofValue v hfree hwell hd
  refine ⟨String.ofList d.text, ?_, ?_⟩
  · unfold write
    rw [hd]
    rfl
  · unfold parse
    rw [parseDocument_text hread, ← hvalue]
    rfl

/-- What a text is parsed as comes from a document that its reader takes in. -/
theorem exists_document_of_parse {text : String} {v : Value} (h : parse text = .ok v) :
    ∃ d r, readDocument nestingLimit text.toList = .ok (d, r) ∧ v = d.toValue := by
  obtain ⟨d, r, hread, -, hvalue⟩ := parse_eq_ok_iff.mp h
  exact ⟨d, r, hread, hvalue.symm⟩

theorem normal_parse {text : String} {v : Value} (h : parse text = .ok v) : v.normal = v := by
  obtain ⟨d, r, -, rfl⟩ := exists_document_of_parse h
  exact d.normal_toValue

theorem defined_parse {text : String} {v : Value} (h : parse text = .ok v) : v.Defined := by
  obtain ⟨d, r, -, rfl⟩ := exists_document_of_parse h
  exact d.defined_toValue

theorem depth_parse {text : String} {v : Value} (h : parse text = .ok v) :
    v.depth ≤ nestingLimit := by
  obtain ⟨d, r, hread, rfl⟩ := exists_document_of_parse h
  exact depth_readDocument hread

/-- Every value without floats that nests at most 127 containers is written, and its text is parsed as the
value in normal form; if the value itself was parsed from a text, it comes back as it is. -/
theorem parse_write_normal (v : Value) (hfree : v.FloatFree) :
    (v.WellFormed → v.depth ≤ 127 → ∃ s, write v = .ok s ∧ parse s = .ok v.normal) ∧
      ∀ text, parse text = .ok v → ∃ s, write v = .ok s ∧ parse s = .ok v := by
  refine ⟨fun hwell hdepth => parse_write hfree hwell hdepth, fun text htext => ?_⟩
  have hback := parse_write hfree (wellFormed_parse htext) (depth_parse htext)
  rwa [normal_parse htext] at hback

/-- Undefined in both places, a name out of order, and the least of all integers. -/
def mixedNote : Value := .object
  [("size", .array [.undefined, .integer Int64.minValue]), ("gone", .undefined), ("name", .string "\"é")]

/-- What is left of it in JSON text. -/
def sortedNote : Value := .object
  [("name", .string "\"é"), ("size", .array [.null, .integer Int64.minValue])]

theorem normal_mixedNote : mixedNote.normal = sortedNote := by
  have horder : Text.encode "size" ≤ Text.encode "name" ↔ False := by decide
  simp [mixedNote, sortedNote, Value.normal, Value.normalMembers, Value.normalItems, Value.isUndefined,
    Members.byBytes, List.mergeSort, List.MergeSort.Internal.splitInTwo, horder]

theorem notes_come_back :
    (∃ s, write mixedNote = .ok s ∧ parse s = .ok sortedNote) ∧
      ∃ s, write sortedNote = .ok s ∧ parse s = .ok sortedNote := by
  have hfree : mixedNote.FloatFree := ⟨⟨trivial, trivial, trivial⟩, trivial, trivial, trivial⟩
  have hwell : mixedNote.WellFormed := by
    refine ⟨by decide, ?_⟩
    exact ⟨⟨trivial, trivial, trivial⟩, trivial, trivial, trivial⟩
  obtain ⟨s, hwrite, hparse⟩ := (parse_write_normal mixedNote hfree).1 hwell (by decide)
  rw [normal_mixedNote] at hparse
  have hfree' : sortedNote.FloatFree := ⟨trivial, ⟨trivial, trivial, trivial⟩, trivial⟩
  exact ⟨⟨s, hwrite, hparse⟩, (parse_write_normal sortedNote hfree').2 s hparse⟩

end GuestHost.Json
