import GuestHost.Proofs.Schema.Fitting
/-!
What a text is decoded to conforms to the schema at every depth, and holds nothing undefined.
-/
namespace GuestHost.Schema

open Value Members

section

variable {s : Schema} {fields : List (String × Schema)} {ms out : Members Value}

theorem definedItems_of_forall₂
    (h : ∀ {v w : Value}, v.WellFormed → v.Defined → Conforms s v w → w.Defined) {vs ws : List Value}
    (hwell : ∀ v ∈ vs, v.WellFormed) (hvs : ∀ v ∈ vs, v.Defined)
    (hws : List.Forall₂ (Conforms s) vs ws) : ∀ w ∈ ws, w.Defined := by
  intro w hw
  obtain ⟨v, hv, hconforms⟩ := hws.exists_of_mem_right hw
  exact h (hwell v hv) (hvs v hv) hconforms

theorem nodup_eraseDups (names : List String) : names.eraseDups.Nodup := by
  have h := nodup_firstNames (names.map fun name => (name, ()))
  rwa [firstNames, List.map_map, Function.comp_def, List.map_id'] at h

/-- Every member of an object goes by a name of which it is known that it is bound to what is defined. -/
theorem definedMembers_of_keys (hnodup : (keys out).Nodup)
    (h : ∀ k ∈ keys out, ∃ y, get? k out = some y ∧ y.Defined) : ∀ m ∈ out, m.2.Defined := by
  intro m hm
  obtain ⟨y, hy, hdefined⟩ := h m.1 (List.mem_map_of_mem hm)
  rw [get?_of_mem hnodup hm] at hy
  cases hy
  exact hdefined

theorem ConformsOthers.defined
    (h : ∀ {v w : Value}, v.WellFormed → v.Defined → Conforms s v w → w.Defined)
    (hwell : ∀ m ∈ ms, m.2.WellFormed) (hms : ∀ m ∈ ms, m.2.Defined)
    (hothers : ConformsOthers (Conforms s) fields ms out) :
    ∀ k ∈ otherNames fields ms, ∃ y, get? k out = some y ∧ y.Defined := by
  intro k hk
  obtain ⟨x, y, hx, hy, hconforms⟩ := hothers k hk
  have hmem : (k, x) ∈ ms := mem_of_get? hx
  exact ⟨y, hy, h (hwell _ hmem) (hms _ hmem) hconforms⟩

end

mutual

/-- What conforms to a schema is defined throughout, if the value that is fitted is. -/
theorem Conforms.defined : ∀ (s : Schema) {v w : Value}, v.WellFormed → v.Defined → Conforms s v w →
    w.Defined
  | json, _, _, _, hv, h => by
    obtain ⟨-, rfl⟩ := h
    exact hv
  | undefined, _, _, _, hv, h => by
    obtain ⟨rfl, -⟩ := h
    exact hv.elim
  | null, _, _, _, _, h => by
    obtain ⟨-, rfl⟩ := h
    trivial
  | string _, _, _, _, _, h => by
    obtain ⟨s, -, rfl, -⟩ := h
    trivial
  | boolean _, _, _, _, _, h => by
    obtain ⟨b, -, rfl, -⟩ := h
    trivial
  | integer _, _, _, _, _, h => by
    obtain ⟨n, -, rfl, -⟩ := h
    trivial
  | number _, _, _, _, _, h => by
    obtain ⟨x, -, rfl, -⟩ := h
    trivial
  | array items, _, _, hwell, hv, h => by
    obtain ⟨vs, ws, rfl, rfl, hws⟩ := h
    exact definedItems_iff.mpr (definedItems_of_forall₂ (Conforms.defined items)
      (wellFormed_array.mp hwell) (definedItems_iff.mp hv) hws)
  | tuple items, _, _, hwell, hv, h => by
    obtain ⟨vs, ws, rfl, rfl, hws⟩ := h
    exact definedItems_iff.mpr
      (ConformsEach.defined items (wellFormed_array.mp hwell) (definedItems_iff.mp hv) hws)
  | object fields none, _, _, hwell, hv, h => by
    obtain ⟨ms, out, rfl, rfl, hfields, hkeys⟩ := h
    obtain ⟨-, hms⟩ := wellFormed_object.mp hwell
    have hpresent := ConformsFields.defined fields hms (definedMembers_iff.mp hv) hfields
    refine definedMembers_iff.mpr (definedMembers_of_keys (hkeys ▸ nodup_eraseDups _) ?_)
    rwa [hkeys]
  | object fields (some s), _, _, hwell, hv, h => by
    obtain ⟨ms, out, rfl, rfl, hfields, hkeys, hothers⟩ := h
    obtain ⟨hnodup, hms⟩ := wellFormed_object.mp hwell
    have hpresent := ConformsFields.defined fields hms (definedMembers_iff.mp hv) hfields
    have hrest := hothers.defined (Conforms.defined s) hms (definedMembers_iff.mp hv)
    have houtNodup : (keys out).Nodup := by
      rw [hkeys, ← eraseDups_names fields hnodup]
      exact nodup_eraseDups _
    refine definedMembers_iff.mpr (definedMembers_of_keys houtNodup fun k hk => ?_)
    rw [hkeys, List.mem_append] at hk
    exact hk.elim (hpresent k) (hrest k)
  | union variants, _, _, hwell, hv, h => ConformsFirst.defined variants hwell hv h

theorem ConformsEach.defined : ∀ (ss : List Schema) {vs ws : List Value}, (∀ v ∈ vs, v.WellFormed) →
    (∀ v ∈ vs, v.Defined) → ConformsEach ss vs ws → ∀ w ∈ ws, w.Defined
  | [], _, _, _, _, h => by
    obtain ⟨-, rfl⟩ := h
    nofun
  | s :: ss, _, _, hwell, hvs, h => by
    obtain ⟨v, vs, w, ws, rfl, rfl, hw, hws⟩ := h
    obtain ⟨hvwell, hwell⟩ := List.forall_mem_cons.mp hwell
    obtain ⟨hv, hvs⟩ := List.forall_mem_cons.mp hvs
    exact List.forall_mem_cons.mpr
      ⟨Conforms.defined s hvwell hv hw, ConformsEach.defined ss hwell hvs hws⟩

/-- The names of fields are bound to what is defined. -/
theorem ConformsFields.defined : ∀ (fields : List (String × Schema)) {ms out : Members Value},
    (∀ m ∈ ms, m.2.WellFormed) → (∀ m ∈ ms, m.2.Defined) → ConformsFields fields ms out →
    ∀ k ∈ presentNames fields ms, ∃ y, get? k out = some y ∧ y.Defined
  | [], _, _, _, _, _, _, hk => absurd (mem_presentNames.mp hk).1 List.not_mem_nil
  | (name, s) :: rest, ms, out, hwell, hms, h, k, hk => by
    obtain ⟨hfield, hmember⟩ := mem_presentNames.mp hk
    obtain ⟨hhead, htail⟩ := h
    by_cases hlast : k ∈ rest.map Prod.fst
    · exact ConformsFields.defined rest hwell hms htail k (mem_presentNames.mpr ⟨hlast, hmember⟩)
    · obtain rfl := (List.mem_cons.mp hfield).resolve_right hlast
      obtain ⟨x, hx⟩ := Option.isSome_iff_exists.mp hmember
      simp only [hx] at hhead
      obtain ⟨y, hy, hout⟩ := hhead
      have hmem : (k, x) ∈ ms := mem_of_get? hx
      exact ⟨y, hout hlast, Conforms.defined s (hwell _ hmem) (hms _ hmem) hy⟩

theorem ConformsFirst.defined : ∀ (ss : List Schema) {v w : Value}, v.WellFormed → v.Defined →
    ConformsFirst ss v w → w.Defined
  | s :: rest, _, _, hwell, hv, h =>
    h.elim (Conforms.defined s hwell hv) fun h => ConformsFirst.defined rest hwell hv h.2

end

/-! Texts. -/

/-- What a text is decoded to, if the value that it stands for fits the schema: the form of that value that
the schema asks for, at every depth, with nothing undefined in it. -/
theorem decode_conforms (s : Schema) (text : String) {v w : Value} (hv : Json.parse text = .ok v)
    (hw : s.fit v = .ok w) : s.decode text = w ∧ w.Defined ∧ Conforms s v w := by
  have hwell : v.WellFormed := Json.wellFormed_parse hv
  have hconforms : Conforms s v w := (agrees s hwell).mp hw
  refine ⟨?_, Conforms.defined s hwell (Json.defined_parse hv) hconforms, hconforms⟩
  rw [decode_eq, hv]
  simp only [hw]

/-- A name with two fields, a field that may be missing, a first variant that does not accept, a pair, and
an index for what else there is. -/
def noteSchema : Schema := .object
  [("size", .integer none), ("tag", .union [.undefined, .string none]),
   ("kind", .union [.null, .string (some "note"), .json]), ("pair", .tuple [.number none, .json]),
   ("size", .number none)] (some (.array (.string none)))

def noteDocument : Json.Document := .object
  [("kind", .string "note"), ("more", .array [.string "b"]),
   ("pair", .array [.number (.integer 2), .null]), ("size", .number (.integer 3))]

def note : Value := .object
  [("kind", .string "note"), ("more", .array [.string "b"]), ("pair", .array [.integer 2, .null]),
   ("size", .integer 3)]

def fittedNote : Value := .object
  [("size", .float (Decimal.ofInt64 3)), ("kind", .string "note"),
   ("pair", .array [.float (Decimal.ofInt64 2), .null]), ("more", .array [.string "b"])]

theorem toValue_noteDocument : noteDocument.toValue = note := by
  have hsorted : sorted (ofPairs (Json.Document.toMembers
      [("kind", .string "note"), ("more", .array [.string "b"]),
       ("pair", .array [.number (.integer 2), .null]), ("size", .number (.integer 3))])) = _ :=
    List.mergeSort_of_pairwise (by decide)
  rw [noteDocument, Json.Document.toValue, hsorted]
  rfl

theorem readable_noteDocument : noteDocument.Readable Json.nestingLimit := by
  have htwo : Json.FitsWord 2 := ⟨by decide, by decide⟩
  have hthree : Json.FitsWord 3 := ⟨by decide, by decide⟩
  refine .object ?_
  simp only [List.forall_mem_cons]
  refine ⟨.string "note", .array ?_, .array ?_, .integer hthree, List.forall_mem_nil _⟩
  · exact List.forall_mem_singleton.mpr (.string "b")
  · exact List.forall_mem_cons.mpr ⟨.integer htwo, List.forall_mem_singleton.mpr .null⟩

theorem note_fits :
    noteSchema.decode (String.ofList noteDocument.text) = fittedNote ∧ fittedNote.Defined ∧
      Conforms noteSchema note fittedNote := by
  have hparse : Json.parse (String.ofList noteDocument.text) = .ok note := by
    rw [Json.parse, Json.parseDocument_text readable_noteDocument, ← toValue_noteDocument]
    rfl
  exact decode_conforms noteSchema _ hparse rfl

end GuestHost.Schema
