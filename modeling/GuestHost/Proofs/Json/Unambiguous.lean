import GuestHost.Proofs.Json.RoundTrip
import GuestHost.Proofs.Value.Equality
/-!
No two values have one text. Of the text that is written of a document the reader finds the document again, at
whatever depth; and a document spells a value with nothing undefined in it member by member.
-/
namespace GuestHost.Json

open Value

namespace Document

/-- Read to the depth of both, one text is one document. -/
theorem Readable.eq_of_text {n : Nat} {d d' : Document} (hd : d.Readable n) (hd' : d'.Readable n)
    (h : d.text = d'.text) : d = d' := by
  have hread : readDocument n d.text = .ok (d, []) := hd.readDocument_textBefore endsNumber_nil
  have hread' : readDocument n d'.text = .ok (d', []) := hd'.readDocument_textBefore endsNumber_nil
  rw [h, hread'] at hread
  cases hread
  rfl

theorem readable_ofValue {v : Value} {d : Document} {n : Nat} (hfree : v.FloatFree) (hdepth : v.depth ≤ n)
    (h : ofValue v = .ok d) : d.Readable n := by
  obtain ⟨d', hd', hreadable⟩ := exists_readable v hfree hdepth
  rw [h] at hd'
  cases hd'
  exact hreadable

mutual

/-- The value that a document spells, its members in the order in which they stand. -/
def inOrder : Document → Value
  | null => .null
  | boolean b => .boolean b
  | number n => valueOfNumber n
  | string s => .string s
  | array items => .array (itemsInOrder items)
  | object members => .object (membersInOrder members)

def itemsInOrder : List Document → List Value
  | [] => []
  | d :: rest => d.inOrder :: itemsInOrder rest

def membersInOrder : List (String × Document) → List (String × Value)
  | [] => []
  | (k, d) :: rest => (k, d.inOrder) :: membersInOrder rest

end

mutual

theorem inOrder_ofValue : ∀ (v : Value) {d : Document}, v.FloatFree → v.Defined → ofValue v = .ok d →
    d.inOrder = v
  | .undefined, _, _, hdefined, _ => hdefined.elim
  | .null, _, _, _, rfl | .boolean _, _, _, _, rfl | .string _, _, _, _, rfl => rfl
  | .integer _, _, _, _, rfl => valueOfNumber_eq_integer_iff.mpr rfl
  | .float _, _, hfree, _, _ => hfree.elim
  | .array items, _, hfree, hdefined, h => by
    obtain ⟨ds, hds, rfl⟩ := Except.map_eq_ok_iff.mp h
    rw [inOrder, itemsInOrder_ofValues items hfree hdefined hds]
  | .object members, _, hfree, hdefined, h => by
    obtain ⟨ds, hds, rfl⟩ := Except.map_eq_ok_iff.mp h
    rw [inOrder, membersInOrder_ofMembers members hfree hdefined hds]

theorem itemsInOrder_ofValues : ∀ (vs : List Value) {ds : List Document}, FloatFreeItems vs →
    DefinedItems vs → ofValues vs = .ok ds → itemsInOrder ds = vs
  | [], _, _, _, rfl => rfl
  | v :: rest, _, hfree, hdefined, h => by
    obtain ⟨d, hd, h⟩ := Except.bind_eq_ok_iff.mp h
    obtain ⟨ds, hds, h⟩ := Except.bind_eq_ok_iff.mp h
    cases h
    rw [itemsInOrder, inOrder_ofValue v hfree.1 hdefined.1 hd,
      itemsInOrder_ofValues rest hfree.2 hdefined.2 hds]

/-- As none of them is undefined, no member is left out. -/
theorem membersInOrder_ofMembers : ∀ (ms : List (String × Value)) {ds : List (String × Document)},
    FloatFreeMembers ms → DefinedMembers ms → ofMembers ms = .ok ds → membersInOrder ds = ms
  | [], _, _, _, rfl => rfl
  | (k, v) :: rest, _, hfree, hdefined, h => by
    have hkept : v.isUndefined = false := hdefined.1.isUndefined
    rw [ofMembers, hkept, if_neg Bool.false_ne_true] at h
    obtain ⟨d, hd, h⟩ := Except.bind_eq_ok_iff.mp h
    obtain ⟨ds, hds, h⟩ := Except.bind_eq_ok_iff.mp h
    cases h
    rw [membersInOrder, inOrder_ofValue v hfree.1 hdefined.1 hd,
      membersInOrder_ofMembers rest hfree.2 hdefined.2 hds]

end

end Document

theorem exists_write {v : Value} (hfree : v.FloatFree) : ∃ s, write v = .ok s := by
  obtain ⟨d, hd, -⟩ := Document.exists_readable v hfree (Nat.le_refl v.depth)
  exact ⟨String.ofList d.text, by rw [write, hd]; rfl⟩

theorem write_eq_ok_iff {v : Value} {s : String} :
    write v = .ok s ↔ ∃ d, Document.ofValue v = .ok d ∧ String.ofList d.text = s :=
  Except.map_eq_ok_iff

theorem eq_of_write {a b : Value} {s : String} (ha : a.FloatFree) (ha' : a.Defined) (hb : b.FloatFree)
    (hb' : b.Defined) (hwa : write a = .ok s) (hwb : write b = .ok s) : a = b := by
  obtain ⟨d, hd, htext⟩ := write_eq_ok_iff.mp hwa
  obtain ⟨d', hd', htext'⟩ := write_eq_ok_iff.mp hwb
  have hsame : d.text = d'.text := String.ofList_injective (htext.trans htext'.symm)
  have hreads : d.Readable (max a.depth b.depth) :=
    Document.readable_ofValue ha (Nat.le_max_left a.depth b.depth) hd
  have hreads' : d'.Readable (max a.depth b.depth) :=
    Document.readable_ofValue hb (Nat.le_max_right a.depth b.depth) hd'
  calc a = d.inOrder := (Document.inOrder_ofValue a ha ha' hd).symm
    _ = d'.inOrder := by rw [hreads.eq_of_text hreads' hsame]
    _ = b := Document.inOrder_ofValue b hb hb' hd'

/-- Values without floats and with nothing undefined in them have a text, and of two such values with one text
each is the other, down to the order of the members of every object; so a value with its members in another
order, at whatever depth, is equal to it and has another text. -/
theorem text_unambiguous {a b : Value} (ha : a.FloatFree) (ha' : a.Defined) (hb : b.FloatFree)
    (hb' : b.Defined) :
    ((∃ s, write a = .ok s) ∧ ∃ s, write b = .ok s) ∧
      (∀ s, write a = .ok s → write b = .ok s → a = b) ∧
      (a.WellFormed → Relation.ReflTransGen Reorder a b → a ≠ b →
        a.equal b = true ∧ ∀ s, write a = .ok s → write b ≠ .ok s) := by
  refine ⟨⟨exists_write ha, exists_write hb⟩, fun s => eq_of_write ha ha' hb hb', ?_⟩
  intro hwell hreorder hne
  obtain ⟨hwell', hsame⟩ := Reorder.run hreorder hwell
  constructor
  · rw [hsame b hwell']
    exact (equal_iff_sortKeys_eq hwell' hwell' hb).mpr rfl
  · exact fun s hwa hwb => hne (eq_of_write ha ha' hb hb' hwa hwb)

/-- A list with an object and one with the members of the object in another order. -/
theorem orders_told_apart :
    let v : Value := .array [.object [("x", .null), ("y", .string "\",]")], .integer 1]
    let w : Value := .array [.object [("y", .string "\",]"), ("x", .null)], .integer 1]
    v.equal w = true ∧ ∃ s t, write v = .ok s ∧ write w = .ok t ∧ s ≠ t := by
  intro v w
  have hfree : v.FloatFree ∧ w.FloatFree := by simp [v, w, FloatFree, FloatFreeItems, FloatFreeMembers]
  have hdefined : v.Defined ∧ w.Defined := by simp [v, w, Defined, DefinedItems, DefinedMembers]
  have hwell : v.WellFormed := by simp [v, Members.keys]
  have hreorder : Reorder v w := .item [] [.integer 1] (.here (.swap ..))
  obtain ⟨⟨⟨s, hs⟩, t, ht⟩, -, hother⟩ := text_unambiguous hfree.1 hdefined.1 hfree.2 hdefined.2
  obtain ⟨hequal, hdiffer⟩ := hother hwell (.single hreorder) (by simp [v, w])
  refine ⟨hequal, s, t, hs, ht, ?_⟩
  rintro rfl
  exact hdiffer s hs ht

end GuestHost.Json
