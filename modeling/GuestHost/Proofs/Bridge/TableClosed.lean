import GuestHost.Proofs.Bridge.Reading
import GuestHost.Proofs.Bridge.TableCopying
/-!
Tables in which no handle dangles: what is kept in a slot leads to a slot. New slots and other contents
keep a table so.
-/
namespace GuestHost

/-- What a slot shows of the value of its handle. -/
def Slot.shape : Slot → Shape Handle
  | undefined => .scalar .undefined Value.height_undefined
  | null => .scalar .null Value.height_null
  | boolean b => .scalar (.boolean b) (Value.height_boolean b)
  | integer n => .scalar (.integer n) (Value.height_integer n)
  | float x => .scalar (.float x) (Value.height_float x)
  | string s => .scalar (.string s) (Value.height_string s)
  | array items => .array items.toList
  | object members => .object members

/-- The handles in a slot. -/
def Slot.handles (s : Slot) : List Handle := s.shape.parts

/-- What a slot may turn into: containers get other contents, and arrays of the same length. -/
inductive Slot.Becomes : Slot → Slot → Prop where
  | same (s : Slot) : Becomes s s
  | array {items items' : Array Handle} (h : items'.size = items.size) :
    Becomes (.array items) (.array items')
  | object (members members' : Members Handle) : Becomes (.object members) (.object members')

namespace Slot.Becomes

variable {s s' s'' : Slot}

theorem trans (h : s.Becomes s') (h' : s'.Becomes s'') : s.Becomes s'' := by
  cases h with
  | same => exact h'
  | array hsize =>
    cases h' with
    | same => exact .array hsize
    | array hsize' => exact .array (hsize'.trans hsize)
  | object => cases h' <;> exact .object _ _

theorem kind_eq (h : s.Becomes s') : s'.kind = s.kind := by cases h <;> rfl

/-- What has no contents stays as it is. -/
theorem eq_of_scalar (h : s.Becomes s') (harray : s.kind ≠ .array) (hobject : s.kind ≠ .object) :
    s' = s := by
  cases h with
  | same => rfl
  | array => exact absurd rfl harray
  | object => exact absurd rfl hobject

end Slot.Becomes

namespace HandleTable

/-- The handle is the place of a slot. -/
def Valid (t : HandleTable) (g : Handle) : Prop := ∃ s, t.slot? g = some s

def look (t : HandleTable) : Look Handle := fun g => (t.slot g).map Slot.shape

section

variable {t t' : HandleTable}

theorem slot_eq_ok_iff {g : Handle} {s : Slot} : t.slot g = .ok s ↔ t.slot? g = some s := by
  unfold slot
  cases t.slot? g <;> simp

theorem look_eq_ok_iff {g : Handle} {s : Shape Handle} :
    t.look g = .ok s ↔ ∃ x, t.slot? g = some x ∧ x.shape = s := by
  simp only [look, Except.map_eq_ok_iff, slot_eq_ok_iff]

theorem look_of_slot? {g : Handle} {s : Slot} (h : t.slot? g = some s) : t.look g = .ok s.shape :=
  look_eq_ok_iff.mpr ⟨s, h, rfl⟩

/-- Reading a handle is copying what it leads to. -/
theorem readAt_eq_copyAt (t : HandleTable) (room : Nat) (g : Handle) :
    t.readAt room g = t.look.copyAt room g := by
  induction room generalizing g with
  | zero => rfl
  | succ room ih =>
    rw [readAt, Look.copyAt, look]
    rcases t.slot g with e | s
    · rfl
    · cases s <;> simp only [Except.map, Except.ok_bind, Slot.shape, ih]

theorem Valid.bounds {g : Handle} (h : t.Valid g) : 0 ≤ g ∧ g.toNat < t.slots.size := by
  obtain ⟨s, hs⟩ := h
  unfold slot? at hs
  split at hs
  · next hg => exact ⟨hg, (Array.getElem?_eq_some_iff.mp hs).1⟩
  · cases hs

theorem slot?_put_self {g : Handle} (h : t.Valid g) (s : Slot) : (t.put g s).slot? g = some s := by
  obtain ⟨hg, hlt⟩ := h.bounds
  rw [slot?, if_pos hg, put, Array.getElem?_setIfInBounds_self_of_lt hlt]

theorem slot?_put_of_ne {g g' : Handle} (h : t.Valid g) (hne : g' ≠ g) (s : Slot) :
    (t.put g s).slot? g' = t.slot? g' := by
  obtain ⟨hg, -⟩ := h.bounds
  unfold slot? put
  by_cases hg' : 0 ≤ g'
  · have hnat : g.toNat ≠ g'.toNat := fun h => hne <| by
      rw [← Int.toNat_of_nonneg hg', ← h, Int.toNat_of_nonneg hg]
    rw [if_pos hg', if_pos hg', Array.getElem?_setIfInBounds_ne hnat]
  · rw [if_neg hg', if_neg hg']

/-- What changes in one slot becomes of every slot. -/
theorem slot?_put {g g' : Handle} {s s' x : Slot} (hs : t.slot? g = some s) (hb : s.Becomes s')
    (hx : t.slot? g' = some x) : ∃ x', (t.put g s').slot? g' = some x' ∧ x.Becomes x' := by
  by_cases hg : g' = g
  · subst hg
    have hsx : s = x := Option.some.inj (hs.symm.trans hx)
    exact ⟨s', slot?_put_self ⟨s, hs⟩ s', hsx ▸ hb⟩
  · exact ⟨x, (slot?_put_of_ne ⟨s, hs⟩ hg s').trans hx, .same x⟩

theorem Grown.valid (h : Grown t t') {g : Handle} (hg : t.Valid g) : t'.Valid g := by
  obtain ⟨s, hs⟩ := hg
  exact ⟨s, h.slot? hs⟩

theorem Grown.look_eq (h : Grown t t') {g : Handle} (hg : t.Valid g) : t'.look g = t.look g := by
  obtain ⟨s, hs⟩ := hg
  rw [look_of_slot? hs, look_of_slot? (h.slot? hs)]

/-- A slot of a table with one slot more. -/
theorem slot?_push {s : Slot} (hroom : t.slots.size < capacity) {g : Handle} {x : Slot}
    (hx : (t.push s).2.slot? g = some x) : t.slot? g = some x ∨ x = s := by
  unfold push at hx
  rw [if_pos hroom] at hx
  unfold slot? at hx ⊢
  split at hx
  · next hg =>
    rw [if_pos hg]
    by_cases hlast : g.toNat = t.slots.size
    · right
      simp only [hlast, Array.getElem?_push_size] at hx
      exact (Option.some.inj hx).symm
    · left
      simpa only [Array.getElem?_push, if_neg hlast] using hx
  · cases hx

theorem slot?_push_size {s : Slot} (hroom : t.slots.size < capacity) :
    (t.push s).2.slot? t.slots.size = some s := by
  simp [push, if_pos hroom, slot?]

/-- Undefined and null have their slots, and what is kept in the table leads somewhere. -/
structure Closed (t : HandleTable) : Prop where
  undefined : t.slot? HandleTable.undefined = some .undefined
  null : t.slot? HandleTable.null = some .null
  stored : ∀ g s, t.slot? g = some s → ∀ x ∈ s.handles, t.Valid x
  interned : ∀ e ∈ t.interned, ∃ text, t.slot? e.2 = some (.string text)

namespace Closed

theorem start : Closed {} := by
  refine ⟨rfl, rfl, ?_, nofun⟩
  intro g s hs x hx
  have hbounds := Valid.bounds ⟨s, hs⟩
  unfold slot? at hs
  rw [if_pos hbounds.1] at hs
  -- both slots of an empty table are without handles
  have hcase : g.toNat = 0 ∨ g.toNat = 1 := by
    have hlt : g.toNat < 2 := hbounds.2
    omega
  rcases hcase with h | h <;> rw [h] at hs <;> cases hs <;> cases hx

theorem closedOn (h : Closed t) : t.look.ClosedOn t.Valid := by
  rintro g ⟨s, hs⟩
  exact ⟨s.shape, look_of_slot? hs, h.stored g s hs⟩

/-- More slots, the handles in which lead somewhere. -/
theorem grown (h : Closed t) (ht : Grown t t')
    (hfresh : ∀ g s, t'.slot? g = some s → t.slot? g = some s ∨ ∀ x ∈ s.handles, t'.Valid x) :
    Closed t' := by
  refine ⟨ht.slot? h.undefined, ht.slot? h.null, ?_, ?_⟩
  · intro g s hs x hx
    rcases hfresh g s hs with hold | hnew
    · exact ht.valid (h.stored g s hold x hx)
    · exact hnew x hx
  · intro e he
    rw [ht.interned] at he
    obtain ⟨text, hs⟩ := h.interned e he
    exact ⟨text, ht.slot? hs⟩

theorem push (h : Closed t) {s : Slot} (hs : ∀ x ∈ s.handles, t.Valid x) : Closed (t.push s).2 := by
  by_cases hroom : t.slots.size < capacity
  · have ht := Grown.push t s
    refine h.grown ht fun g x hx => ?_
    rcases slot?_push hroom hx with hold | rfl
    · exact .inl hold
    · exact .inr fun y hy => ht.valid (hs y hy)
  · rw [HandleTable.push, if_neg hroom]
    exact h

/-- Other contents in a slot. -/
theorem put (h : Closed t) {g : Handle} {s s' : Slot} (hs : t.slot? g = some s) (hb : s.Becomes s')
    (hs' : ∀ x ∈ s'.handles, t.Valid x) : Closed (t.put g s') := by
  have hbecomes : ∀ g' x, t.slot? g' = some x →
      ∃ x', (t.put g s').slot? g' = some x' ∧ x.Becomes x' := fun _ _ hx => slot?_put hs hb hx
  have hvalid : ∀ x, t.Valid x → (t.put g s').Valid x := by
    rintro x ⟨y, hy⟩
    obtain ⟨y', hy', -⟩ := hbecomes x y hy
    exact ⟨y', hy'⟩
  refine ⟨?_, ?_, ?_, ?_⟩
  · obtain ⟨x, hx, hb⟩ := hbecomes _ _ h.undefined
    rw [hx, hb.eq_of_scalar nofun nofun]
  · obtain ⟨x, hx, hb⟩ := hbecomes _ _ h.null
    rw [hx, hb.eq_of_scalar nofun nofun]
  · intro g' x hx y hy
    by_cases hg : g' = g
    · subst hg
      rw [slot?_put_self ⟨s, hs⟩, Option.some.injEq] at hx
      subst hx
      exact hvalid y (hs' y hy)
    · rw [slot?_put_of_ne ⟨s, hs⟩ hg] at hx
      exact hvalid y (h.stored g' x hx y hy)
  · intro e he
    obtain ⟨text, hslot⟩ := h.interned e he
    obtain ⟨x, hx, hb⟩ := hbecomes _ _ hslot
    rw [hb.eq_of_scalar nofun nofun] at hx
    exact ⟨text, hx⟩

end Closed
end
end HandleTable
end GuestHost
