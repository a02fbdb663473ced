import GuestHost.Bridge.HandleTable
import GuestHost.Proofs.Bridge.SharedHeap
/-!
Handle tables and the shared heap side by side. A world says which node each handle in the program's hands
stands for; no two handles stand for one container, so that a change to a slot is a change to a cell. Slots
without a node are what failed copies leave behind.
-/
namespace GuestHost.HandleTable

/-- Which node a handle stands for. -/
structure World where
  node? : Handle → Option Node
  undefined : node? HandleTable.undefined = some .undefined
  null : node? HandleTable.null = some .null

namespace World

def Extends (w w' : World) : Prop := ∀ g n, w.node? g = some n → w'.node? g = some n

def Same (w : World) (g : Handle) (n : Node) : Prop := w.node? g = some n

/-- Members with the same names, and values that stand for the same. -/
def SameMember (w : World) (m : String × Handle) (m' : String × Node) : Prop :=
  m.1 = m'.1 ∧ w.Same m.2 m'.2

variable {w w' : World}

theorem Extends.items (h : w.Extends w') {gs : List Handle} {ns : List Node}
    (hs : List.Forall₂ w.Same gs ns) : List.Forall₂ w'.Same gs ns :=
  hs.imp fun _ _ hg => h _ _ hg

theorem Extends.members (h : w.Extends w') {ms : Members Handle} {ms' : Members Node}
    (hs : List.Forall₂ w.SameMember ms ms') : List.Forall₂ w'.SameMember ms ms' :=
  hs.imp fun _ _ hg => ⟨hg.1, h _ _ hg.2⟩

/-- Lets one more handle stand for a node. -/
def bind (w : World) (g : Handle) (n : Node) (hg : w.node? g = none) : World where
  node? g' := if g' = g then some n else w.node? g'
  undefined := by
    rw [if_neg, w.undefined]
    rintro rfl
    rw [w.undefined] at hg
    cases hg
  null := by
    rw [if_neg, w.null]
    rintro rfl
    rw [w.null] at hg
    cases hg

theorem extends_bind {g : Handle} (n : Node) (hg : w.node? g = none) :
    w.Extends (w.bind g n hg) := by
  intro g' n' h
  have hne : g' ≠ g := by
    rintro rfl
    rw [hg] at h
    cases h
  exact (if_neg hne).trans h

theorem same_bind {g : Handle} (n : Node) (hg : w.node? g = none) : (w.bind g n hg).Same g n :=
  if_pos rfl

theorem of_bind {g g' : Handle} {n n' : Node} {hg : w.node? g = none}
    (h : (w.bind g n hg).node? g' = some n') : g' = g ∧ n' = n ∨ w.node? g' = some n' := by
  by_cases hg' : g' = g
  · refine .inl ⟨hg', ?_⟩
    have : some n = some n' := (if_pos hg').symm.trans h
    exact (Option.some.inj this).symm
  · exact .inr ((if_neg hg').symm.trans h)

end World

/-- A slot holds what a node stands for. -/
def Holds (w : World) (h : SharedHeap) : Slot → Node → Prop
  | .undefined, .undefined => True
  | .null, .null => True
  | .boolean a, .boolean b => a = b
  | .integer a, .integer b => a = b
  | .float a, .float b => a = b
  | .string a, .string b => a = b
  | .array items, .array cell =>
    ∃ ns, h.arrays[cell]? = some ns ∧ List.Forall₂ w.Same items.toList ns
  | .object ms, .object cell =>
    ∃ sets, h.objects[cell]? = some sets ∧ List.Forall₂ w.SameMember ms (Members.listing sets)
  | _, _ => False

/-- Everything that is on the first heap is on the second. -/
structure Grows (h h' : SharedHeap) : Prop where
  arrays : ∀ (c : Nat) ns, h.arrays[c]? = some ns → h'.arrays[c]? = some ns
  objects : ∀ (c : Nat) sets, h.objects[c]? = some sets → h'.objects[c]? = some sets
  literals : h'.literals = h.literals

namespace Grows

theorem refl (h : SharedHeap) : Grows h h := ⟨fun _ _ e => e, fun _ _ e => e, rfl⟩

theorem addArray (h : SharedHeap) (ns : List Node) : Grows h (h.addArray ns).2 := by
  refine ⟨?_, fun _ _ e => e, rfl⟩
  intro c ms hc
  obtain ⟨hlt, -⟩ := List.getElem?_eq_some_iff.mp hc
  exact (List.getElem?_append_left hlt).trans hc

theorem addObject (h : SharedHeap) (sets : List (String × Node)) : Grows h (h.addObject sets).2 := by
  refine ⟨fun _ _ e => e, ?_, rfl⟩
  intro c ms hc
  obtain ⟨hlt, -⟩ := List.getElem?_eq_some_iff.mp hc
  exact (List.getElem?_append_left hlt).trans hc

end Grows

theorem Holds.mono {w w' : World} {h h' : SharedHeap} (hw : w.Extends w') (hh : Grows h h') {s : Slot}
    {n : Node} (hs : Holds w h s n) : Holds w' h' s n := by
  cases s <;> cases n <;> try exact hs
  case array.array items cell =>
    obtain ⟨ns, hcell, hns⟩ := hs
    exact ⟨ns, hh.arrays _ _ hcell, hw.items hns⟩
  case object.object ms cell =>
    obtain ⟨sets, hcell, hsets⟩ := hs
    exact ⟨sets, hh.objects _ _ hcell, hw.members hsets⟩

theorem Holds.kind {w : World} {h : SharedHeap} {s : Slot} {n : Node} (hs : Holds w h s n) :
    s.kind = n.kind := by
  cases s <;> cases n <;> first | rfl | exact hs.elim

/-- The table holds what the heap holds, as far as the world goes. -/
structure Stands (w : World) (t : HandleTable) (h : SharedHeap) : Prop where
  slot : ∀ g n, w.node? g = some n → ∃ s, t.slot? g = some s ∧ Holds w h s n
  arrays : ∀ g g' c, w.node? g = some (.array c) → w.node? g' = some (.array c) → g = g'
  objects : ∀ g g' c, w.node? g = some (.object c) → w.node? g' = some (.object c) → g = g'
  literals : ∀ p n, Option.Rel (fun g s => w.Same g (.string s)) (t.interned? p n)
    (h.literals.lookup (p, n))

/-- No handle is left to be given out. -/
def Full (t : HandleTable) : Prop := capacity ≤ t.size

/-- The second table has further slots behind those of the first. -/
structure Grown (t t' : HandleTable) : Prop where
  slots : ∃ more, t'.slots = t.slots ++ more
  interned : t'.interned = t.interned

namespace Grown

variable {t t' t'' : HandleTable}

theorem refl (t : HandleTable) : Grown t t := ⟨⟨#[], by simp⟩, rfl⟩

theorem trans (h : Grown t t') (h' : Grown t' t'') : Grown t t'' := by
  obtain ⟨more, hmore⟩ := h.slots
  obtain ⟨more', hmore'⟩ := h'.slots
  refine ⟨⟨more ++ more', ?_⟩, h'.interned.trans h.interned⟩
  rw [hmore', hmore, Array.append_assoc]

theorem size_le (h : Grown t t') : t.size ≤ t'.size := by
  obtain ⟨more, hmore⟩ := h.slots
  rw [size, size, hmore, Array.size_append]
  exact Nat.le_add_right _ _

theorem slot? (h : Grown t t') {g : Handle} {s : Slot} (hs : t.slot? g = some s) :
    t'.slot? g = some s := by
  obtain ⟨more, hmore⟩ := h.slots
  unfold HandleTable.slot? at hs ⊢
  split at hs
  · next hg =>
    obtain ⟨hlt, -⟩ := Array.getElem?_eq_some_iff.mp hs
    rw [if_pos hg, hmore, Array.getElem?_append_left hlt]
    exact hs
  · cases hs

theorem push (t : HandleTable) (s : Slot) : Grown t (t.push s).2 := by
  unfold HandleTable.push
  split
  · exact ⟨⟨#[s], by simp⟩, rfl⟩
  · exact refl t

end Grown

/-- What the table makes stands for something on the heap in a wider world, unless the table is full. -/
def Placed {α : Type} (w : World) (r : Except BridgeError α × HandleTable) (R : World → α → Prop)
    (h : SharedHeap) : Prop :=
  (r.1 = .error .exhausted ∧ Full r.2) ∨
    ∃ w' a, w.Extends w' ∧ r.1 = .ok a ∧ R w' a ∧ Stands w' r.2 h

namespace Stands

variable {w : World} {t : HandleTable} {h : SharedHeap}

/-- Slots that no handle leads to do not matter. -/
theorem grown (hs : Stands w t h) {t' : HandleTable} (ht : Grown t t') : Stands w t' h := by
  refine ⟨?_, hs.arrays, hs.objects, ?_⟩
  · intro g n hg
    obtain ⟨s, hslot, hholds⟩ := hs.slot g n hg
    exact ⟨s, ht.slot? hslot, hholds⟩
  · intro p n
    rw [interned?, ht.interned]
    exact hs.literals p n

theorem node?_size (hs : Stands w t h) : w.node? t.slots.size = none := by
  cases hn : w.node? t.slots.size with
  | none => rfl
  | some n =>
    obtain ⟨s, hslot, -⟩ := hs.slot _ n hn
    simp [slot?] at hslot

theorem lt_arrays (hs : Stands w t h) {g : Handle} {c : Nat} (hg : w.node? g = some (.array c)) :
    c < h.arrays.length := by
  obtain ⟨s, -, hholds⟩ := hs.slot g _ hg
  cases s <;> try exact hholds.elim
  obtain ⟨ns, hcell, -⟩ := hholds
  exact (List.getElem?_eq_some_iff.mp hcell).1

theorem lt_objects (hs : Stands w t h) {g : Handle} {c : Nat} (hg : w.node? g = some (.object c)) :
    c < h.objects.length := by
  obtain ⟨s, -, hholds⟩ := hs.slot g _ hg
  cases s <;> try exact hholds.elim
  obtain ⟨sets, hcell, -⟩ := hholds
  exact (List.getElem?_eq_some_iff.mp hcell).1

/-- A handle for a node that no handle stands for yet. -/
theorem push (hs : Stands w t h) {s : Slot} {n : Node} {h' : SharedHeap} (hh : Grows h h')
    (hholds : Holds w h' s n) (harray : ∀ c, n = .array c → h.arrays.length ≤ c)
    (hobject : ∀ c, n = .object c → h.objects.length ≤ c) :
    Placed w (t.push s) (fun w g => w.Same g n) h' := by
  have ht := Grown.push t s
  unfold Placed
  unfold HandleTable.push at ht ⊢
  by_cases hroom : t.slots.size < capacity
  · rw [if_pos hroom] at ht ⊢
    have hfree := hs.node?_size
    have hw := World.extends_bind n hfree
    refine .inr ⟨w.bind t.slots.size n hfree, _, hw, rfl, World.same_bind n hfree, ?_, ?_, ?_, ?_⟩
    · intro g n' hg
      rcases World.of_bind hg with ⟨rfl, rfl⟩ | hg
      · exact ⟨s, by simp [slot?], hholds.mono hw (Grows.refl h')⟩
      · obtain ⟨s', hslot, hholds'⟩ := hs.slot g n' hg
        exact ⟨s', ht.slot? hslot, hholds'.mono hw hh⟩
    · intro g g' c hg hg'
      rcases World.of_bind hg with ⟨rfl, rfl⟩ | hg <;>
        rcases World.of_bind hg' with ⟨rfl, hn⟩ | hg'
      · rfl
      · exact absurd (hs.lt_arrays hg') (Nat.not_lt.mpr (harray c rfl))
      · exact absurd (hs.lt_arrays hg) (Nat.not_lt.mpr (harray c hn.symm))
      · exact hs.arrays g g' c hg hg'
    · intro g g' c hg hg'
      rcases World.of_bind hg with ⟨rfl, rfl⟩ | hg <;>
        rcases World.of_bind hg' with ⟨rfl, hn⟩ | hg'
      · rfl
      · exact absurd (hs.lt_objects hg') (Nat.not_lt.mpr (hobject c rfl))
      · exact absurd (hs.lt_objects hg) (Nat.not_lt.mpr (hobject c hn.symm))
      · exact hs.objects g g' c hg hg'
    · intro p k
      rw [hh.literals]
      exact (hs.literals p k).imp (fun _ _ hg => hw _ _ hg)
  · rw [if_neg hroom]
    exact .inl ⟨rfl, Nat.le_of_not_lt hroom⟩

/-- A handle for a scalar, for which the heap needs no cell. -/
theorem pushScalar (hs : Stands w t h) {s : Slot} {n : Node} (hholds : Holds w h s n)
    (harray : ∀ c, n ≠ .array c) (hobject : ∀ c, n ≠ .object c) :
    Placed w (t.push s) (fun w g => w.Same g n) h :=
  hs.push (Grows.refl h) hholds (fun c e => absurd e (harray c)) fun c e => absurd e (hobject c)

theorem pushArray (hs : Stands w t h) {items : Array Handle} {ns : List Node}
    (hns : List.Forall₂ w.Same items.toList ns) :
    Placed w (t.push (.array items)) (fun w g => w.Same g (h.addArray ns).1) (h.addArray ns).2 := by
  refine hs.push (Grows.addArray h ns) ⟨ns, List.getElem?_concat_length, hns⟩ ?_ ?_
  · rintro c hc
    cases hc
    exact Nat.le_refl _
  · rintro c hc
    cases hc

theorem pushObject (hs : Stands w t h) {ms : Members Handle} {sets : List (String × Node)}
    (hms : List.Forall₂ w.SameMember ms (Members.listing sets)) :
    Placed w (t.push (.object ms)) (fun w g => w.Same g (h.addObject sets).1)
      (h.addObject sets).2 := by
  refine hs.push (Grows.addObject h sets) ⟨sets, List.getElem?_concat_length, hms⟩ ?_ ?_
  · rintro c hc
    cases hc
  · rintro c hc
    cases hc
    exact Nat.le_refl _

end Stands

theorem forall₂_set {α β : Type} {R : α → β → Prop} {l : List α} {l' : List β}
    (h : List.Forall₂ R l l') (i : Nat) {a : α} {b : β} (hab : R a b) :
    List.Forall₂ R (l.set i a) (l'.set i b) := by
  induction h generalizing i with
  | nil => exact .nil
  | cons hhead htail ih =>
    cases i with
    | zero => exact .cons hab htail
    | succ i => exact .cons hhead (ih i)

theorem forall₂_getElem? {α β : Type} {R : α → β → Prop} {l : List α} {l' : List β}
    (h : List.Forall₂ R l l') (i : Nat) : Option.Rel R l[i]? l'[i]? := by
  induction h generalizing i with
  | nil => exact .none
  | cons hhead _ ih =>
    cases i with
    | zero => exact .some hhead
    | succ i => exact ih i

theorem forall₂_replicate {α β : Type} {R : α → β → Prop} {a : α} {b : β} (n : Nat) (h : R a b) :
    List.Forall₂ R (List.replicate n a) (List.replicate n b) := by
  induction n with
  | zero => exact .nil
  | succ n ih => exact .cons h ih

theorem sameMembers_set {w : World} {ms : Members Handle} {ms' : Members Node}
    (h : List.Forall₂ w.SameMember ms ms') (key : String) {g : Handle} {n : Node} (hg : w.Same g n) :
    List.Forall₂ w.SameMember (Members.set key g ms) (Members.set key n ms') := by
  induction h with
  | nil => exact .cons ⟨rfl, hg⟩ .nil
  | @cons a b _ _ hhead htail ih =>
    obtain ⟨k, g'⟩ := a
    obtain ⟨k', n'⟩ := b
    obtain ⟨hk, hv⟩ := hhead
    simp only at hk hv
    subst hk
    unfold Members.set
    by_cases hkey : k = key
    · rw [if_pos hkey, if_pos hkey]
      exact .cons ⟨rfl, hg⟩ htail
    · rw [if_neg hkey, if_neg hkey]
      exact .cons ⟨rfl, hv⟩ ih

theorem sameMembers_get? {w : World} {ms : Members Handle} {ms' : Members Node}
    (h : List.Forall₂ w.SameMember ms ms') (key : String) :
    Option.Rel w.Same (Members.get? key ms) (Members.get? key ms') := by
  induction h with
  | nil => exact .none
  | @cons a b _ _ hhead _ ih =>
    obtain ⟨k, g'⟩ := a
    obtain ⟨k', n'⟩ := b
    obtain ⟨hk, hv⟩ := hhead
    simp only at hk hv
    subst hk
    unfold Members.get?
    by_cases hkey : k = key
    · rw [if_pos hkey, if_pos hkey]
      exact .some hv
    · rw [if_neg hkey, if_neg hkey]
      exact ih

theorem keys_of_sameMembers {w : World} {ms : Members Handle} {ms' : Members Node}
    (h : List.Forall₂ w.SameMember ms ms') : Members.keys ms = Members.keys ms' := by
  induction h with
  | nil => rfl
  | cons hm _ ih => exact congrArg₂ List.cons hm.1 ih

end GuestHost.HandleTable
