import GuestHost.Proofs.Bridge.Exchange
import GuestHost.Proofs.Bridge.HeapFaithful
import GuestHost.Proofs.Value.WellFormed
/-!
Heaps of cells through any sequence of exchanges. References cannot be made up, so a program's exchanges
are with nodes that are there; and then no node ever dangles, in a cell or in the program's hands.
-/
namespace GuestHost.NodeHeap

/-- The node that a reference carries, if it carries one, is on the heap. -/
def Has (b : NodeHeap) (r : Reference) : Prop := ∀ n, node r = .ok n → b.Present n

/-- What a program has without being given it: references that carry no node. -/
def Free (r : Reference) : Prop := r = .null ∨ r = .foreign

variable {b b' : NodeHeap}

theorem has_node {n : Node} (h : b.Present n) : Has b (.node n) := by
  rintro m hm
  cases hm
  exact h

theorem has_of_free {r : Reference} (h : Free r) : Has b r := by
  rintro n hn
  rcases h with rfl | rfl <;> cases hn
  trivial

theorem arrayCell_eq_ok_iff {r : Reference} {cell : Nat} :
    arrayCell r = .ok cell ↔ node r = .ok (.array cell) := by
  unfold arrayCell
  rcases node r with e | n
  · simp
  · cases n <;> simp [throw, throwThe, MonadExceptOf.throw]

theorem objectCell_eq_ok_iff {r : Reference} {cell : Nat} :
    objectCell r = .ok cell ↔ node r = .ok (.object cell) := by
  unfold objectCell
  rcases node r with e | n
  · simp
  · cases n <;> simp [throw, throwThe, MonadExceptOf.throw]

theorem arraySet_eq_ok_iff {r x : Reference} {i : Nat} :
    b.arraySet r i x = .ok b' ↔ ∃ n cell, node x = .ok n ∧ node r = .ok (.array cell) ∧
      i < (b.itemsOf cell).size ∧
      b' = { b with arrays := b.arrays.setIfInBounds cell ((b.itemsOf cell).setIfInBounds i n) } := by
  simp only [arraySet, Except.bind_eq_ok_iff, arrayCell_eq_ok_iff]
  constructor
  · rintro ⟨n, hn, cell, hcell, h⟩
    split at h
    · next hi =>
      cases h
      exact ⟨n, cell, hn, hcell, hi, rfl⟩
    · cases h
  · rintro ⟨n, cell, hn, hcell, hi, rfl⟩
    refine ⟨n, hn, cell, hcell, ?_⟩
    rw [if_pos hi]
    rfl

theorem objectSet_eq_ok_iff {r x : Reference} {key : String} :
    b.objectSet r key x = .ok b' ↔ ∃ n cell, node x = .ok n ∧ node r = .ok (.object cell) ∧
      b' = { b with objects := b.objects.setIfInBounds cell (Members.set key n (b.membersOf cell)) } := by
  simp only [objectSet, Except.bind_eq_ok_iff, objectCell_eq_ok_iff, Except.pure_eq_ok_iff]
  constructor
  · rintro ⟨n, hn, cell, hcell, rfl⟩
    exact ⟨n, cell, hn, hcell, rfl⟩
  · rintro ⟨n, cell, hn, hcell, rfl⟩
    exact ⟨n, hn, cell, hcell, rfl⟩

/-- A heap after an exchange: what was there is there, and so is what the exchange gives. -/
structure Kept (b : NodeHeap) (r : Exchange.Result Reference × NodeHeap) : Prop where
  closed : Closed r.2
  present : ∀ n, b.Present n → r.2.Present n
  given : ∀ g ∈ r.1.given, Has r.2 g

namespace Kept

theorem idle (h : Closed b) {o : Exchange.Result Reference} (ho : ∀ g ∈ o.given, Has b g) : Kept b (o, b) :=
  ⟨h, fun _ hn => hn, ho⟩

theorem has {r : Exchange.Result Reference × NodeHeap} (h : Kept b r) {g : Reference} (hg : Has b g) :
    Has r.2 g := fun n hn => h.present n (hg n hn)

theorem added {n : Node} (hb : Extended b b') (h : Closed b') (hn : b'.Present n) :
    Kept b (Exchange.made (.ok (.node n), b')) := by
  refine ⟨h, fun _ => hb.present, fun g hg => ?_⟩
  obtain rfl := List.mem_singleton.mp hg
  exact has_node hn

end Kept

namespace Closed

theorem toGuest (h : Closed b) (v : Value) : Kept b (Exchange.made (b.toGuest v)) := by
  have hbuilt := buildAt_built v (maxDepth + 1) h
  rw [NodeHeap.toGuest]
  rcases heq : buildAt (maxDepth + 1) v b with e | ⟨n, b'⟩
  · exact .idle h nofun
  · obtain ⟨hb, hclosed, -, hholds⟩ := hbuilt.ok n b' heq
    exact .added hb hclosed hholds.present

theorem arrayGet (h : Closed b) {r g : Reference} (hr : Has b r) {i : Nat}
    (hg : b.arrayGet r i = .ok g) : Has b g := by
  simp only [NodeHeap.arrayGet, Except.bind_eq_ok_iff, arrayCell_eq_ok_iff] at hg
  obtain ⟨cell, hcell, hg⟩ := hg
  split at hg
  · next n hn =>
    cases hg
    exact has_node (h.items _ (itemsOf_mem (hr _ hcell)) n (Array.mem_of_getElem? hn))
  · cases hg

theorem objectGet (h : Closed b) {r g : Reference} (hr : Has b r) {key : String}
    (hg : b.objectGet r key = .ok (some g)) : Has b g := by
  simp only [NodeHeap.objectGet, Except.bind_eq_ok_iff, objectCell_eq_ok_iff, Except.pure_eq_ok_iff,
    Option.map_eq_some_iff] at hg
  obtain ⟨cell, hcell, n, hn, rfl⟩ := hg
  exact has_node (h.members _ (membersOf_mem (hr _ hcell)) _ (Members.mem_of_get? hn))

/-- Other items in a cell. -/
theorem setItems (h : Closed b) (cell : Nat) {items : Array Node} (hitems : ∀ n ∈ items, b.Present n) :
    Kept b (.ok none, { b with arrays := b.arrays.setIfInBounds cell items }) := by
  have hpresent : ∀ n, b.Present n →
      Present { b with arrays := b.arrays.setIfInBounds cell items } n := by
    intro n hn
    cases n with
    | array c => exact Nat.lt_of_lt_of_eq hn Array.size_setIfInBounds.symm
    | _ => exact hn
  refine ⟨⟨?_, ?_⟩, hpresent, nofun⟩
  · intro items' hmem n hn
    rcases Array.mem_or_eq_of_mem_setIfInBounds hmem with hold | rfl
    · exact hpresent n (h.items items' hold n hn)
    · exact hpresent n (hitems n hn)
  · intro members hmem m hm
    exact hpresent m.2 (h.members members hmem m hm)

/-- Other members in a cell. -/
theorem setMembers (h : Closed b) (cell : Nat) {members : Members Node}
    (hmembers : ∀ m ∈ members, b.Present m.2) :
    Kept b (.ok none, { b with objects := b.objects.setIfInBounds cell members }) := by
  have hpresent : ∀ n, b.Present n →
      Present { b with objects := b.objects.setIfInBounds cell members } n := by
    intro n hn
    cases n with
    | object c => exact Nat.lt_of_lt_of_eq hn Array.size_setIfInBounds.symm
    | _ => exact hn
  refine ⟨⟨?_, ?_⟩, hpresent, nofun⟩
  · intro items hmem n hn
    exact hpresent n (h.items items hmem n hn)
  · intro members' hmem m hm
    rcases Array.mem_or_eq_of_mem_setIfInBounds hmem with hold | rfl
    · exact hpresent m.2 (h.members members' hold m hm)
    · exact hpresent m.2 (hmembers m hm)

theorem arraySet (h : Closed b) {r x : Reference} (hr : Has b r) (i : Nat) (hx : Has b x) :
    Kept b (Exchange.changed b (b.arraySet r i x)) := by
  rcases hset : b.arraySet r i x with e | b'
  · exact .idle h nofun
  · obtain ⟨n, cell, hn, hcell, -, rfl⟩ := arraySet_eq_ok_iff.mp hset
    refine h.setItems cell fun m hm => ?_
    rcases Array.mem_or_eq_of_mem_setIfInBounds hm with hold | rfl
    · exact h.items _ (itemsOf_mem (hr _ hcell)) m hold
    · exact hx m hn

theorem objectSet (h : Closed b) {r x : Reference} (hr : Has b r) (key : String) (hx : Has b x) :
    Kept b (Exchange.changed b (b.objectSet r key x)) := by
  rcases hset : b.objectSet r key x with e | b'
  · exact .idle h nofun
  · obtain ⟨n, cell, hn, hcell, rfl⟩ := objectSet_eq_ok_iff.mp hset
    refine h.setMembers cell fun m hm => ?_
    rcases Members.mem_of_mem_set hm with rfl | hold
    · exact hx n hn
    · exact h.members _ (membersOf_mem (hr _ hcell)) m hold

theorem intern (h : Closed b) (p n : Nat) (text : String) :
    Kept b (Exchange.made (b.intern p n text)) := by
  rw [NodeHeap.intern]
  split
  · exact .added (Extended.refl b) h trivial
  · exact .added ⟨⟨#[], by simp⟩, ⟨#[], by simp⟩⟩ ⟨h.items, h.members⟩ trivial

theorem perform (h : Closed b) (e : Exchange Reference) (he : ∀ g ∈ e.references, Has b g) :
    Kept b (e.perform b) := by
  cases e with
  | copyIn v => exact h.toGuest v
  | newArray n =>
    refine .added (Extended.addArray b _) (h.addArray fun m hm => ?_) ?_
    · obtain ⟨-, rfl⟩ := Array.mem_replicate.mp hm
      trivial
    · exact present_addArray b _
  | newObject =>
    exact .added (Extended.addObject b _) (h.addObject nofun) (present_addObject b _)
  | arrayGet a i =>
    refine .idle h fun g hg => ?_
    obtain ⟨g', hg', hsome⟩ := Except.map_eq_ok_iff.mp (Exchange.Result.mem_given_iff.mp hg)
    have ha := he a List.mem_cons_self
    exact h.arrayGet ha (hg'.trans (congrArg Except.ok (Option.some.inj hsome)))
  | arraySet a i x =>
    have ha := he a List.mem_cons_self
    have hx := he x (List.mem_cons_of_mem a (List.mem_singleton_self x))
    exact h.arraySet ha i hx
  | objectGet o key =>
    have ho := he o List.mem_cons_self
    exact .idle h fun g hg => h.objectGet ho (Exchange.Result.mem_given_iff.mp hg)
  | objectSet o key x =>
    have ho := he o List.mem_cons_self
    have hx := he x (List.mem_cons_of_mem o (List.mem_singleton_self x))
    exact h.objectSet ho key hx
  | intern p n text => exact h.intern p n text

end Closed

/-- No reference in a program's hands dangles. -/
theorem closed_of_reached {held : List Reference} (h : Reached Free b held) :
    Closed b ∧ ∀ g ∈ held, Has b g := by
  induction h with
  | start =>
    refine ⟨Closed.start, fun g hg => ?_⟩
    obtain rfl := List.mem_singleton.mp hg
    exact has_node trivial
  | step _ e he ih =>
    obtain ⟨hclosed, hheld⟩ := ih
    have hkept := hclosed.perform e fun g hg => (he g hg).elim (hheld g) has_of_free
    refine ⟨hkept.closed, fun g hg => ?_⟩
    rcases List.mem_append.mp hg with hnew | hold
    · exact hkept.given g hnew
    · exact hkept.has (hheld g hold)

end GuestHost.NodeHeap
