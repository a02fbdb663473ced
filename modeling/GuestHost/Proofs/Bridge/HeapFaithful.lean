import GuestHost.Proofs.Bridge.Reading
/-!
Heaps of cells in which no node dangles, and what copying a value into one comes to: the nodes of a value
are there as soon as they are made, and only its depth can stop a copy.
-/
namespace GuestHost

/-- What a node shows of its value. -/
def Node.shape (b : NodeHeap) : Node → Shape Node
  | undefined => .scalar .undefined Value.height_undefined
  | null => .scalar .null Value.height_null
  | boolean x => .scalar (.boolean x) (Value.height_boolean x)
  | integer n => .scalar (.integer n) (Value.height_integer n)
  | float x => .scalar (.float x) (Value.height_float x)
  | string s => .scalar (.string s) (Value.height_string s)
  | array cell => .array (b.itemsOf cell).toList
  | object cell => .object (b.membersOf cell)

namespace NodeHeap

/-- The cell of the node, if it needs one, is on the heap. -/
def Present (b : NodeHeap) : Node → Prop
  | .array cell => cell < b.arrays.size
  | .object cell => cell < b.objects.size
  | _ => True

def look (b : NodeHeap) : Look Node := fun n => .ok (n.shape b)

/-- Reading a node is copying what it leads to. -/
theorem readAt_eq_copyAt (b : NodeHeap) (room : Nat) (n : Node) :
    b.readAt room n = b.look.copyAt room n := by
  induction room generalizing n with
  | zero => rfl
  | succ room ih =>
    rw [Look.copyAt, look, Except.ok_bind]
    cases n <;> simp only [readAt, Node.shape, ih] <;> rfl

/-- What is kept in a cell is on the heap. -/
structure Closed (b : NodeHeap) : Prop where
  items : ∀ items ∈ b.arrays, ∀ n ∈ items, b.Present n
  members : ∀ members ∈ b.objects, ∀ m ∈ members, b.Present m.2

/-- The second heap has further cells behind those of the first. -/
structure Extended (b b' : NodeHeap) : Prop where
  arrays : ∃ more, b'.arrays = b.arrays ++ more
  objects : ∃ more, b'.objects = b.objects ++ more

section

variable {b b' b'' : NodeHeap}

namespace Extended

theorem refl (b : NodeHeap) : Extended b b := ⟨⟨#[], by simp⟩, ⟨#[], by simp⟩⟩

theorem trans (h : Extended b b') (h' : Extended b' b'') : Extended b b'' := by
  obtain ⟨⟨arrays, harrays⟩, ⟨objects, hobjects⟩⟩ := h
  obtain ⟨⟨arrays', harrays'⟩, ⟨objects', hobjects'⟩⟩ := h'
  refine ⟨⟨arrays ++ arrays', ?_⟩, ⟨objects ++ objects', ?_⟩⟩
  · rw [harrays', harrays, Array.append_assoc]
  · rw [hobjects', hobjects, Array.append_assoc]

theorem addArray (b : NodeHeap) (items : Array Node) : Extended b (b.addArray items).2 :=
  ⟨⟨#[items], Array.push_eq_append⟩, ⟨#[], by simp [NodeHeap.addArray]⟩⟩

theorem addObject (b : NodeHeap) (members : Members Node) : Extended b (b.addObject members).2 :=
  ⟨⟨#[], by simp [NodeHeap.addObject]⟩, ⟨#[members], Array.push_eq_append⟩⟩

theorem present (h : Extended b b') {n : Node} (hn : b.Present n) : b'.Present n := by
  obtain ⟨⟨arrays, harrays⟩, ⟨objects, hobjects⟩⟩ := h
  cases n with
  | array cell =>
    have hcell : cell < b.arrays.size := hn
    simp only [Present, harrays, Array.size_append]
    omega
  | object cell =>
    have hcell : cell < b.objects.size := hn
    simp only [Present, hobjects, Array.size_append]
    omega
  | _ => trivial

/-- What a node on the heap shows does not change with further cells. -/
theorem look_eq (h : Extended b b') {n : Node} (hn : b.Present n) : b'.look n = b.look n := by
  obtain ⟨⟨arrays, harrays⟩, ⟨objects, hobjects⟩⟩ := h
  cases n with
  | array cell =>
    have hcell : cell < b.arrays.size := hn
    simp only [look, Node.shape, itemsOf, harrays, Array.getElem?_append_left hcell]
  | object cell =>
    have hcell : cell < b.objects.size := hn
    simp only [look, Node.shape, membersOf, hobjects, Array.getElem?_append_left hcell]
  | _ => rfl

end Extended

theorem itemsOf_mem {cell : Nat} (h : cell < b.arrays.size) : b.itemsOf cell ∈ b.arrays := by
  rw [itemsOf, Array.getElem?_eq_getElem h]
  exact Array.getElem_mem h

theorem membersOf_mem {cell : Nat} (h : cell < b.objects.size) : b.membersOf cell ∈ b.objects := by
  rw [membersOf, Array.getElem?_eq_getElem h]
  exact Array.getElem_mem h

namespace Closed

theorem start : Closed {} := ⟨nofun, nofun⟩

theorem closedOn (h : Closed b) : b.look.ClosedOn b.Present := by
  intro n hn
  refine ⟨n.shape b, rfl, ?_⟩
  cases n with
  | array cell =>
    intro m hm
    exact h.items _ (itemsOf_mem hn) m (Array.mem_toList_iff.mp hm)
  | object cell =>
    intro m hm
    obtain ⟨e, he, rfl⟩ := List.mem_map.mp hm
    exact h.members _ (membersOf_mem hn) e he
  | _ => exact nofun

theorem addArray (h : Closed b) {items : Array Node} (hitems : ∀ n ∈ items, b.Present n) :
    Closed (b.addArray items).2 := by
  have hb := Extended.addArray b items
  refine ⟨?_, fun members hm m he => hb.present (h.members members hm m he)⟩
  intro items' hitems' n hn
  rcases Array.mem_push.mp hitems' with hold | rfl
  · exact hb.present (h.items items' hold n hn)
  · exact hb.present (hitems n hn)

theorem addObject (h : Closed b) {members : Members Node} (hmembers : ∀ m ∈ members, b.Present m.2) :
    Closed (b.addObject members).2 := by
  have hb := Extended.addObject b members
  refine ⟨fun items hi n hn => hb.present (h.items items hi n hn), ?_⟩
  intro members' hmembers' m hm
  rcases Array.mem_push.mp hmembers' with hold | rfl
  · exact hb.present (h.members members' hold m hm)
  · exact hb.present (hmembers m hm)

end Closed

theorem present_addArray (b : NodeHeap) (items : Array Node) :
    Present (b.addArray items).2 (b.addArray items).1 := by
  simp [NodeHeap.addArray, Present]

theorem present_addObject (b : NodeHeap) (members : Members Node) :
    Present (b.addObject members).2 (b.addObject members).1 := by
  simp [NodeHeap.addObject, Present]

/-- The node is on the heap, and leads to the value. -/
structure Holds (b : NodeHeap) (n : Node) (v : Value) : Prop where
  present : b.Present n
  leads : b.look.LeadsTo n v

theorem Holds.mono {n : Node} {v : Value} (h : Holds b n v) (hb : Closed b) (hb' : Extended b b') :
    Holds b' n v :=
  ⟨hb'.present h.present, h.leads.congr hb.closedOn (fun _ => hb'.look_eq) h.present⟩

theorem Holds.array {items : List Node} {vs : List Value} (hb : Closed b)
    (h : List.Forall₂ (Holds b) items vs) :
    Holds (b.addArray items.toArray).2 (b.addArray items.toArray).1 (.array vs) := by
  have hb' := Extended.addArray b items.toArray
  have hlook : (b.addArray items.toArray).2.look (b.addArray items.toArray).1 = .ok (.array items) := by
    simp [look, NodeHeap.addArray, Node.shape, itemsOf]
  exact ⟨present_addArray b items.toArray, .array hlook (h.imp fun _ _ hv => (hv.mono hb hb').leads)⟩

theorem Holds.object {members : Members Node} {ms : List (String × Value)} (hb : Closed b)
    (h : List.Forall₂ (fun m m' => m.1 = m'.1 ∧ Holds b m.2 m'.2) members ms) :
    Holds (b.addObject members).2 (b.addObject members).1 (.object ms) := by
  have hb' := Extended.addObject b members
  have hlook : (b.addObject members).2.look (b.addObject members).1 = .ok (.object members) := by
    simp [look, NodeHeap.addObject, Node.shape, membersOf]
  exact ⟨present_addObject b members,
    .object hlook (h.imp fun _ _ hv => ⟨hv.1, (hv.2.mono hb hb').leads⟩)⟩

end

/-- A copy onto the heap `b`, which fails for depth unless it `fits`. -/
structure Built {α : Type} (fits : Prop) (P : NodeHeap → α → Prop) (b : NodeHeap)
    (r : Except BridgeError (α × NodeHeap)) : Prop where
  ok : ∀ a b', r = .ok (a, b') → Extended b b' ∧ Closed b' ∧ fits ∧ P b' a
  error : ∀ e, r = .error e → e = .tooDeep ∧ ¬fits

namespace Built

variable {α δ : Type} {b b' : NodeHeap} {r : Except BridgeError (α × NodeHeap)} {fits fits' : Prop}
  {P : NodeHeap → α → Prop} {Q : NodeHeap → δ → Prop}

theorem made {a : α} (hb : Extended b b') (h : Closed b') (hfits : fits) (ha : P b' a) :
    Built fits P b (.ok (a, b')) where
  ok := by
    rintro _ _ heq
    cases heq
    exact ⟨hb, h, hfits, ha⟩
  error := nofun

theorem congr (h : Built fits P b r) (hfits : fits ↔ fits') : Built fits' P b r where
  ok a b' hr := by
    obtain ⟨hb, hclosed, hf, ha⟩ := h.ok a b' hr
    exact ⟨hb, hclosed, hfits.mp hf, ha⟩
  error e he := (h.error e he).imp_right fun hf hf' => hf (hfits.mpr hf')

/-- A copy that goes on with what has been copied: it fits if both parts do. -/
theorem bind {f : α × NodeHeap → Except BridgeError (δ × NodeHeap)} (hr : Built fits P b r)
    (hf : ∀ a b', Extended b b' → Closed b' → P b' a → Built fits' Q b' (f (a, b'))) :
    Built (fits ∧ fits') Q b (r >>= f) := by
  refine ⟨?_, ?_⟩
  · intro d b'' hd
    obtain ⟨⟨a, b'⟩, ha, hd⟩ := Except.bind_eq_ok_iff.mp hd
    obtain ⟨hb, hclosed, hfits, hP⟩ := hr.ok a b' ha
    obtain ⟨hb', hclosed', hfits', hQ⟩ := (hf a b' hb hclosed hP).ok d b'' hd
    exact ⟨hb.trans hb', hclosed', ⟨hfits, hfits'⟩, hQ⟩
  · intro e he
    rcases Except.bind_eq_error_iff.mp he with he | ⟨⟨a, b'⟩, ha, he⟩
    · exact (hr.error e he).imp_right fun hfits h => hfits h.1
    · obtain ⟨hb, hclosed, -, hP⟩ := hr.ok a b' ha
      exact ((hf a b' hb hclosed hP).error e he).imp_right fun hfits h => hfits h.2

/-- What goes on with the copy need not fit. -/
theorem bind_sure {f : α × NodeHeap → Except BridgeError (δ × NodeHeap)} (hr : Built fits P b r)
    (hf : ∀ a b', Extended b b' → Closed b' → P b' a → Built True Q b' (f (a, b'))) :
    Built fits Q b (r >>= f) := (hr.bind hf).congr (and_true _).to_iff

end Built

theorem built_scalar {b : NodeHeap} (h : Closed b) {n : Node} {v : Value} {flat : v.height = 0}
    (hshape : n.shape b = .scalar v flat) (room : Nat) :
    Built (v.height < room + 1) (fun b n => Holds b n v) b (.ok (n, b)) := by
  have hpresent : b.Present n := by
    cases n with
    | array | object => cases hshape
    | _ => trivial
  exact .made (Extended.refl b) h (flat ▸ Nat.succ_pos room)
    ⟨hpresent, .scalar (congrArg Except.ok hshape)⟩

mutual

/-- A copy of a value leads to it, and there is one unless the value is too high. -/
theorem buildAt_built : ∀ (v : Value) (room : Nat) {b : NodeHeap}, Closed b →
    Built (v.height < room) (fun b n => Holds b n v) b (buildAt room v b)
  | v, 0, b, h => by
    rw [buildAt]
    refine ⟨nofun, ?_⟩
    rintro e he
    cases he
    exact ⟨rfl, Nat.not_lt_zero _⟩
  | .undefined, room + 1, b, h => built_scalar h rfl room
  | .null, room + 1, b, h => built_scalar h rfl room
  | .boolean _, room + 1, b, h => built_scalar h rfl room
  | .integer _, room + 1, b, h => built_scalar h rfl room
  | .float _, room + 1, b, h => built_scalar h rfl room
  | .string _, room + 1, b, h => built_scalar h rfl room
  | .array items, room + 1, b, h => by
    rw [buildAt]
    have hitems := buildItems_built items room h
    rw [Value.height]
    refine (hitems.bind_sure fun ns b' _ h' hns => ?_).congr Nat.lt_succ_iff.symm
    refine .made (Extended.addArray b' _) (h'.addArray fun n hn => ?_) trivial (Holds.array h' hns)
    obtain ⟨v, -, hv⟩ := hns.exists_of_mem_left (List.mem_toArray.mp hn)
    exact hv.present
  | .object members, room + 1, b, h => by
    rw [buildAt]
    have hmembers := buildMembers_built members room h
    rw [Value.height]
    refine (hmembers.bind_sure fun ms b' _ h' hms => ?_).congr Nat.lt_succ_iff.symm
    refine .made (Extended.addObject b' _) (h'.addObject fun m hm => ?_) trivial (Holds.object h' hms)
    obtain ⟨v, -, -, hv⟩ := hms.exists_of_mem_left hm
    exact hv.present

theorem buildItems_built : ∀ (vs : List Value) (room : Nat) {b : NodeHeap}, Closed b →
    Built (Value.heightOfItems vs ≤ room) (fun b ns => List.Forall₂ (Holds b) ns vs) b
      (buildItems room vs b)
  | [], room, b, h => by
    rw [buildItems]
    exact .made (Extended.refl b) h (Nat.zero_le room) .nil
  | v :: rest, room, b, h => by
    rw [buildItems]
    have hhead := buildAt_built v room h
    refine (hhead.bind fun n b' _ h' hn => ?_).congr Nat.max_le.symm
    have hrest := buildItems_built rest room h'
    -- the first node still leads to its value when the rest has been built
    refine hrest.bind_sure fun ns b'' hb h'' hns => ?_
    exact .made (Extended.refl b'') h'' trivial (.cons (hn.mono h' hb) hns)

theorem buildMembers_built : ∀ (ms : List (String × Value)) (room : Nat) {b : NodeHeap}, Closed b →
    Built (Value.heightOfMembers ms ≤ room)
      (fun b ns => List.Forall₂ (fun m m' => m.1 = m'.1 ∧ Holds b m.2 m'.2) ns ms) b
      (buildMembers room ms b)
  | [], room, b, h => by
    rw [buildMembers]
    exact .made (Extended.refl b) h (Nat.zero_le room) .nil
  | (k, v) :: rest, room, b, h => by
    rw [buildMembers]
    have hhead := buildAt_built v room h
    refine (hhead.bind fun n b' _ h' hn => ?_).congr Nat.max_le.symm
    have hrest := buildMembers_built rest room h'
    refine hrest.bind_sure fun ns b'' hb h'' hns => ?_
    exact .made (Extended.refl b'') h'' trivial (.cons ⟨rfl, hn.mono h' hb⟩ hns)

end

end NodeHeap
end GuestHost
