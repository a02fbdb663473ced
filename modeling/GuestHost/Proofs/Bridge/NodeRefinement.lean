import GuestHost.Proofs.Bridge.SharedHeap
import GuestHost.Proofs.Bridge.Simulation
/-!
References of the engine refine the shared heap: cells are the cells of the heap, and the members that a
cell keeps are the listing of what was set in it.
-/
namespace GuestHost.NodeHeap

open SharedHeap (place placeItems placeMembers keys_placeMembers)

/-- The cells of a node heap show what a shared heap holds. -/
structure Shows (b : NodeHeap) (h : SharedHeap) : Prop where
  arrays : b.arrays.toList.map Array.toList = h.arrays
  objects : b.objects.toList = h.objects.map Members.listing
  literals : b.interned = h.literals

namespace Shows

variable {b : NodeHeap} {h : SharedHeap}

theorem items (hb : Shows b h) (cell : Nat) : (b.itemsOf cell).toList = h.items cell := by
  rw [itemsOf, SharedHeap.items, ← hb.arrays, List.getElem?_map, Array.getElem?_toList]
  cases b.arrays[cell]? <;> rfl

theorem size (hb : Shows b h) (cell : Nat) : (b.itemsOf cell).size = (h.items cell).length := by
  rw [← hb.items cell, Array.length_toList]

theorem members (hb : Shows b h) (cell : Nat) : b.membersOf cell = h.members cell := by
  rw [membersOf, SharedHeap.members, SharedHeap.sets, ← Array.getElem?_toList, hb.objects,
    List.getElem?_map]
  cases h.objects[cell]? <;> rfl

theorem addArray (hb : Shows b h) {items : Array Node} {ns : List Node} (hns : items.toList = ns) :
    (b.addArray items).1 = (h.addArray ns).1 ∧ Shows (b.addArray items).2 (h.addArray ns).2 := by
  have hlen : b.arrays.size = h.arrays.length := by
    rw [← hb.arrays, List.length_map, Array.length_toList]
  refine ⟨congrArg Node.array hlen, ?_, hb.objects, hb.literals⟩
  simp only [NodeHeap.addArray, SharedHeap.addArray, Array.toList_push, List.map_append,
    List.map_cons, List.map_nil, hb.arrays, hns]

theorem addObject (hb : Shows b h) {ms sets : List (String × Node)}
    (hms : ms = Members.listing sets) :
    (b.addObject ms).1 = (h.addObject sets).1 ∧
      Shows (b.addObject ms).2 (h.addObject sets).2 := by
  have hlen : b.objects.size = h.objects.length := by
    rw [← Array.length_toList, hb.objects, List.length_map]
  refine ⟨congrArg Node.object hlen, hb.arrays, ?_, hb.literals⟩
  simp only [NodeHeap.addObject, SharedHeap.addObject, Array.toList_push, List.map_append,
    List.map_cons, List.map_nil, hb.objects, hms]

/-- What is read of a node is what is read of it in the shared heap. -/
theorem readAt (hb : Shows b h) (room : Nat) (n : Node) : b.readAt room n = h.readAt room n := by
  induction room generalizing n with
  | zero => rfl
  | succ room ih =>
    have hitems : (fun i => b.readAt room i) = fun i => h.readAt room i := funext ih
    cases n with
    | array cell => simp only [NodeHeap.readAt, SharedHeap.readAt, hb.items, hitems]
    | object cell => simp only [NodeHeap.readAt, SharedHeap.readAt, hb.members, ih]
    | _ => rfl

end Shows

mutual

/-- A value that is not too high is built as the shared heap places it. -/
theorem buildAt_placed : ∀ (v : Value) {room : Nat} {b : NodeHeap} {h : SharedHeap}, Shows b h →
    v.WellFormed → v.height < room →
      ∃ b', buildAt room v b = .ok ((place v h).1, b') ∧ Shows b' (place v h).2
  | _, 0, _, _, _, _, hlt => absurd hlt (Nat.not_lt_zero _)
  | .undefined, _ + 1, b, _, hb, _, _ => ⟨b, rfl, hb⟩
  | .null, _ + 1, b, _, hb, _, _ => ⟨b, rfl, hb⟩
  | .boolean _, _ + 1, b, _, hb, _, _ => ⟨b, rfl, hb⟩
  | .integer _, _ + 1, b, _, hb, _, _ => ⟨b, rfl, hb⟩
  | .float _, _ + 1, b, _, hb, _, _ => ⟨b, rfl, hb⟩
  | .string _, _ + 1, b, _, hb, _, _ => ⟨b, rfl, hb⟩
  | .array items, room + 1, b, h, hb, hv, hlt => by
    obtain ⟨b', hbuild, hb'⟩ := buildItems_placed items hb (Value.wellFormed_array.mp hv)
      (Nat.le_of_lt_succ hlt)
    have hitems : (placeItems items h).1.toArray.toList = (placeItems items h).1 := rfl
    obtain ⟨hcell, hadd⟩ := hb'.addArray hitems
    refine ⟨_, ?_, hadd⟩
    rw [buildAt, hbuild, place, ← hcell]
    rfl
  | .object members, room + 1, b, h, hb, hv, hlt => by
    obtain ⟨hnodup, hall⟩ := Value.wellFormed_object.mp hv
    obtain ⟨b', hbuild, hb'⟩ := buildMembers_placed members hb hall (Nat.le_of_lt_succ hlt)
    have hlisting := (Members.listing_of_nodup (keys_placeMembers members h ▸ hnodup)).symm
    obtain ⟨hcell, hadd⟩ := hb'.addObject hlisting
    refine ⟨_, ?_, hadd⟩
    rw [buildAt, hbuild, place, ← hcell]
    rfl

theorem buildItems_placed : ∀ (vs : List Value) {room : Nat} {b : NodeHeap} {h : SharedHeap},
    Shows b h → (∀ v ∈ vs, v.WellFormed) → Value.heightOfItems vs ≤ room →
      ∃ b', buildItems room vs b = .ok ((placeItems vs h).1, b') ∧ Shows b' (placeItems vs h).2
  | [], _, b, _, hb, _, _ => ⟨b, rfl, hb⟩
  | v :: rest, room, b, h, hb, hv, hle => by
    obtain ⟨hv, hrest⟩ := List.forall_mem_cons.mp hv
    obtain ⟨hle, hle'⟩ := Nat.max_le.mp hle
    obtain ⟨b₁, hbuild, hb₁⟩ := buildAt_placed v hb hv hle
    obtain ⟨b₂, hbuild', hb₂⟩ := buildItems_placed rest hb₁ hrest hle'
    refine ⟨b₂, ?_, hb₂⟩
    simp only [buildItems, hbuild, Except.ok_bind, hbuild']
    rfl

theorem buildMembers_placed : ∀ (ms : List (String × Value)) {room : Nat} {b : NodeHeap}
    {h : SharedHeap}, Shows b h → (∀ m ∈ ms, m.2.WellFormed) → Value.heightOfMembers ms ≤ room →
      ∃ b', buildMembers room ms b = .ok ((placeMembers ms h).1, b') ∧ Shows b' (placeMembers ms h).2
  | [], _, b, _, hb, _, _ => ⟨b, rfl, hb⟩
  | (k, v) :: rest, room, b, h, hb, hv, hle => by
    obtain ⟨hv, hrest⟩ := List.forall_mem_cons.mp hv
    obtain ⟨hle, hle'⟩ := Nat.max_le.mp hle
    obtain ⟨b₁, hbuild, hb₁⟩ := buildAt_placed v hb hv hle
    obtain ⟨b₂, hbuild', hb₂⟩ := buildMembers_placed rest hb₁ hrest hle'
    refine ⟨b₂, ?_, hb₂⟩
    simp only [buildMembers, hbuild, Except.ok_bind, hbuild']
    rfl

end

mutual

theorem buildAt_tooDeep : ∀ (v : Value) {room : Nat} {b : NodeHeap} {h : SharedHeap}, Shows b h →
    v.WellFormed → room ≤ v.height → buildAt room v b = .error .tooDeep
  | _, 0, _, _, _, _, _ => by rw [buildAt]
  | .array items, room + 1, b, h, hb, hv, hle => by
    rw [buildAt, buildItems_tooDeep items hb (Value.wellFormed_array.mp hv) hle]
    rfl
  | .object members, room + 1, b, h, hb, hv, hle => by
    rw [buildAt, buildMembers_tooDeep members hb (Value.wellFormed_object.mp hv).2 hle]
    rfl
  | .undefined, _ + 1, _, _, _, _, hle => absurd hle (Nat.not_succ_le_zero _)
  | .null, _ + 1, _, _, _, _, hle => absurd hle (Nat.not_succ_le_zero _)
  | .boolean _, _ + 1, _, _, _, _, hle => absurd hle (Nat.not_succ_le_zero _)
  | .integer _, _ + 1, _, _, _, _, hle => absurd hle (Nat.not_succ_le_zero _)
  | .float _, _ + 1, _, _, _, _, hle => absurd hle (Nat.not_succ_le_zero _)
  | .string _, _ + 1, _, _, _, _, hle => absurd hle (Nat.not_succ_le_zero _)

theorem buildItems_tooDeep : ∀ (vs : List Value) {room : Nat} {b : NodeHeap} {h : SharedHeap},
    Shows b h → (∀ v ∈ vs, v.WellFormed) → room < Value.heightOfItems vs →
      buildItems room vs b = .error .tooDeep
  | [], _, _, _, _, _, hlt => absurd hlt (Nat.not_lt_zero _)
  | v :: rest, room, b, h, hb, hv, hlt => by
    obtain ⟨hv, hrest⟩ := List.forall_mem_cons.mp hv
    rw [buildItems]
    by_cases hfits : v.height < room
    · obtain ⟨b₁, hbuild, hb₁⟩ := buildAt_placed v hb hv hfits
      have hlt' : room < Value.heightOfItems rest := by
        simp only [Value.heightOfItems] at hlt
        omega
      simp only [hbuild, Except.ok_bind, buildItems_tooDeep rest hb₁ hrest hlt', Except.error_bind]
    · rw [buildAt_tooDeep v hb hv (Nat.le_of_not_lt hfits)]
      rfl

theorem buildMembers_tooDeep : ∀ (ms : List (String × Value)) {room : Nat} {b : NodeHeap}
    {h : SharedHeap}, Shows b h → (∀ m ∈ ms, m.2.WellFormed) → room < Value.heightOfMembers ms →
      buildMembers room ms b = .error .tooDeep
  | [], _, _, _, _, _, hlt => absurd hlt (Nat.not_lt_zero _)
  | (k, v) :: rest, room, b, h, hb, hv, hlt => by
    obtain ⟨hv, hrest⟩ := List.forall_mem_cons.mp hv
    rw [buildMembers]
    by_cases hfits : v.height < room
    · obtain ⟨b₁, hbuild, hb₁⟩ := buildAt_placed v hb hv hfits
      have hlt' : room < Value.heightOfMembers rest := by
        simp only [Value.heightOfMembers] at hlt
        omega
      simp only [hbuild, Except.ok_bind, buildMembers_tooDeep rest hb₁ hrest hlt',
        Except.error_bind]
    · rw [buildAt_tooDeep v hb hv (Nat.le_of_not_lt hfits)]
      rfl

end

/-- Copying a value in is placing it. -/
theorem toGuest_shows {b : NodeHeap} {h : SharedHeap} (hb : Shows b h) {v : Value}
    (hv : v.WellFormed) :
    Shows (b.toGuest v).2 (h.toGuest v).2 ∧ (b.toGuest v).1 = (h.toGuest v).1.map .node := by
  by_cases hfits : v.height ≤ maxDepth
  · obtain ⟨b', hbuild, hb'⟩ := buildAt_placed v hb hv (Nat.lt_succ_of_le hfits)
    simp only [toGuest, hbuild, SharedHeap.toGuest, if_pos hfits]
    exact ⟨hb', rfl⟩
  · have hdeep := buildAt_tooDeep v hb hv (Nat.lt_of_not_le hfits)
    simp only [toGuest, hdeep, SharedHeap.toGuest, if_neg hfits]
    exact ⟨hb, rfl⟩

/-- The reference carries the node. -/
def Carries (r : Reference) (n : Node) : Prop := r = .node n

namespace Shows

variable {b : NodeHeap} {h : SharedHeap}

theorem arraySet (hb : Shows b h) (a : Node) (i : Nat) (x : Node) :
    Except.Agree Shows (b.arraySet (.node a) i (.node x)) (h.arraySet a i x) := by
  cases a with
  | array cell =>
    simp only [NodeHeap.arraySet, SharedHeap.arraySet, node, arrayCell, SharedHeap.arrayCell,
      Except.ok_bind, pure_bind, hb.size]
    by_cases hi : i < (h.items cell).length
    · rw [if_pos hi, if_pos hi]
      refine ⟨?_, hb.objects, hb.literals⟩
      rw [Array.toList_setIfInBounds, List.map_set, hb.arrays, Array.toList_setIfInBounds, hb.items]
    · rw [if_neg hi, if_neg hi]
      exact rfl
  | _ => exact rfl

theorem objectSet (hb : Shows b h) (o : Node) (key : String) (x : Node) :
    Except.Agree Shows (b.objectSet (.node o) key (.node x)) (h.objectSet o key x) := by
  cases o with
  | object cell =>
    refine ⟨hb.arrays, ?_, hb.literals⟩
    rw [Array.toList_setIfInBounds, List.map_set, hb.objects, Members.listing_append, hb.members]
    rfl
  | _ => exact rfl

theorem arrayGet (hb : Shows b h) (a : Node) (i : Nat) :
    Except.Agree Carries (b.arrayGet (.node a) i) (h.arrayGet a i) := by
  cases a with
  | array cell =>
    have hget : (b.itemsOf cell)[i]? = (h.items cell)[i]? := by
      rw [← hb.items cell, Array.getElem?_toList]
    simp only [NodeHeap.arrayGet, SharedHeap.arrayGet, node, arrayCell, SharedHeap.arrayCell,
      Except.ok_bind, pure_bind, hget, hb.size]
    cases (h.items cell)[i]? with
    | none => exact rfl
    | some n => exact rfl
  | _ => exact rfl

end Shows

/-- References of the engine cannot be told from the shared heap. -/
def simulation : Simulation NodeHeap SharedHeap where
  World := Unit
  Extends _ _ := True
  Same _ := Carries
  Stands _ := Shows
  Full _ := False
  refl _ := trivial
  trans _ _ := trivial
  mono _ h := h
  start := ⟨(), rfl, rfl, rfl⟩
  undefined _ := rfl
  toGuest hb v hv := by
    obtain ⟨hshows, hresult⟩ := toGuest_shows hb hv
    refine .inr ⟨(), trivial, hshows, ?_⟩
    change Except.Agree Carries (NodeHeap.toGuest _ v).1 (SharedHeap.toGuest _ v).1
    rw [hresult]
    cases (SharedHeap.toGuest _ v).1 <;> exact rfl
  toHost hb g n hg := by
    subst hg
    exact hb.readAt _ _
  kind _ g n hg := by
    subst hg
    rfl
  newArray hb n := by
    obtain ⟨hcell, hadd⟩ := hb.addArray (Array.toList_replicate (n := n) (a := Node.undefined))
    exact .inr ⟨(), trivial, hadd, congrArg Reference.node hcell⟩
  arrayLength hb g n hg := by
    subst hg
    cases n with
    | array cell => exact congrArg Except.ok (hb.size cell)
    | _ => rfl
  arrayGet hb g n hg i := by
    subst hg
    exact hb.arrayGet n i
  arraySet hb g n hg i x x' hx := by
    subst hg hx
    exact hb.arraySet n i x'
  newObject hb := by
    obtain ⟨hcell, hadd⟩ := hb.addObject Members.listing_nil.symm
    exact .inr ⟨(), trivial, hadd, congrArg Reference.node hcell⟩
  objectGet {_ b h} hb g n hg key := by
    subst hg
    cases n with
    | object cell =>
      change Option.Rel Carries ((Members.get? key (b.membersOf cell)).map .node)
        (Members.get? key (h.members cell))
      rw [hb.members]
      cases Members.get? key (h.members cell) with
      | none => exact .none
      | some m => exact .some rfl
    | _ => exact rfl
  objectSet hb g n hg key x x' hx := by
    subst hg hx
    exact hb.objectSet n key x'
  objectKeys hb g n hg := by
    subst hg
    cases n with
    | object cell => exact congrArg (fun m => Except.ok (Members.keys m)) (hb.members cell)
    | _ => rfl
  intern {_ b h} hb p n text := by
    refine .inr ⟨(), trivial, ?_⟩
    change Shows (b.intern p n text).2 (h.intern p n text).2 ∧
      Except.Agree Carries (b.intern p n text).1 (h.intern p n text).1
    rw [NodeHeap.intern, interned?, hb.literals, SharedHeap.intern]
    cases h.literals.lookup (p, n) with
    | some s => exact ⟨hb, rfl⟩
    | none => exact ⟨⟨hb.arrays, hb.objects, rfl⟩, rfl⟩

end GuestHost.NodeHeap
