import GuestHost.Proofs.Bridge.TableWorld
import GuestHost.Proofs.Value.WellFormed
/-!
Copying a value into a handle table. What is not too high is copied as the shared heap places it, part by
part, unless the table has no room for a part; everything else is refused, and leaves the table with slots
that no handle leads to.
-/
namespace GuestHost.HandleTable

open SharedHeap (place placeItems placeMembers keys_placeMembers)

/-- Goes on with what has been made in the table that is left, unless that has failed. -/
def chain {α δ : Type} (r : Except BridgeError α × HandleTable)
    (f : α → HandleTable → Except BridgeError δ × HandleTable) : Except BridgeError δ × HandleTable :=
  match r with
  | (.ok a, t) => f a t
  | (.error e, t) => (.error e, t)

theorem allocAt_array (room : Nat) (items : List Value) (t : HandleTable) :
    allocAt (room + 1) (.array items) t =
      chain (allocItems room items t) fun gs t => t.push (.array gs.toArray) := by
  rw [allocAt]
  rcases allocItems room items t with ⟨e | gs, t'⟩ <;> rfl

theorem allocAt_object (room : Nat) (members : List (String × Value)) (t : HandleTable) :
    allocAt (room + 1) (.object members) t =
      chain (allocMembers room members t) fun ms t => t.push (.object ms) := by
  rw [allocAt]
  rcases allocMembers room members t with ⟨e | ms, t'⟩ <;> rfl

theorem allocItems_cons (room : Nat) (v : Value) (rest : List Value) (t : HandleTable) :
    allocItems room (v :: rest) t =
      chain (allocAt room v t) fun g t =>
        chain (allocItems room rest t) fun gs t => (.ok (g :: gs), t) := by
  rw [allocItems]
  rcases allocAt room v t with ⟨e | g, t'⟩
  · rfl
  · simp only [chain]
    rcases allocItems room rest t' with ⟨e | gs, t''⟩ <;> rfl

theorem allocMembers_cons (room : Nat) (k : String) (v : Value) (rest : List (String × Value))
    (t : HandleTable) :
    allocMembers room ((k, v) :: rest) t =
      chain (allocAt room v t) fun g t =>
        chain (allocMembers room rest t) fun ms t => (.ok ((k, g) :: ms), t) := by
  rw [allocMembers]
  rcases allocAt room v t with ⟨e | g, t'⟩
  · rfl
  · simp only [chain]
    rcases allocMembers room rest t' with ⟨e | ms, t''⟩ <;> rfl

/-- What is too high cannot be copied; a full table may be noticed first. -/
def Refused {α : Type} (r : Except BridgeError α × HandleTable) : Prop :=
  (r.1 = .error .exhausted ∧ Full r.2) ∨ r.1 = .error .tooDeep

section

variable {α δ : Type} {r : Except BridgeError α × HandleTable}
  {f : α → HandleTable → Except BridgeError δ × HandleTable} {t : HandleTable} {w : World}
  {h h' : SharedHeap} {P : World → α → Prop} {Q : World → δ → Prop}

theorem Grown.chain (hr : Grown t r.2) (hf : ∀ a t', Grown t' (f a t').2) :
    Grown t (HandleTable.chain r f).2 := by
  rcases r with ⟨e | a, t'⟩
  · exact hr
  · exact hr.trans (hf a t')

/-- What is made of something placed is placed, in the world and on the heap that it is placed in. -/
theorem Placed.chain (hr : Placed w r P h)
    (hf : ∀ w' a t', w.Extends w' → P w' a → Stands w' t' h → Placed w' (f a t') Q h') :
    Placed w (HandleTable.chain r f) Q h' := by
  rcases r with ⟨r, t'⟩
  rcases hr with ⟨he, hfull⟩ | ⟨w', a, hw, ha, hP, hs⟩
  · cases he
    exact .inl ⟨rfl, hfull⟩
  · cases ha
    rcases hf w' a t' hw hP hs with hfull | ⟨w'', b, hw', hb, hQ, hs'⟩
    · exact .inl hfull
    · exact .inr ⟨w'', b, fun _ _ e => hw' _ _ (hw _ _ e), hb, hQ, hs'⟩

theorem Refused.chain (hr : Refused r) : Refused (HandleTable.chain r f) := by
  rcases r with ⟨r, t'⟩
  rcases hr with ⟨he, hfull⟩ | he <;> cases he
  · exact .inl ⟨rfl, hfull⟩
  · exact .inr rfl

/-- What is refused after something has been placed is refused. -/
theorem Placed.chain_refused (hr : Placed w r P h)
    (hf : ∀ w' a t', P w' a → Stands w' t' h → Refused (f a t')) :
    Refused (HandleTable.chain r f) := by
  rcases r with ⟨r, t'⟩
  rcases hr with ⟨he, hfull⟩ | ⟨w', a, hw, ha, hP, hs⟩
  · cases he
    exact .inl ⟨rfl, hfull⟩
  · cases ha
    exact hf w' a t' hP hs

end

mutual

theorem allocAt_grown : ∀ (v : Value) (room : Nat) (t : HandleTable), Grown t (allocAt room v t).2
  | _, 0, t => by
    rw [allocAt]
    exact Grown.refl t
  | .undefined, _ + 1, t => Grown.refl t
  | .null, _ + 1, t => Grown.refl t
  | .boolean _, _ + 1, t => Grown.push t _
  | .integer _, _ + 1, t => Grown.push t _
  | .float _, _ + 1, t => Grown.push t _
  | .string _, _ + 1, t => Grown.push t _
  | .array items, room + 1, t => by
    rw [allocAt_array]
    exact (allocItems_grown items room t).chain fun _ t' => Grown.push t' _
  | .object members, room + 1, t => by
    rw [allocAt_object]
    exact (allocMembers_grown members room t).chain fun _ t' => Grown.push t' _

theorem allocItems_grown : ∀ (vs : List Value) (room : Nat) (t : HandleTable),
    Grown t (allocItems room vs t).2
  | [], _, t => by
    rw [allocItems]
    exact Grown.refl t
  | v :: rest, room, t => by
    rw [allocItems_cons]
    refine (allocAt_grown v room t).chain fun g t' => ?_
    exact (allocItems_grown rest room t').chain fun _ t'' => Grown.refl t''

theorem allocMembers_grown : ∀ (ms : List (String × Value)) (room : Nat) (t : HandleTable),
    Grown t (allocMembers room ms t).2
  | [], _, t => by
    rw [allocMembers]
    exact Grown.refl t
  | (k, v) :: rest, room, t => by
    rw [allocMembers_cons]
    refine (allocAt_grown v room t).chain fun g t' => ?_
    exact (allocMembers_grown rest room t').chain fun _ t'' => Grown.refl t''

end

mutual

/-- A value that is not too high is copied as the shared heap places it. -/
theorem allocAt_placed : ∀ (v : Value) {room : Nat} {w : World} {t : HandleTable} {h : SharedHeap},
    Stands w t h → v.WellFormed → v.height < room →
      Placed w (allocAt room v t) (fun w g => w.Same g (place v h).1) (place v h).2
  | _, 0, _, _, _, _, _, hlt => absurd hlt (Nat.not_lt_zero _)
  | .undefined, _ + 1, w, _, _, hs, _, _ => .inr ⟨w, _, fun _ _ e => e, rfl, w.undefined, hs⟩
  | .null, _ + 1, w, _, _, hs, _, _ => .inr ⟨w, _, fun _ _ e => e, rfl, w.null, hs⟩
  | .boolean b, _ + 1, _, _, _, hs, _, _ =>
    hs.pushScalar (s := .boolean b) (n := .boolean b) rfl nofun nofun
  | .integer i, _ + 1, _, _, _, hs, _, _ =>
    hs.pushScalar (s := .integer i) (n := .integer i) rfl nofun nofun
  | .float x, _ + 1, _, _, _, hs, _, _ =>
    hs.pushScalar (s := .float x) (n := .float x) rfl nofun nofun
  | .string x, _ + 1, _, _, _, hs, _, _ =>
    hs.pushScalar (s := .string x) (n := .string x) rfl nofun nofun
  | .array items, room + 1, w, t, h, hs, hv, hlt => by
    have hitems := allocItems_placed items hs (Value.wellFormed_array.mp hv) (Nat.le_of_lt_succ hlt)
    rw [allocAt_array, place]
    refine hitems.chain fun w' gs t' _ hsame hs' => ?_
    have hsame' : List.Forall₂ w'.Same gs.toArray.toList (placeItems items h).1 := hsame
    exact hs'.pushArray hsame'
  | .object members, room + 1, w, t, h, hs, hv, hlt => by
    obtain ⟨hnodup, hall⟩ := Value.wellFormed_object.mp hv
    have hmembers := allocMembers_placed members hs hall (Nat.le_of_lt_succ hlt)
    have hlisting := Members.listing_of_nodup ((keys_placeMembers members h).symm ▸ hnodup)
    rw [allocAt_object, place]
    refine hmembers.chain fun w' ms t' _ hsame hs' => ?_
    rw [← hlisting] at hsame
    exact hs'.pushObject hsame

theorem allocItems_placed : ∀ (vs : List Value) {room : Nat} {w : World} {t : HandleTable}
    {h : SharedHeap}, Stands w t h → (∀ v ∈ vs, v.WellFormed) → Value.heightOfItems vs ≤ room →
      Placed w (allocItems room vs t) (fun w gs => List.Forall₂ w.Same gs (placeItems vs h).1)
        (placeItems vs h).2
  | [], _, w, t, _, hs, _, _ => by
    rw [allocItems]
    exact .inr ⟨w, [], fun _ _ e => e, rfl, .nil, hs⟩
  | v :: rest, room, w, t, h, hs, hv, hle => by
    obtain ⟨hv, hrest⟩ := List.forall_mem_cons.mp hv
    obtain ⟨hle, hle'⟩ := Nat.max_le.mp hle
    rw [allocItems_cons]
    refine (allocAt_placed v hs hv hle).chain fun w₁ g t₁ _ hsame hs₁ => ?_
    -- the rest may widen the world; the first handle goes on standing for its node
    refine (allocItems_placed rest hs₁ hrest hle').chain fun w₂ gs t₂ hw₂ hsames hs₂ => ?_
    exact .inr ⟨w₂, g :: gs, fun _ _ e => e, rfl, .cons (hw₂ _ _ hsame) hsames, hs₂⟩

theorem allocMembers_placed : ∀ (ms : List (String × Value)) {room : Nat} {w : World}
    {t : HandleTable} {h : SharedHeap}, Stands w t h → (∀ m ∈ ms, m.2.WellFormed) →
      Value.heightOfMembers ms ≤ room →
        Placed w (allocMembers room ms t)
          (fun w gs => List.Forall₂ w.SameMember gs (placeMembers ms h).1) (placeMembers ms h).2
  | [], _, w, t, _, hs, _, _ => by
    rw [allocMembers]
    exact .inr ⟨w, [], fun _ _ e => e, rfl, .nil, hs⟩
  | (k, v) :: rest, room, w, t, h, hs, hv, hle => by
    obtain ⟨hv, hrest⟩ := List.forall_mem_cons.mp hv
    obtain ⟨hle, hle'⟩ := Nat.max_le.mp hle
    rw [allocMembers_cons]
    refine (allocAt_placed v hs hv hle).chain fun w₁ g t₁ _ hsame hs₁ => ?_
    refine (allocMembers_placed rest hs₁ hrest hle').chain fun w₂ ms t₂ hw₂ hsames hs₂ => ?_
    exact .inr ⟨w₂, (k, g) :: ms, fun _ _ e => e, rfl, .cons ⟨rfl, hw₂ _ _ hsame⟩ hsames, hs₂⟩

end

mutual

theorem allocAt_refused : ∀ (v : Value) {room : Nat} {w : World} {t : HandleTable} {h : SharedHeap},
    Stands w t h → v.WellFormed → room ≤ v.height → Refused (allocAt room v t)
  | _, 0, _, _, _, _, _, _ => .inr (by rw [allocAt])
  | .array items, room + 1, w, t, h, hs, hv, hle => by
    rw [allocAt_array]
    exact (allocItems_refused items hs (Value.wellFormed_array.mp hv) hle).chain
  | .object members, room + 1, w, t, h, hs, hv, hle => by
    rw [allocAt_object]
    exact (allocMembers_refused members hs (Value.wellFormed_object.mp hv).2 hle).chain
  | .undefined, _ + 1, _, _, _, _, _, hle => absurd hle (Nat.not_succ_le_zero _)
  | .null, _ + 1, _, _, _, _, _, hle => absurd hle (Nat.not_succ_le_zero _)
  | .boolean _, _ + 1, _, _, _, _, _, hle => absurd hle (Nat.not_succ_le_zero _)
  | .integer _, _ + 1, _, _, _, _, _, hle => absurd hle (Nat.not_succ_le_zero _)
  | .float _, _ + 1, _, _, _, _, _, hle => absurd hle (Nat.not_succ_le_zero _)
  | .string _, _ + 1, _, _, _, _, _, hle => absurd hle (Nat.not_succ_le_zero _)

/-- The first item that is too high is refused, after those before it have been placed. -/
theorem allocItems_refused : ∀ (vs : List Value) {room : Nat} {w : World} {t : HandleTable}
    {h : SharedHeap}, Stands w t h → (∀ v ∈ vs, v.WellFormed) → room < Value.heightOfItems vs →
      Refused (allocItems room vs t)
  | [], _, _, _, _, _, _, hlt => absurd hlt (Nat.not_lt_zero _)
  | v :: rest, room, w, t, h, hs, hv, hlt => by
    obtain ⟨hv, hrest⟩ := List.forall_mem_cons.mp hv
    rw [allocItems_cons]
    by_cases hfits : v.height < room
    · refine (allocAt_placed v hs hv hfits).chain_refused fun w₁ g t₁ _ hs₁ => ?_
      have hlt' : room < Value.heightOfItems rest := by
        simp only [Value.heightOfItems] at hlt
        omega
      exact (allocItems_refused rest hs₁ hrest hlt').chain
    · exact (allocAt_refused v hs hv (Nat.le_of_not_lt hfits)).chain

theorem allocMembers_refused : ∀ (ms : List (String × Value)) {room : Nat} {w : World}
    {t : HandleTable} {h : SharedHeap}, Stands w t h → (∀ m ∈ ms, m.2.WellFormed) →
      room < Value.heightOfMembers ms → Refused (allocMembers room ms t)
  | [], _, _, _, _, _, _, hlt => absurd hlt (Nat.not_lt_zero _)
  | (k, v) :: rest, room, w, t, h, hs, hv, hlt => by
    obtain ⟨hv, hrest⟩ := List.forall_mem_cons.mp hv
    rw [allocMembers_cons]
    by_cases hfits : v.height < room
    · refine (allocAt_placed v hs hv hfits).chain_refused fun w₁ g t₁ _ hs₁ => ?_
      have hlt' : room < Value.heightOfMembers rest := by
        simp only [Value.heightOfMembers] at hlt
        omega
      exact (allocMembers_refused rest hs₁ hrest hlt').chain
    · exact (allocAt_refused v hs hv (Nat.le_of_not_lt hfits)).chain

end

/-- Copying a value in is placing it. -/
theorem Stands.alloc {w : World} {t : HandleTable} {h : SharedHeap} (hs : Stands w t h)
    {v : Value} (hv : v.WellFormed) :
    ((t.alloc v).1 = .error .exhausted ∧ Full (t.alloc v).2) ∨
      ∃ w', w.Extends w' ∧ Stands w' (t.alloc v).2 (h.toGuest v).2 ∧
        Except.Agree w'.Same (t.alloc v).1 (h.toGuest v).1 := by
  unfold HandleTable.alloc SharedHeap.toGuest
  by_cases hfits : v.height ≤ maxDepth
  · rw [if_pos hfits]
    rcases allocAt_placed v hs hv (Nat.lt_succ_of_le hfits) with hfull | ⟨w', g, hw, hg, hsame, hs'⟩
    · exact .inl hfull
    · refine .inr ⟨w', hw, hs', ?_⟩
      rw [hg]
      exact hsame
  · rw [if_neg hfits]
    have hgrown := allocAt_grown v (maxDepth + 1) t
    rcases allocAt_refused v hs hv (Nat.lt_of_not_le hfits) with hfull | he
    · exact .inl hfull
    · refine .inr ⟨w, fun _ _ e => e, hs.grown hgrown, ?_⟩
      rw [he]
      exact rfl

end GuestHost.HandleTable
