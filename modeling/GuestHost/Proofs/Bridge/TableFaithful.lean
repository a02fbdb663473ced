import GuestHost.Proofs.Bridge.TableClosed
/-!
What copying a value into a table comes to. However far it gets, no handle dangles; if it gets to the end,
the new handle leads to the value; and there are two things only that can stop it.
-/
namespace GuestHost

namespace Value

mutual

/-- How many slots a copy of the value takes. -/
def slots : Value → Nat
  | undefined => 0
  | null => 0
  | array items => slotsOfItems items + 1
  | object members => slotsOfMembers members + 1
  | _ => 1

def slotsOfItems : List Value → Nat
  | [] => 0
  | v :: rest => v.slots + slotsOfItems rest

def slotsOfMembers : List (String × Value) → Nat
  | [] => 0
  | (_, v) :: rest => v.slots + slotsOfMembers rest

end

end Value

namespace HandleTable

/-- A copy from `t` on that takes no more than `cost` slots. It fails for depth unless it `fits`, and for
want of slots only if there are too few for all of it. -/
structure Copied {α : Type} (cost : Nat) (fits : Prop) (P : HandleTable → α → Prop) (t : HandleTable)
    (r : Except BridgeError α × HandleTable) : Prop where
  grown : Grown t r.2
  closed : Closed r.2
  size : r.2.size ≤ t.size + cost
  ok : ∀ a, r.1 = .ok a → fits ∧ P r.2 a
  error : ∀ e, r.1 = .error e → e = .tooDeep ∧ ¬fits ∨ e = .exhausted ∧ capacity < t.size + cost

namespace Copied

variable {α δ : Type} {t : HandleTable} {r : Except BridgeError α × HandleTable} {cost cost' : Nat}
  {fits fits' : Prop} {P : HandleTable → α → Prop} {Q : HandleTable → δ → Prop}

theorem tooDeep (h : Closed t) (hfits : ¬fits) : Copied cost fits P t (.error .tooDeep, t) where
  grown := Grown.refl t
  closed := h
  size := Nat.le_add_right _ _
  ok := nofun
  error := by
    rintro e he
    cases he
    exact .inl ⟨rfl, hfits⟩

theorem pure (h : Closed t) {a : α} (hfits : fits) (ha : P t a) : Copied 0 fits P t (.ok a, t) where
  grown := Grown.refl t
  closed := h
  size := Nat.le_refl _
  ok := by
    rintro a' ha'
    cases ha'
    exact ⟨hfits, ha⟩
  error := nofun

theorem push (h : Closed t) {s : Slot} (hs : ∀ x ∈ s.handles, t.Valid x) (hfits : fits)
    {P : HandleTable → Handle → Prop}
    (hP : ∀ t' g, Grown t t' → t'.slot? g = some s → P t' g) : Copied 1 fits P t (t.push s) := by
  have hgrown := Grown.push t s
  have hclosed := h.push hs
  by_cases hroom : t.slots.size < capacity
  · have hslot := slot?_push_size (s := s) hroom
    refine ⟨hgrown, hclosed, ?_, ?_, ?_⟩
    · rw [HandleTable.push, if_pos hroom]
      exact Nat.le_of_eq (Array.size_push s)
    · intro g hg
      rw [HandleTable.push, if_pos hroom, Except.ok.injEq] at hg
      subst hg
      exact ⟨hfits, hP _ _ hgrown hslot⟩
    · intro e he
      rw [HandleTable.push, if_pos hroom] at he
      cases he
  · have heq : t.push s = (.error .exhausted, t) := by rw [HandleTable.push, if_neg hroom]
    refine ⟨hgrown, hclosed, ?_, ?_, ?_⟩
    · rw [heq]
      exact Nat.le_succ _
    · intro g hg
      rw [heq] at hg
      cases hg
    · intro e he
      rw [heq] at he
      cases he
      exact .inr ⟨rfl, Nat.lt_succ_of_le (Nat.le_of_not_lt hroom)⟩

theorem congr (h : Copied cost fits P t r) (hfits : fits ↔ fits') : Copied cost fits' P t r where
  grown := h.grown
  closed := h.closed
  size := h.size
  ok a ha := (h.ok a ha).imp_left hfits.mp
  error e he := (h.error e he).imp_left fun he => ⟨he.1, fun hf => he.2 (hfits.mpr hf)⟩

/-- A copy that goes on with what has been copied: it fits if both parts do. -/
theorem chain {f : α → HandleTable → Except BridgeError δ × HandleTable}
    (hr : Copied cost fits P t r)
    (hf : ∀ a t', Grown t t' → Closed t' → P t' a → Copied cost' fits' Q t' (f a t')) :
    Copied (cost + cost') (fits ∧ fits') Q t (HandleTable.chain r f) := by
  rcases r with ⟨e | a, t'⟩
  · refine ⟨hr.grown, hr.closed, ?_, nofun, ?_⟩
    · have := hr.size
      change t'.size ≤ t.size + cost at this
      change t'.size ≤ _
      omega
    · rintro e' he'
      cases he'
      rcases hr.error e rfl with ⟨rfl, hfits⟩ | ⟨rfl, hsize⟩
      · exact .inl ⟨rfl, fun h => hfits h.1⟩
      · exact .inr ⟨rfl, by omega⟩
  · obtain ⟨hfits, ha⟩ := hr.ok a rfl
    have hsize : t'.size ≤ t.size + cost := hr.size
    have hrest := hf a t' hr.grown hr.closed ha
    refine ⟨hr.grown.trans hrest.grown, hrest.closed, ?_, ?_, ?_⟩
    · have := hrest.size
      change (f a t').2.size ≤ _
      omega
    · intro d hd
      obtain ⟨hfits', hQ⟩ := hrest.ok d hd
      exact ⟨⟨hfits, hfits'⟩, hQ⟩
    · intro e he
      rcases hrest.error e he with ⟨rfl, hfits'⟩ | ⟨rfl, hroom⟩
      · exact .inl ⟨rfl, fun h => hfits' h.2⟩
      · exact .inr ⟨rfl, by omega⟩

/-- What goes on with the copy need not fit. -/
theorem chain_sure {f : α → HandleTable → Except BridgeError δ × HandleTable}
    (hr : Copied cost fits P t r)
    (hf : ∀ a t', Grown t t' → Closed t' → P t' a → Copied cost' True Q t' (f a t')) :
    Copied (cost + cost') fits Q t (HandleTable.chain r f) := (hr.chain hf).congr (and_true _).to_iff

theorem chain_pure {g : α → δ} (hr : Copied cost fits P t r)
    (hg : ∀ a t', Grown t t' → Closed t' → P t' a → Q t' (g a)) :
    Copied cost fits Q t (HandleTable.chain r fun a t => (.ok (g a), t)) :=
  hr.chain_sure fun a t' ht h ha => .pure h trivial (hg a t' ht h ha)

end Copied

theorem valid_of_leadsTo {t : HandleTable} {g : Handle} {v : Value} (h : t.look.LeadsTo g v) :
    t.Valid g := by
  obtain ⟨s, hs⟩ := h.exists_shape
  obtain ⟨x, hx, -⟩ := look_eq_ok_iff.mp hs
  exact ⟨x, hx⟩

/-- New slots do not change what a handle leads to. -/
theorem Grown.leadsTo {t t' : HandleTable} (h : Grown t t') (ht : Closed t) {g : Handle} {v : Value}
    (hg : t.look.LeadsTo g v) : t'.look.LeadsTo g v :=
  hg.congr ht.closedOn (fun _ => h.look_eq) (valid_of_leadsTo hg)

theorem leadsTo_scalar {t : HandleTable} {g : Handle} {s : Slot} {v : Value} {flat : v.height = 0}
    (hs : t.slot? g = some s) (hshape : s.shape = .scalar v flat) : t.look.LeadsTo g v :=
  .scalar (look_eq_ok_iff.mpr ⟨s, hs, hshape⟩)

/-- A new slot for something without parts. -/
theorem copied_scalar {t : HandleTable} (h : Closed t) {s : Slot} {v : Value} {flat : v.height = 0}
    (hshape : s.shape = .scalar v flat) (room : Nat) :
    Copied 1 (v.height < room + 1) (fun t g => t.look.LeadsTo g v) t (t.push s) := by
  refine .push h ?_ (flat ▸ Nat.succ_pos room) fun t' g _ hg => leadsTo_scalar hg hshape
  rw [Slot.handles, hshape]
  exact nofun

mutual

/-- A copy of a value leads to it, and there is one if there is room. -/
theorem allocAt_copied : ∀ (v : Value) (room : Nat) {t : HandleTable}, Closed t →
    Copied v.slots (v.height < room) (fun t g => t.look.LeadsTo g v) t (allocAt room v t)
  | v, 0, t, h => by
    rw [allocAt]
    exact .tooDeep h (Nat.not_lt_zero _)
  | .undefined, room + 1, t, h =>
    .pure h (Nat.succ_pos room) (leadsTo_scalar h.undefined rfl)
  | .null, room + 1, t, h => .pure h (Nat.succ_pos room) (leadsTo_scalar h.null rfl)
  | .boolean b, room + 1, t, h => copied_scalar h rfl room
  | .integer n, room + 1, t, h => copied_scalar h rfl room
  | .float x, room + 1, t, h => copied_scalar h rfl room
  | .string s, room + 1, t, h => copied_scalar h rfl room
  | .array items, room + 1, t, h => by
    rw [allocAt_array]
    have hitems := allocItems_copied items room h
    rw [Value.height]
    refine (hitems.chain_sure fun gs t' _ h' hgs => ?_).congr Nat.lt_succ_iff.symm
    refine .push h' ?_ trivial fun t'' g ht hg => ?_
    · intro x hx
      obtain ⟨v, -, hv⟩ := hgs.exists_of_mem_left hx
      exact valid_of_leadsTo hv
    · refine .array (look_eq_ok_iff.mpr ⟨_, hg, rfl⟩) ?_
      exact hgs.imp fun _ _ hv => ht.leadsTo h' hv
  | .object members, room + 1, t, h => by
    rw [allocAt_object]
    have hmembers := allocMembers_copied members room h
    rw [Value.height]
    refine (hmembers.chain_sure fun ms t' _ h' hms => ?_).congr Nat.lt_succ_iff.symm
    refine .push h' ?_ trivial fun t'' g ht hg => ?_
    · intro x hx
      obtain ⟨m, hm, rfl⟩ := List.mem_map.mp hx
      obtain ⟨v, -, -, hv⟩ := hms.exists_of_mem_left hm
      exact valid_of_leadsTo hv
    · refine .object (look_eq_ok_iff.mpr ⟨_, hg, rfl⟩) ?_
      exact hms.imp fun _ _ hv => ⟨hv.1, ht.leadsTo h' hv.2⟩

theorem allocItems_copied : ∀ (vs : List Value) (room : Nat) {t : HandleTable}, Closed t →
    Copied (Value.slotsOfItems vs) (Value.heightOfItems vs ≤ room)
      (fun t gs => List.Forall₂ t.look.LeadsTo gs vs) t (allocItems room vs t)
  | [], room, t, h => by
    rw [allocItems]
    exact .pure h (Nat.zero_le room) .nil
  | v :: rest, room, t, h => by
    rw [allocItems_cons]
    have hhead := allocAt_copied v room h
    refine (hhead.chain fun g t' _ h' hg => ?_).congr Nat.max_le.symm
    have hrest := allocItems_copied rest room h'
    -- the first handle still leads to its value when the rest has been copied
    exact hrest.chain_pure fun gs t'' ht h'' hgs => .cons (ht.leadsTo h' hg) hgs

theorem allocMembers_copied : ∀ (ms : List (String × Value)) (room : Nat) {t : HandleTable}, Closed t →
    Copied (Value.slotsOfMembers ms) (Value.heightOfMembers ms ≤ room)
      (fun t gs => List.Forall₂ (fun m m' => m.1 = m'.1 ∧ t.look.LeadsTo m.2 m'.2) gs ms) t
      (allocMembers room ms t)
  | [], room, t, h => by
    rw [allocMembers]
    exact .pure h (Nat.zero_le room) .nil
  | (k, v) :: rest, room, t, h => by
    rw [allocMembers_cons]
    have hhead := allocAt_copied v room h
    refine (hhead.chain fun g t' _ h' hg => ?_).congr Nat.max_le.symm
    have hrest := allocMembers_copied rest room h'
    exact hrest.chain_pure fun ms t'' ht h'' hms => .cons ⟨rfl, ht.leadsTo h' hg⟩ hms

end

end HandleTable
end GuestHost
