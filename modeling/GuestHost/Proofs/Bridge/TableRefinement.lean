import GuestHost.Proofs.Bridge.Simulation
import GuestHost.Proofs.Bridge.TableCopying
/-!
Handles refine the shared heap: what is done to a handle is done to the node that it stands for, and what is
copied in or made anew stands for a node in a wider world.
-/
namespace GuestHost.HandleTable

namespace Stands

variable {w : World} {t : HandleTable} {h : SharedHeap}

theorem slot_eq (hs : Stands w t h) {g : Handle} {n : Node} (hg : w.Same g n) :
    ∃ s, t.slot g = .ok s ∧ Holds w h s n := by
  obtain ⟨s, hslot, hholds⟩ := hs.slot g n hg
  refine ⟨s, ?_, hholds⟩
  rw [HandleTable.slot, hslot]

/-- What is read of a handle is what is read of its node. -/
theorem readAt (hs : Stands w t h) (room : Nat) {g : Handle} {n : Node} (hg : w.Same g n) :
    t.readAt room g = h.readAt room n := by
  induction room generalizing g n with
  | zero => rfl
  | succ room ih =>
    obtain ⟨s, hslot, hholds⟩ := hs.slot_eq hg
    rw [HandleTable.readAt, hslot, Except.ok_bind]
    cases s <;> cases n <;> try exact hholds.elim
    case array.array items cell =>
      obtain ⟨ns, hcell, hns⟩ := hholds
      have hitems : h.items cell = ns := by rw [SharedHeap.items, hcell, Option.getD_some]
      have hread := Except.mapM_eq_mapM hns fun a b hab => ih hab
      simp only [SharedHeap.readAt, hitems, hread]
    case object.object ms cell =>
      obtain ⟨sets, hcell, hsets⟩ := hholds
      have hmembers : h.members cell = Members.listing sets := by
        rw [SharedHeap.members, SharedHeap.sets, hcell, Option.getD_some]
      have hread : (ms.mapM fun m => do return (m.1, ← t.readAt room m.2)) =
          (Members.listing sets).mapM fun m => do return (m.1, ← h.readAt room m.2) := by
        refine Except.mapM_eq_mapM hsets fun a b hab => ?_
        rw [hab.1, ih hab.2]
      simp only [SharedHeap.readAt, hmembers, hread]
    all_goals
      cases hholds
      rfl

/-- The items of an array, and those of its cell. -/
theorem array (hs : Stands w t h) {g : Handle} {n : Node} (hg : w.Same g n) :
    Except.Agree (fun items cell => n = .array cell ∧ t.slot? g = some (.array items) ∧
        ∃ ns, h.arrays[cell]? = some ns ∧ List.Forall₂ w.Same items.toList ns)
      (t.array g) (SharedHeap.arrayCell n) := by
  obtain ⟨s, hslot?, hholds⟩ := hs.slot g n hg
  obtain ⟨s', hslot, -⟩ := hs.slot_eq hg
  have hkind := hholds.kind
  have hs' : s' = s := by
    rw [HandleTable.slot, hslot?, Except.ok.injEq] at hslot
    exact hslot.symm
  subst hs'
  rw [HandleTable.array, hslot, Except.ok_bind]
  cases s' <;> cases n <;> first
    | exact hholds.elim
    | exact congrArg _ hkind
    | exact ⟨rfl, hslot?, hholds⟩

/-- The members of an object, and those of its cell. -/
theorem object (hs : Stands w t h) {g : Handle} {n : Node} (hg : w.Same g n) :
    Except.Agree (fun ms cell => n = .object cell ∧ t.slot? g = some (.object ms) ∧
        ∃ sets, h.objects[cell]? = some sets ∧ List.Forall₂ w.SameMember ms (Members.listing sets))
      (t.object g) (SharedHeap.objectCell n) := by
  obtain ⟨s, hslot?, hholds⟩ := hs.slot g n hg
  obtain ⟨s', hslot, -⟩ := hs.slot_eq hg
  have hkind := hholds.kind
  have hs' : s' = s := by
    rw [HandleTable.slot, hslot?, Except.ok.injEq] at hslot
    exact hslot.symm
  subst hs'
  rw [HandleTable.object, hslot, Except.ok_bind]
  cases s' <;> cases n <;> first
    | exact hholds.elim
    | exact congrArg _ hkind
    | exact ⟨rfl, hslot?, hholds⟩

/-- Another slot in the place of the one for a node, while the other cells of the heap stay. -/
theorem put (hs : Stands w t h) {g : Handle} {n : Node} (hg : w.Same g n) {s : Slot} {h' : SharedHeap}
    (hholds : Holds w h' s n)
    (harrays : ∀ c, n ≠ .array c → h'.arrays[c]? = h.arrays[c]?)
    (hobjects : ∀ c, n ≠ .object c → h'.objects[c]? = h.objects[c]?)
    (hliterals : h'.literals = h.literals) : Stands w (t.put g s) h' := by
  obtain ⟨s₀, hslot₀, -⟩ := hs.slot g n hg
  have hbounds : 0 ≤ g ∧ g.toNat < t.slots.size := by
    unfold slot? at hslot₀
    split at hslot₀
    · next hnonneg => exact ⟨hnonneg, (Array.getElem?_eq_some_iff.mp hslot₀).1⟩
    · cases hslot₀
  refine ⟨?_, hs.arrays, hs.objects, ?_⟩
  · intro g' n' hg'
    by_cases heq : g' = g
    · subst heq
      have hn : n' = n := Option.some.inj (hg'.symm.trans hg)
      subst hn
      refine ⟨s, ?_, hholds⟩
      unfold slot? HandleTable.put
      rw [if_pos hbounds.1, Array.getElem?_setIfInBounds_self_of_lt hbounds.2]
    · obtain ⟨s', hslot, hholds'⟩ := hs.slot g' n' hg'
      -- Another handle has another container: no two handles stand for one.
      have hne : ∀ c, (n' = .array c → n ≠ .array c) ∧ (n' = .object c → n ≠ .object c) := by
        intro c
        constructor
        · rintro rfl rfl
          exact heq (hs.arrays g' g c hg' hg)
        · rintro rfl rfl
          exact heq (hs.objects g' g c hg' hg)
      refine ⟨s', ?_, ?_⟩
      · unfold slot? HandleTable.put at *
        split at hslot
        · next hnonneg =>
          have hnat : g.toNat ≠ g'.toNat := by
            intro h
            have hcast : (g'.toNat : Int) = g.toNat := congrArg _ h.symm
            rw [Int.toNat_of_nonneg hnonneg, Int.toNat_of_nonneg hbounds.1] at hcast
            exact heq hcast
          rw [if_pos hnonneg, Array.getElem?_setIfInBounds_ne hnat]
          exact hslot
        · cases hslot
      · cases s' <;> cases n' <;> try exact hholds'
        case array.array items c =>
          obtain ⟨ns, hcell, hns⟩ := hholds'
          exact ⟨ns, (harrays c ((hne c).1 rfl)).trans hcell, hns⟩
        case object.object ms c =>
          obtain ⟨sets, hcell, hsets⟩ := hholds'
          exact ⟨sets, (hobjects c ((hne c).2 rfl)).trans hcell, hsets⟩
  · intro p k
    rw [hliterals]
    exact hs.literals p k

theorem arraySet (hs : Stands w t h) {g x : Handle} {n m : Node} (hg : w.Same g n) (i : Nat)
    (hx : w.Same x m) : Except.Agree (Stands w) (t.arraySet g i x) (h.arraySet n i m) := by
  obtain ⟨s, hslot, -⟩ := hs.slot_eq hx
  have harray := hs.array hg
  unfold HandleTable.arraySet SharedHeap.arraySet
  rw [hslot, Except.ok_bind]
  rcases hitems : t.array g with e | items <;> rcases hcell : SharedHeap.arrayCell n with e' | cell <;>
    rw [hitems, hcell] at harray
  · exact harray
  · exact harray.elim
  · exact harray.elim
  · obtain ⟨rfl, -, ns, hns, hsame⟩ := harray
    have hitems : h.items cell = ns := by rw [SharedHeap.items, hns, Option.getD_some]
    have hlen : items.size = ns.length := by rw [← hsame.length_eq, Array.length_toList]
    rw [Except.ok_bind, Except.ok_bind, hitems, hlen]
    by_cases hi : i < ns.length
    · rw [if_pos hi, if_pos hi]
      have hlt : cell < h.arrays.length := (List.getElem?_eq_some_iff.mp hns).1
      refine hs.put hg ⟨ns.set i m, List.getElem?_set_self hlt, ?_⟩ ?_ (fun _ _ => rfl) rfl
      · rw [Array.toList_setIfInBounds]
        exact forall₂_set hsame i hx
      · intro c hc
        exact List.getElem?_set_ne fun e => hc (congrArg Node.array e)
    · rw [if_neg hi, if_neg hi]
      exact rfl

theorem objectSet (hs : Stands w t h) {g x : Handle} {n m : Node} (hg : w.Same g n) (key : String)
    (hx : w.Same x m) : Except.Agree (Stands w) (t.objectSet g key x) (h.objectSet n key m) := by
  obtain ⟨s, hslot, -⟩ := hs.slot_eq hx
  have hobject := hs.object hg
  unfold HandleTable.objectSet SharedHeap.objectSet
  rw [hslot, Except.ok_bind]
  rcases hms : t.object g with e | ms <;> rcases hcell : SharedHeap.objectCell n with e' | cell <;>
    rw [hms, hcell] at hobject
  · exact hobject
  · exact hobject.elim
  · exact hobject.elim
  · obtain ⟨rfl, -, sets, hsets, hsame⟩ := hobject
    have hlt : cell < h.objects.length := (List.getElem?_eq_some_iff.mp hsets).1
    have hlog : h.sets cell = sets := by rw [SharedHeap.sets, hsets, Option.getD_some]
    rw [Except.ok_bind, Except.ok_bind, hlog]
    refine hs.put hg ⟨sets ++ [(key, m)], List.getElem?_set_self hlt, ?_⟩ (fun _ _ => rfl) ?_ rfl
    · rw [Members.listing_append]
      exact sameMembers_set hsame key hx
    · intro c hc
      exact List.getElem?_set_ne fun e => hc (congrArg Node.object e)

theorem arrayGet (hs : Stands w t h) {g : Handle} {n : Node} (hg : w.Same g n) (i : Nat) :
    Except.Agree w.Same (t.arrayGet g i) (h.arrayGet n i) := by
  have harray := hs.array hg
  unfold HandleTable.arrayGet SharedHeap.arrayGet
  rcases hitems : t.array g with e | items <;> rcases hcell : SharedHeap.arrayCell n with e' | cell <;>
    rw [hitems, hcell] at harray
  · exact harray
  · exact harray.elim
  · exact harray.elim
  · obtain ⟨rfl, -, ns, hns, hsame⟩ := harray
    have hitems : h.items cell = ns := by rw [SharedHeap.items, hns, Option.getD_some]
    have hlen : items.size = ns.length := by rw [← hsame.length_eq, Array.length_toList]
    have hget : Option.Rel w.Same items[i]? ns[i]? := by
      rw [← Array.getElem?_toList]
      exact forall₂_getElem? hsame i
    rw [Except.ok_bind, Except.ok_bind, hitems, hlen]
    revert hget
    generalize items[i]? = x
    generalize ns[i]? = y
    intro hget
    cases hget with
    | none => exact rfl
    | some hsame => exact hsame

theorem objectGet (hs : Stands w t h) {g : Handle} {n : Node} (hg : w.Same g n) (key : String) :
    Except.Agree (Option.Rel w.Same) ((t.object g).map (Members.get? key))
      ((SharedHeap.objectCell n).map fun cell => Members.get? key (h.members cell)) := by
  have hobject := hs.object hg
  rcases hms : t.object g with e | ms <;> rcases hcell : SharedHeap.objectCell n with e' | cell <;>
    rw [hms, hcell] at hobject
  · exact hobject
  · exact hobject.elim
  · exact hobject.elim
  · obtain ⟨rfl, -, sets, hsets, hsame⟩ := hobject
    have hmembers : h.members cell = Members.listing sets := by
      rw [SharedHeap.members, SharedHeap.sets, hsets, Option.getD_some]
    simp only [Except.map, hmembers]
    exact sameMembers_get? hsame key

theorem intern (hs : Stands w t h) (p k : Nat) (text : String) :
    ((t.intern p k text).1 = .error .exhausted ∧ Full (t.intern p k text).2) ∨
      ∃ w', w.Extends w' ∧ Stands w' (t.intern p k text).2 (h.intern p k text).2 ∧
        Except.Agree w'.Same (t.intern p k text).1 (h.intern p k text).1 := by
  have hfound := hs.literals p k
  unfold HandleTable.intern SharedHeap.intern
  revert hfound
  generalize t.interned? p k = x
  generalize h.literals.lookup (p, k) = y
  intro hfound
  cases hfound with
  | none =>
    have harray : ∀ c, Node.string text ≠ .array c := by
      intro c hc
      cases hc
    have hobject : ∀ c, Node.string text ≠ .object c := by
      intro c hc
      cases hc
    have hpush := hs.pushScalar (s := .string text) (n := .string text) rfl harray hobject
    rcases heq : t.push (.string text) with ⟨r, t'⟩
    rw [heq] at hpush
    rcases hpush with ⟨he, hfull⟩ | ⟨w', g, hw, hg, hsame, hs'⟩
    · cases he
      exact .inl ⟨rfl, hfull⟩
    · cases hg
      refine .inr ⟨w', hw, ⟨hs'.slot, hs'.arrays, hs'.objects, ?_⟩, hsame⟩
      intro p' k'
      by_cases hkey : (p', k') = (p, k)
      · simp only [interned?, List.lookup_cons, hkey, beq_self_eq_true]
        exact .some hsame
      · simp only [interned?, List.lookup_cons, beq_false_of_ne hkey]
        exact hs'.literals p' k'
  | some hsame => exact .inr ⟨w, fun _ _ e => e, hs, hsame⟩

end Stands

/-- The world of an empty table. -/
def World.start : World where
  node? g :=
    if g = HandleTable.undefined then some .undefined
    else if g = HandleTable.null then some .null
    else none
  undefined := rfl
  null := rfl

theorem Stands.start : Stands World.start {} {} := by
  have hcases : ∀ g n, World.start.node? g = some n →
      g = HandleTable.undefined ∧ n = .undefined ∨ g = HandleTable.null ∧ n = .null := by
    intro g n h
    simp only [World.start] at h
    split at h
    · next hg => exact .inl ⟨hg, (Option.some.inj h).symm⟩
    · split at h
      · next hg => exact .inr ⟨hg, (Option.some.inj h).symm⟩
      · cases h
  refine ⟨?_, ?_, ?_, fun _ _ => .none⟩
  · intro g n hg
    rcases hcases g n hg with ⟨rfl, rfl⟩ | ⟨rfl, rfl⟩
    · exact ⟨.undefined, rfl, trivial⟩
    · exact ⟨.null, rfl, trivial⟩
  · intro g g' c hg
    rcases hcases g _ hg with ⟨-, h⟩ | ⟨-, h⟩ <;> cases h
  · intro g g' c hg
    rcases hcases g _ hg with ⟨-, h⟩ | ⟨-, h⟩ <;> cases h

/-- Handles cannot be told from the shared heap while the table has room. -/
def simulation : Simulation HandleTable SharedHeap where
  World := World
  Extends := World.Extends
  Same := World.Same
  Stands := Stands
  Full := Full
  refl _ _ _ h := h
  trans h h' g n hg := h' g n (h g n hg)
  mono h hg := h _ _ hg
  start := ⟨World.start, Stands.start⟩
  undefined w := w.undefined
  toGuest hs _ hv := hs.alloc hv
  toHost hs _ _ hg := hs.readAt _ hg
  kind {_ t h} hs g n hg := by
    obtain ⟨s, hslot, hholds⟩ := hs.slot_eq hg
    change (t.slot g).map Slot.kind = .ok n.kind
    rw [hslot, ← hholds.kind]
    rfl
  newArray {w t h} hs n := by
    have hns : List.Forall₂ w.Same (Array.replicate n HandleTable.undefined).toList
        (List.replicate n .undefined) := by
      rw [Array.toList_replicate]
      exact forall₂_replicate n w.undefined
    rcases hs.pushArray hns with hfull | ⟨w', g, hw, hg, hsame, hs'⟩
    · exact .inl hfull
    · refine .inr ⟨w', hw, hs', ?_⟩
      change Except.Agree w'.Same (t.push _).1 (.ok (h.addArray _).1)
      rw [hg]
      exact hsame
  arrayLength {w t h} hs g n hg := by
    have harray := hs.array hg
    change (t.array g).map Array.size =
      (SharedHeap.arrayCell n).map fun cell => (h.items cell).length
    rcases hitems : t.array g with e | items <;>
      rcases hcell : SharedHeap.arrayCell n with e' | cell <;> rw [hitems, hcell] at harray
    · exact congrArg _ harray
    · exact harray.elim
    · exact harray.elim
    · obtain ⟨-, -, ns, hns, hsame⟩ := harray
      simp only [Except.map, SharedHeap.items, hns, Option.getD_some, ← hsame.length_eq,
        Array.length_toList]
  arrayGet hs _ _ hg i := hs.arrayGet hg i
  arraySet hs _ _ hg i _ _ hx := hs.arraySet hg i hx
  newObject {w t h} hs := by
    have hempty : List.Forall₂ w.SameMember [] (Members.listing []) := .nil
    rcases hs.pushObject hempty with hfull | ⟨w', g, hw, hg, hsame, hs'⟩
    · exact .inl hfull
    · refine .inr ⟨w', hw, hs', ?_⟩
      change Except.Agree w'.Same (t.push _).1 (.ok (h.addObject _).1)
      rw [hg]
      exact hsame
  objectGet hs _ _ hg key := hs.objectGet hg key
  objectSet hs _ _ hg key _ _ hx := hs.objectSet hg key hx
  objectKeys {w t h} hs g n hg := by
    have hobject := hs.object hg
    change (t.object g).map Members.keys =
      (SharedHeap.objectCell n).map fun cell => Members.keys (h.members cell)
    rcases hms : t.object g with e | ms <;>
      rcases hcell : SharedHeap.objectCell n with e' | cell <;> rw [hms, hcell] at hobject
    · exact congrArg _ hobject
    · exact hobject.elim
    · exact hobject.elim
    · obtain ⟨-, -, sets, hsets, hsame⟩ := hobject
      simp only [Except.map, SharedHeap.members, SharedHeap.sets, hsets, Option.getD_some,
        keys_of_sameMembers hsame]
  intern hs p n text := hs.intern p n text

end GuestHost.HandleTable
