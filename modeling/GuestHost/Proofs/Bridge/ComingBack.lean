import GuestHost.Proofs.Bridge.HeapRun
import GuestHost.Proofs.Bridge.TableRun
/-!
Values that cross to the guest's side and back. What is copied in reads back as it was, whatever state a
program has brought the bridge to, and the walk in and the walk out agree on how deep a value may be.
-/
namespace GuestHost

/-- Copying the value in ends well unless one of its parts lies in more containers than may be; then it
reads back, and what is held reads as it did. -/
structure ComesBack {β γ : Type} [Bridge β γ] (b : β) (held : List γ) (v : Value) : Prop where
  fits : (∃ g, (Bridge.toGuest b v).1 = .ok g) ↔ ∀ n p, v.PartAt n p → n ≤ maxDepth
  tooDeep : ∀ e, (Bridge.toGuest b v).1 = .error e → e = .tooDeep
  back : ∀ g, (Bridge.toGuest b v).1 = .ok g → Bridge.toHost (Bridge.toGuest b v).2 g = .ok v
  held : ∀ g ∈ held, Bridge.toHost (Bridge.toGuest b v).2 g = Bridge.toHost b g

/-- What reads as a value can be copied in again. -/
theorem ComesBack.again {β γ : Type} [Bridge β γ] {b : β} {held : List γ} {w : Value}
    (h : ComesBack b held w) (hw : w.height ≤ maxDepth) :
    ∃ g, (Bridge.toGuest b w).1 = .ok g ∧ Bridge.toHost (Bridge.toGuest b w).2 g = .ok w := by
  obtain ⟨g, hg⟩ := h.fits.mpr (Value.height_le_iff.mp hw)
  exact ⟨g, hg, h.back g hg⟩

namespace HandleTable

/-- Any number may be tried for a handle. -/
def Free (_ : Handle) : Prop := True

theorem closed_of_reached {t : HandleTable} {held : List Handle} (h : Reached Free t held) :
    Closed t ∧ ∀ g ∈ held, t.Valid g := by
  induction h with
  | start =>
    refine ⟨Closed.start, fun g hg => ?_⟩
    obtain rfl := List.mem_singleton.mp hg
    exact ⟨_, Closed.start.undefined⟩
  | step _ e _ ih =>
    obtain ⟨hclosed, hheld⟩ := ih
    have he := hclosed.perform e
    refine ⟨he.closed hclosed, fun g hg => ?_⟩
    rcases List.mem_append.mp hg with hnew | hold
    · exact he.given hnew
    · obtain ⟨s, hs⟩ := hheld g hold
      obtain ⟨s', hs', -⟩ := he.becomes hs
      exact ⟨s', hs'⟩

/-- Slots for a copy of the value are left. -/
def Room (t : HandleTable) (v : Value) : Prop := t.size + v.slots ≤ capacity

theorem comesBack {t : HandleTable} {held : List Handle} (h : Reached Free t held) {v : Value}
    (hroom : Room t v) : ComesBack t held v := by
  obtain ⟨hclosed, hheld⟩ := closed_of_reached h
  have hcopied := allocAt_copied v (maxDepth + 1) hclosed
  have htooDeep : ∀ e, (t.alloc v).1 = .error e → e = .tooDeep ∧ ¬v.height ≤ maxDepth := by
    intro e he
    rcases hcopied.error e he with ⟨rfl, hdeep⟩ | ⟨-, hfull⟩
    · exact ⟨rfl, fun hfits => hdeep (Nat.lt_succ_of_le hfits)⟩
    · exact absurd hroom (Nat.not_le_of_lt hfull)
  refine ⟨?_, fun e he => (htooDeep e he).1, ?_, ?_⟩
  · rw [← Value.height_le_iff]
    constructor
    · rintro ⟨g, hg⟩
      exact Nat.le_of_lt_succ (hcopied.ok g hg).1
    · intro hfits
      rcases hr : (t.alloc v).1 with e | g
      · exact absurd hfits (htooDeep e hr).2
      · exact ⟨g, rfl⟩
  · intro g hg
    obtain ⟨hfits, hleads⟩ := hcopied.ok g hg
    exact (readAt_eq_copyAt _ _ g).trans (hleads _ hfits)
  · intro g hg
    change (t.alloc v).2.readAt _ g = t.readAt _ g
    rw [readAt_eq_copyAt, readAt_eq_copyAt]
    exact Look.copyAt_congr hclosed.closedOn (fun _ => hcopied.grown.look_eq) _ (hheld g hg)

theorem height_le_of_read {t : HandleTable} {g : Handle} {w : Value} (h : t.read g = .ok w) :
    w.height ≤ maxDepth := by
  rw [read, readAt_eq_copyAt] at h
  exact Nat.le_of_lt_succ (Look.height_lt_of_copyAt h)

end HandleTable

namespace NodeHeap

theorem read_node (b : NodeHeap) (n : Node) : b.read (.node n) = b.look.copyAt (maxDepth + 1) n :=
  readAt_eq_copyAt b _ n

theorem comesBack {b : NodeHeap} {held : List Reference} (h : Reached Free b held) (v : Value) :
    ComesBack b held v := by
  obtain ⟨hclosed, hheld⟩ := closed_of_reached h
  have hbuilt := buildAt_built v (maxDepth + 1) hclosed
  have hguest : Bridge.toGuest b v = b.toGuest v := rfl
  rcases heq : buildAt (maxDepth + 1) v b with e | ⟨n, b'⟩
  · obtain ⟨rfl, hdeep⟩ := hbuilt.error e heq
    have hfail : Bridge.toGuest b v = (.error .tooDeep, b) := by
      rw [hguest, toGuest, heq]
    refine ⟨?_, ?_, ?_, ?_⟩
    · rw [hfail, ← Value.height_le_iff]
      constructor
      · rintro ⟨g, hg⟩
        cases hg
      · intro hfits
        exact absurd (Nat.lt_succ_of_le hfits) hdeep
    · rw [hfail]
      rintro e he
      cases he
      rfl
    · rw [hfail]
      rintro g hg
      cases hg
    · intro g _
      rw [hfail]
  · obtain ⟨hb, -, hfits, hholds⟩ := hbuilt.ok n b' heq
    have hok : Bridge.toGuest b v = (.ok (.node n), b') := by
      rw [hguest, toGuest, heq]
    refine ⟨?_, ?_, ?_, ?_⟩
    · rw [hok, ← Value.height_le_iff]
      exact ⟨fun _ => Nat.le_of_lt_succ hfits, fun _ => ⟨_, rfl⟩⟩
    · rw [hok]
      rintro e he
      cases he
    · rw [hok]
      rintro g hg
      cases hg
      exact (read_node b' n).trans (hholds.leads _ hfits)
    · intro g hg
      rw [hok]
      change b'.read g = b.read g
      rcases hn : node g with e | m
      · simp only [read, hn, Except.error_bind]
      · simp only [read, hn, Except.ok_bind, readAt_eq_copyAt]
        exact Look.copyAt_congr hclosed.closedOn (fun _ => hb.look_eq) _ (hheld g hg m hn)

theorem height_le_of_read {b : NodeHeap} {g : Reference} {w : Value} (h : b.read g = .ok w) :
    w.height ≤ maxDepth := by
  rw [read, Except.bind_eq_ok_iff] at h
  obtain ⟨n, -, h⟩ := h
  rw [readAt_eq_copyAt] at h
  exact Nat.le_of_lt_succ (Look.height_lt_of_copyAt h)

end NodeHeap

/-- Under both encodings, in every state that a program can bring about, values come back; and what reads
as a value comes back as that value when it is copied in again. -/
theorem values_come_back :
    (∀ (t : HandleTable) held, Reached HandleTable.Free t held →
      (∀ v, t.Room v → ComesBack t held v) ∧
        ∀ g w, t.read g = .ok w → t.Room w → ∃ g', (t.alloc w).1 = .ok g' ∧ (t.alloc w).2.read g' = .ok w) ∧
    ∀ (b : NodeHeap) held, Reached NodeHeap.Free b held →
      (∀ v, ComesBack b held v) ∧
        ∀ r w, b.read r = .ok w → ∃ r', (b.toGuest w).1 = .ok r' ∧ (b.toGuest w).2.read r' = .ok w := by
  constructor
  · intro t held h
    refine ⟨fun v hroom => HandleTable.comesBack h hroom, fun g w hw hroom => ?_⟩
    exact (HandleTable.comesBack h hroom).again (HandleTable.height_le_of_read hw)
  · intro b held h
    refine ⟨NodeHeap.comesBack h, fun r w hw => ?_⟩
    exact (NodeHeap.comesBack h w).again (NodeHeap.height_le_of_read hw)

/-- Makes an array that is its own item. -/
def ring {γ : Type} (a : γ) : List (Exchange γ) := [.newArray 1, .arraySet a 0 a]

theorem reached_ring {β γ : Type} [Bridge β γ] {free : γ → Prop} {a : γ}
    (ha : a ∈ ((Exchange.newArray 1).perform (Bridge.start : β)).1.given) :
    ∃ held, Reached free (Exchange.run (Bridge.start : β) (ring a)).2 held := by
  have harray : Reached free ((Exchange.newArray 1).perform (Bridge.start : β)).2 _ :=
    Reached.start.step (.newArray 1) nofun
  have ha' := List.mem_append_left [Bridge.undefined β] ha
  refine ⟨_, harray.step (.arraySet a 0 a) fun g hg => .inl ?_⟩
  simp only [Exchange.references, List.mem_cons, List.not_mem_nil, or_false, or_self] at hg
  exact hg ▸ ha'

/-- Beside an array that is its own item other values come back. -/
theorem values_beside_ring :
    let v : Value := .array [.integer 1, .null]
    (∃ held, Reached HandleTable.Free (Exchange.run ({} : HandleTable) (ring 2)).2 held ∧
        ComesBack (Exchange.run ({} : HandleTable) (ring 2)).2 held v) ∧
      ∃ held, Reached NodeHeap.Free (Exchange.run ({} : NodeHeap) (ring (.node (.array 0)))).2 held ∧
        ComesBack (Exchange.run ({} : NodeHeap) (ring (.node (.array 0)))).2 held v := by
  obtain ⟨htable, hheap⟩ := values_come_back
  have hslots : ∃ held, Reached HandleTable.Free (Exchange.run ({} : HandleTable) (ring 2)).2 held :=
    reached_ring (List.mem_singleton_self 2)
  have hcells : ∃ held,
      Reached NodeHeap.Free (Exchange.run ({} : NodeHeap) (ring (.node (.array 0)))).2 held :=
    reached_ring (List.mem_singleton_self _)
  obtain ⟨held, hslots⟩ := hslots
  obtain ⟨held', hcells⟩ := hcells
  have hroom : HandleTable.Room (Exchange.run ({} : HandleTable) (ring 2)).2
      (.array [.integer 1, .null]) := by
    unfold HandleTable.Room
    decide
  exact ⟨⟨held, hslots, (htable _ _ hslots).1 _ hroom⟩, held', hcells, (hheap _ _ hcells).1 _⟩

end GuestHost
