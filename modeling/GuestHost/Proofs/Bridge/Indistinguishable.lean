import GuestHost.Proofs.Bridge.NodeRefinement
import GuestHost.Proofs.Bridge.TableRefinement
import GuestHost.Proofs.Bridge.Transcript
/-!
No program can tell the two encodings apart. Both follow the shared heap step by step, so whatever is
observed over one is observed over the other.
-/
namespace GuestHost

open Host Host.Action

namespace HandleTable

theorem size_put (t : HandleTable) (g : Handle) (s : Slot) : (t.put g s).size = t.size :=
  Array.size_setIfInBounds

theorem size_arraySet {t t' : HandleTable} {g x : Handle} {i : Nat}
    (h : t.arraySet g i x = .ok t') : t'.size = t.size := by
  unfold arraySet at h
  simp only [Except.bind_eq_ok_iff] at h
  obtain ⟨-, -, items, -, h⟩ := h
  split at h <;> cases h
  exact size_put t g _

theorem size_objectSet {t t' : HandleTable} {g x : Handle} {key : String}
    (h : t.objectSet g key x = .ok t') : t'.size = t.size := by
  unfold objectSet at h
  simp only [Except.bind_eq_ok_iff] at h
  obtain ⟨-, -, ms, -, h⟩ := h
  cases h
  exact size_put t g _

theorem size_intern (t : HandleTable) (p n : Nat) (text : String) :
    t.size ≤ (t.intern p n text).2.size := by
  have hpush := (Grown.push t (.string text)).size_le
  unfold intern
  split
  · exact Nat.le_refl _
  · rcases heq : t.push (.string text) with ⟨r | r, t'⟩ <;> rw [heq] at hpush <;> exact hpush

/-- No call gives slots back. -/
theorem size_footprint : Footprint HandleTable fun s s' => s.bridge.size ≤ s'.bridge.size where
  refl _ := Nat.le_refl _
  trans := Nat.le_trans
  toGuest _ v := (allocAt_grown v _ _).size_le
  newArray s _ := (Grown.push s.bridge _).size_le
  newObject s := (Grown.push s.bridge _).size_le
  intern s p n text := size_intern s.bridge p n text
  arraySet _ _ _ _ _ h := Nat.le_of_eq (size_arraySet h).symm
  objectSet _ _ _ _ _ h := Nat.le_of_eq (size_objectSet h).symm
  write _ _ _ _ _ _ := Nat.le_refl _
  memory _ _ := Nat.le_refl _
  create _ := Nat.le_refl _
  addRoute _ _ _ _ _ _ _ := Nat.le_refl _
  listen _ _ _ _ _ := Nat.le_refl _
  collect _ := Nat.le_refl _
  exit _ _ := Nat.le_refl _

/-- A full table stays full. -/
theorem full_lasts (p : Playing HandleTable Handle) (moves : List Move) (h : Full p.state.bridge) :
    Full (p.run moves).2.state.bridge :=
  Nat.le_trans h (Playing.run_within size_footprint (fun _ _ => Nat.le_refl _)
    (fun _ _ => Nat.le_refl _) p moves)

end HandleTable

/-- No copy in the transcript fails but for the depth of what is copied. -/
def Transcript.OnlyTooDeep (t : Transcript) : Prop :=
  (∀ e, .ok (some (.guest (.error e))) ∈ t.reports → e = .tooDeep) ∧
    ∀ e, .error e ∈ t.values → e = .tooDeep

namespace SharedHeap

theorem tooDeep_of_report {h : SharedHeap} {r : Except Trap (Option (Argument Node))}
    {e : BridgeError} (he : readBack h r = .ok (some (.guest (.error e)))) : e = .tooDeep := by
  rcases r with t | _ | a
  · cases he
  · cases he
  · cases a with
    | guest g =>
      simp only [readBack, Except.map, Option.map_some, Argument.map, Except.ok.injEq,
        Option.some.injEq, Argument.guest.injEq] at he
      exact readAt_error he
    | _ => cases he

theorem onlyTooDeep_run (p : Playing SharedHeap Node) (moves : List Move) {e : BridgeError}
    (he : .ok (some (.guest (.error e))) ∈ (p.run moves).1) : e = .tooDeep := by
  induction moves generalizing p with
  | nil => cases he
  | cons m rest ih =>
    rcases List.mem_cons.mp he with he | he
    · exact tooDeep_of_report he.symm
    · exact ih _ he

theorem transcript_onlyTooDeep (o : Options) (memory : Option Memory) (moves : List Move) :
    (transcript SharedHeap o memory moves).OnlyTooDeep := by
  refine ⟨fun e he => onlyTooDeep_run _ moves he, fun e he => ?_⟩
  obtain ⟨n, -, hn⟩ := List.mem_map.mp he
  exact readAt_error hn

end SharedHeap

/-- Handles and references of the engine give the same reports, leave the same world outside, and hold
values that read back alike. Both end where the shared heap ends, whose objects list every name once, in
the order of first setting, with the value set last. -/
theorem encodings_indistinguishable (o : Options) (memory : Option Memory) (moves : List Move)
    (hroom : ((Playing.start HandleTable o memory).run moves).2.state.bridge.size <
      HandleTable.capacity) :
    let table := ((Playing.start HandleTable o memory).run moves).2
    let nodes := ((Playing.start NodeHeap o memory).run moves).2
    let shared := ((Playing.start SharedHeap o memory).run moves).2
    transcript HandleTable o memory moves = transcript NodeHeap o memory moves ∧
      (transcript HandleTable o memory moves).OnlyTooDeep ∧
      transcript HandleTable o memory moves = transcript SharedHeap o memory moves ∧
      (∃ w : HandleTable.World, HandleTable.Stands w table.state.bridge shared.state.bridge ∧
        List.Forall₂ w.Same table.held shared.held) ∧
      (NodeHeap.Shows nodes.state.bridge shared.state.bridge ∧
        List.Forall₂ NodeHeap.Carries nodes.held shared.held) ∧
      ∀ cell, Members.keys (shared.state.bridge.members cell) =
          Members.firstNames (shared.state.bridge.sets cell) ∧
        ∀ key, Members.get? key (shared.state.bridge.members cell) =
          Members.last? key (shared.state.bridge.sets cell) := by
  intro table nodes shared
  obtain ⟨htable, w, hw⟩ := Simulation.transcript_eq HandleTable.simulation o memory moves
    HandleTable.full_lasts (Nat.not_le.mpr hroom)
  obtain ⟨hnode, _, hshows⟩ := Simulation.transcript_eq NodeHeap.simulation o memory moves
    (fun _ _ h => h) id
  refine ⟨htable.trans hnode.symm, ?_, htable, ⟨w, hw.linked.bridge, hw.held⟩,
    ⟨hshows.linked.bridge, hshows.held⟩, fun cell => ⟨?_, fun key => ?_⟩⟩
  · rw [htable]
    exact SharedHeap.transcript_onlyTooDeep o memory moves
  · exact Members.keys_listing _
  · exact Members.get?_listing key _

/-- An object put into itself: a copy of it goes too deep under either encoding. -/
def cycleMoves : List Move :=
  [.call .newObject, .receive (.string "self") trivial, .call (.objectSet 0 1 0), .call (.toJson 0)]

theorem cycle_indistinguishable :
    ((Playing.start HandleTable {} none).run cycleMoves).2.state.bridge.size < HandleTable.capacity ∧
      transcript HandleTable {} none cycleMoves = transcript NodeHeap {} none cycleMoves :=
  ⟨by decide +kernel, (encodings_indistinguishable {} none cycleMoves (by decide +kernel)).1⟩

end GuestHost
