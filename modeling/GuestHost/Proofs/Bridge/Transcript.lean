import GuestHost.Proofs.Host.Matching
/-!
What can be observed of a program's calls. The program holds the references that calls have given it, the
oldest first, and names them by their place; everything else it can do is to make calls and to write to its
own memory.
-/
namespace GuestHost

open Host Host.Action

/-- What may happen next: the host hands over a value, the program changes its memory, or it makes a call
with references that it holds. -/
inductive Move where
  | receive (argument : Value) (wellFormed : argument.WellFormed)
  | edit (memory : Memory)
  | call (c : Call Nat)

/-- The host around a program, and the references that the program holds. -/
structure Playing (β γ : Type) where
  state : State β
  held : List γ := []

/-- What a call gives back: a trap, or a word or a value, if it gives back anything. -/
abbrev Report := Except Trap (Option (Argument (Except BridgeError Value)))

structure Transcript where
  reports : List Report
  /-- Output, database, registry and all else that is not the bridge. -/
  outside : State Unit
  /-- What the held references lead to in the end. -/
  values : List (Except BridgeError Value)

section

variable {β γ : Type} [Bridge β γ]

/-- The reference in a place; there is none but undefined beyond the last. -/
def reference (held : List γ) (i : Nat) : γ := held[i]?.getD (Bridge.undefined β)

/-- The references that come with an answer. -/
def newReferences : Except Trap (Option (Argument γ)) → List γ
  | .ok (some (.guest g)) => [g]
  | _ => []

def readBack (b : β) (r : Except Trap (Option (Argument γ))) : Report :=
  r.map (Option.map (Argument.map (Bridge.toHost b)))

def Move.action (held : List γ) : Move → Action β (Option (Argument γ))
  | receive argument _ => do return some (.guest (← toGuest "argument" argument))
  | edit m => do
    modify fun s => { s with memory := s.memory.map fun _ => m }
    return none
  | call c => (c.map (reference (β := β) held)).perform

namespace Playing

/-- The state before the first move. -/
def start (β : Type) {γ : Type} [Bridge β γ] (o : Options) (memory : Option Memory) : Playing β γ where
  state := .start o memory

/-- Makes a move: what it gives back is read at once, and a new reference is held. -/
def step (p : Playing β γ) (m : Move) : Report × Playing β γ :=
  let r := runOn (m.action p.held) p.state
  (readBack r.2.bridge r.1, { state := r.2, held := p.held ++ newReferences r.1 })

def run (p : Playing β γ) : List Move → List Report × Playing β γ
  | [] => ([], p)
  | m :: rest => ((p.step m).1 :: ((p.step m).2.run rest).1, ((p.step m).2.run rest).2)

def values (p : Playing β γ) : List (Except BridgeError Value) :=
  p.held.map (Bridge.toHost p.state.bridge)

/-- What holds across every action of a move holds across the move. -/
theorem step_within {R : State β → State β → Prop} (F : Footprint β R)
    (database : ∀ (s : State β) db, R s { s with database := db })
    (edit : ∀ (s : State β) m, R s { s with memory := m }) (p : Playing β γ) (m : Move) :
    R p.state (p.step m).2.state := by
  have C := F.toComposable
  have hm : Within R (m.action p.held) := by
    cases m with
    | receive argument _ =>
      exact Within.bind C (F.toGuest_within _ _) fun _ => Within.pure C _
    | edit m =>
      exact Within.bind C (Within.modify fun s => edit s _) fun _ => Within.pure C _
    | call c => exact Call.perform_within F _ (Call.performStore_within F.toTread database _)
  exact hm p.state

theorem run_within {R : State β → State β → Prop} (F : Footprint β R)
    (database : ∀ (s : State β) db, R s { s with database := db })
    (edit : ∀ (s : State β) m, R s { s with memory := m }) (p : Playing β γ) (moves : List Move) :
    R p.state (p.run moves).2.state := by
  induction moves generalizing p with
  | nil => exact F.refl _
  | cons m rest ih => exact F.trans (step_within F database edit p m) (ih _)

end Playing

/-- Everything that can be observed of a sequence of moves from the start. -/
def transcript (β : Type) {γ : Type} [Bridge β γ] (o : Options) (memory : Option Memory)
    (moves : List Move) : Transcript where
  reports := ((Playing.start β o memory).run moves).1
  outside := ((Playing.start β o memory).run moves).2.state.outside
  values := ((Playing.start β o memory).run moves).2.values

end

theorem Host.Call.map_map {γ δ κ : Type} (f : γ → δ) (g : δ → κ) (c : Call γ) :
    (c.map f).map g = c.map (g ∘ f) := by cases c <;> rfl

theorem Host.Argument.map_map {γ δ κ : Type} (f : γ → δ) (g : δ → κ) (a : Argument γ) :
    (a.map f).map g = a.map (g ∘ f) := by cases a <;> rfl

namespace Simulation

variable {β β' γ γ' : Type} [Bridge β γ] [Bridge β' γ'] {S : Simulation β β'} {w : S.World}

/-- Related states, with references in the same places that stand for the same. -/
structure InStep (w : S.World) (p : Playing β γ) (p' : Playing β' γ') : Prop where
  linked : S.Linked w p.state p'.state
  held : List.Forall₂ (S.Same w) p.held p'.held

theorem same_reference {held : List γ} {held' : List γ'} (h : List.Forall₂ (S.Same w) held held')
    (i : Nat) : S.Same w (reference (β := β) held i) (reference (β := β') held' i) := by
  unfold reference
  induction h generalizing i with
  | nil => exact S.undefined w
  | cons hhead _ ih =>
    cases i with
    | zero => exact hhead
    | succ i => exact ih i

/-- The references in one place. -/
def twin {held : List γ} {held' : List γ'} (h : List.Forall₂ (S.Same w) held held') (i : Nat) :
    S.Twin w :=
  ⟨(reference (β := β) held i, reference (β := β') held' i), same_reference h i⟩

theorem action_matches {held : List γ} {held' : List γ'} (h : List.Forall₂ (S.Same w) held held')
    (m : Move) : S.Matches w Answers (m.action held) (m.action held') := by
  cases m with
  | receive argument wellFormed => exact (Matches.toGuest _ wellFormed).answer
  | edit m =>
    exact Matches.bind (Steady.modify (fun o => { o with memory := o.memory.map fun _ => m })
      (fun _ => rfl) (fun _ => rfl) (fun _ => rfl) (fun _ => rfl)) fun _ _ => Matches.pure Answers.none
  | call c =>
    have hc := perform_matches (c.map (twin h))
    rw [Call.map_map, Call.map_map] at hc
    exact hc

/-- Equal reports come of related answers. -/
theorem readBack_eq {b : β} {b' : β'} (hb : S.Stands w b b')
    {r : Except Trap (Option (Argument γ))} {r' : Except Trap (Option (Argument γ'))}
    (h : Except.Agree (Answers w) r r') : readBack b r = readBack b' r' := by
  rcases r with t | a <;> rcases r' with t' | a'
  · exact congrArg Except.error h
  · exact h.elim
  · exact h.elim
  · obtain ⟨t, rfl, rfl⟩ := h
    refine congrArg Except.ok ?_
    rw [Option.map_map, Option.map_map]
    refine congrArg (fun f => t.map f) (funext fun a => ?_)
    have htoHost : (Bridge.toHost b ∘ Twin.fst : S.Twin w → _) = Bridge.toHost b' ∘ Twin.snd :=
      funext fun t => S.toHost hb t.same
    rw [Function.comp_apply, Function.comp_apply, Argument.map_map, Argument.map_map, htoHost]

theorem same_newReferences {r : Except Trap (Option (Argument γ))}
    {r' : Except Trap (Option (Argument γ'))} (h : Except.Agree (Answers w) r r') :
    List.Forall₂ (S.Same w) (newReferences r) (newReferences r') := by
  rcases r with t | a <;> rcases r' with t' | a'
  · exact .nil
  · exact h.elim
  · exact h.elim
  · obtain ⟨t, rfl, rfl⟩ := h
    rcases t with _ | t
    · exact .nil
    · cases t with
      | guest t => exact .cons t.same .nil
      | _ => exact .nil

/-- One move keeps related runs in step, unless the first bridge is full. -/
theorem InStep.step {p : Playing β γ} {p' : Playing β' γ'} (h : InStep w p p') (m : Move) :
    S.Full (p.step m).2.state.bridge ∨
      ∃ w', S.Extends w w' ∧ InStep w' (p.step m).2 (p'.step m).2 ∧ (p.step m).1 = (p'.step m).1 := by
  rcases action_matches h.held m _ _ h.linked with ⟨-, hfull⟩ | ⟨w', hw, hlinked, hanswers⟩
  · exact .inl hfull
  · refine .inr ⟨w', hw, ⟨hlinked, ?_⟩, readBack_eq hlinked.bridge hanswers⟩
    exact List.rel_append (h.held.imp fun _ _ hg => S.mono hw hg) (same_newReferences hanswers)

/-- Related runs stay in step as long as the first bridge has room. -/
theorem InStep.run {p : Playing β γ} {p' : Playing β' γ'} (h : InStep w p p')
    (hlasts : ∀ (p : Playing β γ) moves, S.Full p.state.bridge → S.Full (p.run moves).2.state.bridge)
    (moves : List Move) (hroom : ¬ S.Full (p.run moves).2.state.bridge) :
    ∃ w' : S.World, InStep w' (p.run moves).2 (p'.run moves).2 ∧ (p.run moves).1 = (p'.run moves).1 := by
  induction moves generalizing w p p' with
  | nil => exact ⟨w, h, rfl⟩
  | cons m rest ih =>
    rcases h.step m with hfull | ⟨w', -, hstep, hreport⟩
    · exact absurd (hlasts _ rest hfull) hroom
    · obtain ⟨w'', hrun, hreports⟩ := ih hstep hroom
      exact ⟨w'', hrun, congrArg₂ List.cons hreport hreports⟩

theorem InStep.start (S : Simulation β β') (o : Options) (memory : Option Memory) :
    ∃ w : S.World, InStep w (Playing.start β o memory) (Playing.start β' o memory) := by
  obtain ⟨w, hw⟩ := S.start
  exact ⟨w, ⟨hw, rfl⟩, .nil⟩

theorem InStep.values {p : Playing β γ} {p' : Playing β' γ'} (h : InStep w p p') :
    p.values = p'.values := by
  unfold Playing.values
  have hheld := h.held
  generalize p.held = gs at hheld
  generalize p'.held = gs' at hheld
  induction hheld with
  | nil => rfl
  | cons hg _ ih => exact congrArg₂ List.cons (S.toHost h.linked.bridge hg) ih

/-- Simulated bridges have the same transcripts, and end in states that correspond. -/
theorem transcript_eq (S : Simulation β β') (o : Options) (memory : Option Memory)
    (moves : List Move)
    (hlasts : ∀ (p : Playing β γ) moves, S.Full p.state.bridge → S.Full (p.run moves).2.state.bridge)
    (hroom : ¬ S.Full ((Playing.start β o memory).run moves).2.state.bridge) :
    transcript β o memory moves = transcript β' o memory moves ∧
      ∃ w : S.World, InStep w ((Playing.start β o memory).run moves).2
        ((Playing.start β' o memory).run moves).2 := by
  obtain ⟨w, hstart⟩ := InStep.start S o memory
  obtain ⟨w', hrun, hreports⟩ := hstart.run hlasts moves hroom
  refine ⟨?_, w', hrun⟩
  unfold transcript
  rw [hreports, hrun.linked.outside, hrun.values]

end Simulation
end GuestHost
