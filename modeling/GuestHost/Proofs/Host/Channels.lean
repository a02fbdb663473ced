import GuestHost.Proofs.Host.Action
/-!
What a channel is given by a write. Standard output and the page keep the bytes as they come; the log hands
on the lines that are closed by them, and keeps the open one.
-/
namespace GuestHost.Host

namespace Output

/-- The lines are what stands before the newlines, and the rest is what stands behind the last. -/
theorem splitLines_spec {bytes last : List UInt8} {lines : List (List UInt8)}
    (h : splitLines bytes = (lines, last)) :
    bytes = lines.flatMap (· ++ [newline]) ++ last ∧ (∀ line ∈ lines, newline ∉ line) ∧
      newline ∉ last := by
  induction bytes generalizing lines last with
  | nil =>
    cases h
    exact ⟨rfl, nofun, List.not_mem_nil⟩
  | cons b rest ih =>
    rcases hrest : splitLines rest with ⟨lines', last'⟩
    obtain ⟨hbytes, hlines, hlast⟩ := ih hrest
    simp only [splitLines, hrest] at h
    split at h
    · next hb =>
      cases h
      refine ⟨?_, List.forall_mem_cons.mpr ⟨List.not_mem_nil, hlines⟩, hlast⟩
      rw [hb, hbytes]
      rfl
    · next hb =>
      have hne : newline ≠ b := fun heq => hb heq.symm
      cases lines' with
      | nil =>
        cases h
        exact ⟨congrArg (b :: ·) hbytes, nofun, List.not_mem_cons_of_ne_of_not_mem hne hlast⟩
      | cons line more =>
        cases h
        obtain ⟨hline, hmore⟩ := List.forall_mem_cons.mp hlines
        refine ⟨congrArg (b :: ·) hbytes, List.forall_mem_cons.mpr ⟨?_, hmore⟩, hlast⟩
        exact List.not_mem_cons_of_ne_of_not_mem hne hline

end Output

variable {β : Type}

open Output (newline lineText)

/-- A channel has been given the bytes, and the other two nothing; all but the output and what is told of
the log is as it was. -/
structure Heard (c : Channel) (bytes : List UInt8) (s s' : State β) : Prop where
  stdout : s'.output.stdout = s.output.stdout ++ if c = .stdout then bytes else []
  html : s'.output.html = s.output.html ++ if c = .html then bytes else []
  log : c = .log → ∃ lines : List (List UInt8), s.output.pending ++ bytes =
      lines.flatMap (· ++ [newline]) ++ s'.output.pending ∧ (∀ line ∈ lines, newline ∉ line) ∧
      newline ∉ s'.output.pending ∧ s'.events = s.events ++ lines.map fun line => .log (lineText line)
  quiet : c ≠ .log → s'.output.pending = s.output.pending ∧ s'.events = s.events
  passed : s'.output.passed = s.output.passed
  rest : s' = { s with output := s'.output, events := s'.events }

namespace Action

/-- A write to one of the three files reaches its channel; any other is rejected. -/
theorem runOn_write_cases {s : State β} (hkept : s.output.inherits = false) (file : Int)
    (bytes : List UInt8) :
    (Channel.ofFile? file = none ∧ runOn (write file bytes) s = (.ok (.error .badFile), s)) ∨
      ∃ c s', Channel.ofFile? file = some c ∧ runOn (write file bytes) s = (.ok (.ok ()), s') ∧
        Heard c bytes s s' := by
  rw [runOn_write, Output.write]
  cases hc : Channel.ofFile? file with
  | none => exact .inl ⟨rfl, rfl⟩
  | some c =>
    refine .inr ⟨c, ?_⟩
    cases c with
    | stdout =>
      simp only [hkept, Bool.false_eq_true, if_false, true_and]
      refine ⟨_, rfl, ?_⟩
      constructor <;> simp [State.tell]
    | html =>
      refine ⟨_, rfl, rfl, ?_⟩
      constructor <;> simp [State.tell]
    | log =>
      rcases hsplit : Output.splitLines (s.output.pending ++ bytes) with ⟨lines, last⟩
      simp only [Output.writeLog, hsplit, true_and]
      refine ⟨_, rfl, ?_⟩
      obtain ⟨hbytes, hlines, hlast⟩ := Output.splitLines_spec hsplit
      constructor
      case log =>
        refine fun _ => ⟨lines, hbytes, hlines, hlast, ?_⟩
        simp [State.tell, Function.comp_def]
      all_goals simp [State.tell]

end Action
end GuestHost.Host
