import GuestHost.Bridge.HandleTable
import GuestHost.Proofs.Host.Channels
import GuestHost.Proofs.Host.Memory
/-!
What a program's write to a file leaves behind. The buffers and the file are looked at before anything is
written, but the place for the count only after the output is sent: a write whose count has no place in
memory is reported as failed, and its output is there all the same.
-/
namespace GuestHost.Host

variable {β γ : Type} {m : Memory}

/-- A write is for a channel, and the bytes are those of the buffers that memory describes, in order. -/
structure Asked (m : Memory) (file buffers count : Int) (c : Channel) (bytes : List UInt8) :
    Prop where
  channel : Channel.ofFile? file = some c
  gathered : ∃ parts, parts.length = count.toNat ∧ m.DescribesAll (unsigned buffers) parts ∧
    bytes = parts.flatten

/-- A count has been left in memory: its four bytes spell it in 32 bits, and no other byte is changed. -/
structure Counted (place n : Nat) (m m' : Memory) : Prop where
  size : m'.size = m.size
  word : ∃ word, m'.read? place 4 = some word ∧ Memory.number word = n % UInt32.size
  others : ∀ a, a < place ∨ place + 4 ≤ a → m'.byte? a = m.byte? a

/-- What is answered to a write of buffers, and what that says of the state after it. -/
structure Settled (m : Memory) (file buffers count written code : Int) (s s' : State β) : Prop where
  succeeds : code = 0 ↔
    (∃ c bytes, Asked m file buffers count c bytes) ∧ unsigned written + 4 ≤ m.size
  done : code = 0 → ∀ c bytes, Asked m file buffers count c bytes →
    Heard c bytes s { s' with memory := s.memory } ∧
      ∃ m', s'.memory = some m' ∧ Counted (unsigned written) bytes.length m m'
  /-- A failure leaves memory alone. -/
  kept : code ≠ 0 → s'.memory = s.memory
  /-- A failure that has to do with the buffers or the file leaves everything alone. -/
  refused : (∀ c bytes, ¬Asked m file buffers count c bytes) → s' = s
  /-- A failure for want of a place for the count comes after the output. -/
  late : code ≠ 0 → ∀ c bytes, Asked m file buffers count c bytes →
    code = Errno.fault.code ∧ m.size < unsigned written + 4 ∧ Heard c bytes s s'

theorem asked_iff {file buffers count : Int} {c : Channel} {bytes : List UInt8} :
    Asked m file buffers count c bytes ↔
      Channel.ofFile? file = some c ∧ m.gather count.toNat (unsigned buffers) = some bytes := by
  rw [Memory.gather_eq_some_iff]
  exact ⟨fun h => ⟨h.channel, h.gathered⟩, fun h => ⟨h.1, h.2⟩⟩

theorem Asked.unique {file buffers count : Int} {c d : Channel} {bytes others : List UInt8}
    (h : Asked m file buffers count c bytes) (h' : Asked m file buffers count d others) :
    d = c ∧ others = bytes := by
  obtain ⟨hc, hbytes⟩ := asked_iff.mp h
  obtain ⟨hd, hothers⟩ := asked_iff.mp h'
  exact ⟨Option.some.inj (hd.symm.trans hc), Option.some.inj (hothers.symm.trans hbytes)⟩

theorem counted_of_write? {place n : Nat} {m' : Memory}
    (h : m.write? place (Memory.wordBytes n) = some m') : Counted place n m m' := by
  obtain ⟨hsize, hread, hothers⟩ := Memory.of_write? h
  exact ⟨hsize, ⟨_, hread, Memory.number_wordBytes n⟩, hothers⟩

namespace Settled

variable {file buffers count written : Int} {s s' : State β}

/-- Nobody has asked for anything that can be written. -/
theorem of_not_asked (h : ∀ c bytes, ¬Asked m file buffers count c bytes) (e : Errno) :
    Settled m file buffers count written e.code s s where
  succeeds := by
    refine iff_of_false ?_ fun ⟨⟨c, bytes, hasked⟩, _⟩ => h c bytes hasked
    cases e <;> decide
  done := by cases e <;> exact nofun
  kept _ := rfl
  refused _ := rfl
  late _ c bytes hasked := absurd hasked (h c bytes)

variable {c : Channel} {bytes : List UInt8}

/-- The output is sent, and the count has no place. -/
theorem of_unplaced (hasked : Asked m file buffers count c bytes)
    (hplace : m.size < unsigned written + 4) (hheard : Heard c bytes s s') :
    Settled m file buffers count written Errno.fault.code s s' where
  succeeds := iff_of_false (by decide) fun h => absurd h.2 (by omega)
  done := nofun
  kept _ := by rw [hheard.rest]
  refused h := absurd hasked (h c bytes)
  late _ d others h := by
    obtain ⟨rfl, rfl⟩ := hasked.unique h
    exact ⟨rfl, hplace, hheard⟩

/-- The output is sent, and the count is where it is wanted. -/
theorem of_counted {m' : Memory} (hasked : Asked m file buffers count c bytes)
    (hheard : Heard c bytes s s')
    (hwrite : m.write? (unsigned written) (Memory.wordBytes bytes.length) = some m') :
    Settled m file buffers count written 0 s { s' with memory := some m' } where
  succeeds := by
    refine iff_of_true rfl ⟨⟨c, bytes, hasked⟩, ?_⟩
    exact Memory.isSome_write?_iff.mp (Option.isSome_of_mem hwrite)
  done _ d others h := by
    obtain ⟨rfl, rfl⟩ := hasked.unique h
    have hmemory : s'.memory = s.memory := by rw [hheard.rest]
    refine ⟨?_, m', rfl, counted_of_write? hwrite⟩
    rw [← hmemory]
    exact hheard
  kept h := absurd rfl h
  refused h := absurd hasked (h c bytes)
  late h := absurd rfl h

end Settled

open Host.Action Host.Call

/-- A write of buffers is answered, whatever the program passes. -/
theorem runOn_performFileWrite {s : State β} (hmemory : s.memory = some m)
    (hkept : s.output.inherits = false) (file buffers count written : Int) :
    ∃ code s', runOn (performFileWrite file buffers count written) s = (.ok code, s') ∧
      Settled m file buffers count written code s s' := by
  rw [performFileWrite, runOn_bind_of_ok (runOn_get s)]
  simp only [hmemory]
  cases hgather : m.gather count.toNat (unsigned buffers) with
  | none =>
    refine ⟨_, _, rfl, .of_not_asked (fun c bytes h => ?_) .fault⟩
    cases hgather.symm.trans (asked_iff.mp h).2
  | some bytes =>
    obtain ⟨hfile, hrun⟩ | ⟨c, t, hfile, hrun, hheard⟩ := runOn_write_cases hkept file bytes
    · refine ⟨_, _, runOn_bind_of_ok hrun, .of_not_asked (fun c bytes h => ?_) .badFile⟩
      cases hfile.symm.trans h.channel
    · -- the output is sent by now, so what is left to go wrong cannot take it back
      have hasked : Asked m file buffers count c bytes := asked_iff.mpr ⟨hfile, hgather⟩
      simp only [runOn_bind_of_ok hrun]
      cases hwrite : m.write? (unsigned written) (Memory.wordBytes bytes.length) with
      | none =>
        refine ⟨_, _, rfl, .of_unplaced hasked (Nat.lt_of_not_le fun hle => ?_) hheard⟩
        have hfits : unsigned written + (Memory.wordBytes bytes.length).length ≤ m.size := hle
        have hsome := Memory.isSome_write?_iff.mpr hfits
        rw [hwrite] at hsome
        cases hsome
      | some m' => exact ⟨_, _, rfl, .of_counted hasked hheard hwrite⟩

variable [Bridge β γ]

/-- A program's write never stops it. It succeeds exactly if memory describes all the buffers, the file is
one of the three that can be written and the count has a place; then the channel has been given the
buffers in order, and the count is the only change in memory. If it fails on the buffers or the file,
nothing has changed; if only the count has no place, memory is as it was but the channel has been given
the buffers. -/
theorem file_write_settled {s : State β} (hmemory : s.memory = some m)
    (hkept : s.output.inherits = false) (file buffers count written : Int) :
    ∃ code s', runOn (Call.fileWrite file buffers count written : Call γ).perform s =
        (.ok (some (.word code)), s') ∧ Settled m file buffers count written code s s' := by
  obtain ⟨code, s', hrun, hsettled⟩ := runOn_performFileWrite hmemory hkept file buffers count written
  refine ⟨code, s', ?_, hsettled⟩
  rw [perform, performHost, runOn_bind_of_ok hrun]
  rfl

/-- Memory of ten bytes that describe a buffer, which is the last two of them. The count is wanted behind
all of memory, so the write fails, and the two bytes are on standard output. -/
theorem sent_uncounted :
    ∃ s s' : State HandleTable, runOn (Call.fileWrite 1 0 1 10 : Call Handle).perform s =
        (.ok (some (.word Errno.fault.code)), s') ∧
      s.output.stdout = [] ∧ s'.output.stdout = [97, 98] := by
  let s : State HandleTable := .start {} (some ⟨#[8, 0, 0, 0, 2, 0, 0, 0, 97, 98]⟩)
  obtain ⟨code, s', hrun, hsettled⟩ := file_write_settled (s := s) rfl rfl 1 0 1 10
  have hasked : Asked ⟨#[8, 0, 0, 0, 2, 0, 0, 0, 97, 98]⟩ 1 0 1 .stdout [97, 98] :=
    asked_iff.mpr ⟨rfl, by decide⟩
  have hfails : code ≠ 0 := fun h => absurd (hsettled.succeeds.mp h).2 (by decide)
  obtain ⟨rfl, -, hheard⟩ := hsettled.late hfails _ _ hasked
  exact ⟨s, s', hrun, rfl, hheard.stdout⟩

end GuestHost.Host
