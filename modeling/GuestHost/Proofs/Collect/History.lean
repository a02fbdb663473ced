import GuestHost.Collect.Policy
import Mathlib.Data.List.DropRight
/-!
When passes happen over a whole run. What a policy keeps is an account of its history: how many requests
were served since the last pass, what was measured then, and how many passes there were. So each pass can be
told from the history alone, and none is put off for longer than the limit of requests.

Time is only ever compared as a difference of two readings, so it may be counted in any unit.
-/
namespace GuestHost.Collect

/-- What can happen to a policy, with all that is measured meanwhile. -/
inductive Turn where
  /-- A request was served. A pass, if one is due, takes readings of its own. -/
  | served (atCheck atPass : Readings)
  /-- A pass was asked for. -/
  | asked (trigger : Trigger) (atPass : Readings)
  deriving DecidableEq

namespace Turn

def isServed : Turn → Bool
  | served _ _ => true
  | asked _ _ => false

/-- What is measured after the pass, if there is one. -/
def atPass : Turn → Readings
  | served _ now => now
  | asked _ now => now

end Turn

/-- A turn, with the trigger of the pass that it made, if it made one. -/
abbrev Entry := Turn × Option Trigger

namespace Entry

def passed (e : Entry) : Bool := e.2.isSome

/-- The number of passes in a log. -/
def passes (log : List Entry) : Nat := log.countP passed

/-- The number of requests that were served behind the last pass of a log. -/
def servedSince (log : List Entry) : Nat := (log.rtakeWhile fun e => !e.passed).countP (·.1.isServed)

/-- What was measured at the last pass of a log, or else at the start. -/
def lastReadings (start : Readings) (log : List Entry) : Readings :=
  ((log.filter passed).getLast?.map (·.1.atPass)).getD start

end Entry

open Entry

/-- A threshold is reached, by so many requests and by the growth of the heap and the time between two
readings. A heap that is not known at both has not grown. -/
def Reached (th : Thresholds) (served : Nat) (since now : Readings) : Trigger → Prop
  | .requests => th.requests ≤ served
  | .heapGrowth =>
    ∃ base heap, since.heap = some base ∧ now.heap = some heap ∧ th.heapGrowth ≤ heap - base
  | .elapsed => th.intervalSeconds ≤ now.seconds - since.seconds
  | _ => False

/-- The thresholds that are looked at before one. -/
def Trigger.earlier : Trigger → List Trigger
  | heapGrowth => [requests]
  | elapsed => [requests, heapGrowth]
  | _ => []

/-- If a threshold is reached, then one is the first. -/
theorem Trigger.exists_first {R : Trigger → Prop} {t : Trigger} (h : R t) :
    ∃ u, R u ∧ ∀ w ∈ u.earlier, ¬R w := by
  by_cases hrequests : R .requests
  · exact ⟨.requests, hrequests, nofun⟩
  by_cases hgrown : R .heapGrowth
  · exact ⟨.heapGrowth, hgrown, by simpa [earlier] using hrequests⟩
  refine ⟨t, h, ?_⟩
  cases t <;> simp [earlier, hrequests, hgrown]

namespace Entry

variable {log : List Entry} {e : Entry}

theorem servedSince_concat_of_passed (h : e.passed = true) : servedSince (log ++ [e]) = 0 := by
  simp [servedSince, h]

theorem servedSince_concat (h : e.passed = false) (hserved : e.1.isServed = true) :
    servedSince (log ++ [e]) = servedSince log + 1 := by
  simp [servedSince, h, hserved]

theorem passes_concat : passes (log ++ [e]) = passes log + e.passed.toNat := by
  cases h : e.passed <;> simp [passes, h]

theorem lastReadings_concat_of_passed (start : Readings) (h : e.passed = true) :
    lastReadings start (log ++ [e]) = e.1.atPass := by
  simp [lastReadings, h]

theorem lastReadings_concat (start : Readings) (h : e.passed = false) :
    lastReadings start (log ++ [e]) = lastReadings start log := by
  simp [lastReadings, h]

end Entry

namespace Policy

/-- What a turn makes of the policy, and the trigger of the pass if there is one. -/
def take (p : Policy) : Turn → Policy × Option Trigger
  | .served atCheck atPass => p.afterRequest atCheck atPass
  | .asked trigger atPass => (p.collected atPass, some trigger)

/-- What turns make of the policy, one after the other. -/
def after (p : Policy) (turns : List Turn) : Policy := turns.foldl (fun p t => (p.take t).1) p

def record (p : Policy) : List Turn → List Entry
  | [] => []
  | t :: rest => (t, (p.take t).2) :: (p.take t).1.record rest

@[simp] theorem after_nil (p : Policy) : p.after [] = p := rfl

@[simp] theorem after_cons (p : Policy) (t : Turn) (rest : List Turn) :
    p.after (t :: rest) = (p.take t).1.after rest := rfl

/-- A turn ends with a pass, or else a request was served and no threshold is reached. -/
theorem take_cases (p : Policy) (t : Turn) :
    (∃ trigger, p.take t = (p.collected t.atPass, some trigger)) ∨
      ∃ atCheck atPass, t = .served atCheck atPass ∧ p.noteRequest.due atCheck = none ∧
        p.take t = (p.noteRequest, none) := by
  cases t with
  | asked trigger atPass => exact .inl ⟨trigger, rfl⟩
  | served atCheck atPass =>
    cases hdue : p.noteRequest.due atCheck with
    | none => exact .inr ⟨atCheck, atPass, rfl, hdue, by simp only [take, afterRequest, hdue]⟩
    | some trigger =>
      have htake : p.take (.served atCheck atPass) = (p.noteRequest.collected atPass, some trigger) := by
        simp only [take, afterRequest, hdue]
      -- a pass forgets that the request was counted
      exact .inl ⟨trigger, htake⟩

theorem heapGrown_iff {p : Policy} {now : Readings} : p.heapGrown now = true ↔
    ∃ base heap, p.baseline = some base ∧ now.heap = some heap ∧
      p.thresholds.heapGrowth ≤ heap - base := by
  unfold heapGrown
  cases p.baseline <;> cases now.heap <;> simp

/-- What was measured at the last pass, as far as the policy keeps it. -/
def since (p : Policy) : Readings := ⟨p.baseline, p.last⟩

variable {p : Policy} {now : Readings}

/-- The first threshold that is reached is the one that is due. -/
theorem due_eq_some_iff {t : Trigger} :
    p.due now = some t ↔ Reached p.thresholds p.served p.since now t ∧
      ∀ u ∈ t.earlier, ¬Reached p.thresholds p.served p.since now u := by
  have hrequests : Reached p.thresholds p.served p.since now .requests ↔
    p.thresholds.requests ≤ p.served := Iff.rfl
  have hgrown : Reached p.thresholds p.served p.since now .heapGrowth ↔ p.heapGrown now = true :=
    heapGrown_iff.symm
  have helapsed : Reached p.thresholds p.served p.since now .elapsed ↔
    p.thresholds.intervalSeconds ≤ now.seconds - p.last := Iff.rfl
  unfold due
  cases t with
  | requests => grind [Trigger.earlier]
  | heapGrowth => grind [Trigger.earlier]
  | elapsed => grind [Trigger.earlier]
  | entryReturned => grind [Reached]
  | explicit => grind [Reached]

/-- Nothing is due just if no threshold is reached. -/
theorem due_eq_none_iff : p.due now = none ↔ ∀ t, ¬Reached p.thresholds p.served p.since now t := by
  constructor
  · intro h t ht
    obtain ⟨u, hu, hfirst⟩ := Trigger.exists_first ht
    cases h.symm.trans (due_eq_some_iff.mpr ⟨hu, hfirst⟩)
  · intro h
    cases hdue : p.due now with
    | none => rfl
    | some t => exact absurd (due_eq_some_iff.mp hdue).1 (h t)

@[simp] theorem thresholds_take (p : Policy) (t : Turn) : (p.take t).1.thresholds = p.thresholds := by
  rcases p.take_cases t with ⟨trigger, h⟩ | ⟨atCheck, atPass, -, -, h⟩ <;> rw [h] <;> rfl

theorem thresholds_after (p : Policy) (turns : List Turn) :
    (p.after turns).thresholds = p.thresholds := by
  induction turns generalizing p with
  | nil => rfl
  | cons t rest ih => exact (ih (p.take t).1).trans (thresholds_take p t)

/-- After a turn the number of requests is below the limit: either it is zero, or the limit was looked at. -/
theorem served_take_lt (p : Policy) (t : Turn) : (p.take t).1.served < max p.thresholds.requests 1 := by
  rcases p.take_cases t with ⟨trigger, h⟩ | ⟨atCheck, atPass, -, hdue, h⟩
  · rw [h, served_collected]
    omega
  · have hbelow : ¬p.thresholds.requests ≤ p.noteRequest.served := due_eq_none_iff.mp hdue .requests
    rw [h]
    exact Nat.lt_of_lt_of_le (Nat.lt_of_not_le hbelow) (Nat.le_max_left _ _)

/-- What a policy keeps is what its history says. -/
structure Accounts (p : Policy) (start : Readings) (log : List Entry) : Prop where
  served : p.served = servedSince log
  since : p.since = lastReadings start log
  collections : p.collections = passes log

theorem accounts_start (th : Thresholds) (start : Readings) : (Policy.start th start).Accounts start [] :=
  ⟨rfl, rfl, rfl⟩

theorem Accounts.take {start : Readings} {log : List Entry} {p : Policy} (h : p.Accounts start log)
    (t : Turn) : (p.take t).1.Accounts start (log ++ [(t, (p.take t).2)]) := by
  rcases p.take_cases t with ⟨trigger, htake⟩ | ⟨atCheck, atPass, rfl, -, htake⟩
  · have hpassed : Entry.passed (t, (p.take t).2) = true := by rw [htake]; rfl
    refine ⟨?_, ?_, ?_⟩
    · rw [servedSince_concat_of_passed hpassed, htake]
      rfl
    · rw [lastReadings_concat_of_passed start hpassed, htake]
      rfl
    · rw [passes_concat, hpassed, htake, ← h.collections]
      rfl
  · have hquiet : Entry.passed (.served atCheck atPass, (p.take (.served atCheck atPass)).2) = false := by
      rw [htake]
      rfl
    refine ⟨?_, ?_, ?_⟩
    · rw [servedSince_concat hquiet rfl, ← h.served, htake]
      rfl
    · rw [lastReadings_concat start hquiet, ← h.since, htake]
      rfl
    · rw [passes_concat, hquiet, ← h.collections, htake]
      rfl

/-- A run keeps the account. -/
theorem Accounts.after {start : Readings} {log : List Entry} {p : Policy} (h : p.Accounts start log)
    (turns : List Turn) : (p.after turns).Accounts start (log ++ p.record turns) := by
  induction turns generalizing log p with
  | nil => simpa [record] using h
  | cons t rest ih => simpa [record] using ih (h.take t)

/-- The number of requests is below the limit after every run. -/
theorem served_after_lt {p : Policy} (h : p.served < max p.thresholds.requests 1) (turns : List Turn) :
    (p.after turns).served < max p.thresholds.requests 1 := by
  induction turns generalizing p with
  | nil => exact h
  | cons t rest ih =>
    have hrest := ih (p := (p.take t).1) (by simpa using served_take_lt p t)
    simpa using hrest

/-- Requests that are served without a pass add up. -/
theorem served_after_of_quiet {p : Policy} {turns : List Turn}
    (h : ∀ e ∈ p.record turns, e.passed = false) :
    (p.after turns).served = p.served + turns.countP Turn.isServed := by
  induction turns generalizing p with
  | nil => rfl
  | cons t rest ih =>
    obtain ⟨hfirst, hrest⟩ := List.forall_mem_cons.mp h
    rcases p.take_cases t with ⟨trigger, htake⟩ | ⟨atCheck, atPass, rfl, -, htake⟩
    · rw [htake] at hfirst
      cases hfirst
    · have hadd := ih hrest
      have hone : (p.take (.served atCheck atPass)).1.served = p.served + 1 := by rw [htake]; rfl
      have hcount : (Turn.served atCheck atPass :: rest).countP Turn.isServed =
          rest.countP Turn.isServed + 1 := List.countP_cons_of_pos rfl
      rw [after_cons]
      omega

/-- As many requests as the limit are not served without a pass. -/
theorem exists_pass_of_limit {p : Policy} {turns : List Turn}
    (hserved : p.served < max p.thresholds.requests 1) (hlimit : 1 ≤ p.thresholds.requests)
    (hcount : p.thresholds.requests ≤ turns.countP Turn.isServed) :
    ∃ e ∈ p.record turns, e.passed = true := by
  by_contra hnone
  have hquiet : ∀ e ∈ p.record turns, e.passed = false := by
    intro e he
    by_contra hpassed
    exact hnone ⟨e, he, by simpa using hpassed⟩
  have hsum := served_after_of_quiet hquiet
  have hbelow := served_after_lt hserved turns
  omega

theorem trigger_take_served (p : Policy) (atCheck atPass : Readings) :
    (p.take (.served atCheck atPass)).2 = p.noteRequest.due atCheck := by
  simp only [take, afterRequest]
  cases p.noteRequest.due atCheck <;> rfl

end Policy

/-- How a policy and its history go together, and what comes of the next requests. -/
structure Scheduled (th : Thresholds) (start : Readings) (log : List Entry) (p : Policy) : Prop where
  served : p.served = servedSince log
  collections : p.collections = passes log
  below : p.served < max th.requests 1
  /-- One more request can be counted in 64 bits. -/
  counts : th.requests < UInt64.size → p.served + 1 < UInt64.size
  /-- Whatever comes next, the limit of requests is not served without a pass. -/
  within : 1 ≤ th.requests → ∀ next : List Turn, th.requests ≤ next.countP Turn.isServed →
    ∃ e ∈ p.record next, e.passed = true
  /-- The next request ends with a pass just if a threshold is reached. -/
  passes : ∀ atCheck atPass, (p.take (.served atCheck atPass)).2.isSome = true ↔
    ∃ t, Reached th (servedSince log + 1) (lastReadings start log) atCheck t
  /-- The trigger of the pass is the first threshold that is reached. -/
  trigger : ∀ atCheck atPass t, (p.take (.served atCheck atPass)).2 = some t ↔
    Reached th (servedSince log + 1) (lastReadings start log) atCheck t ∧
      ∀ u ∈ t.earlier, ¬Reached th (servedSince log + 1) (lastReadings start log) atCheck u
  /-- A heap that has not grown is no reason for a pass. -/
  shrunk : 0 < th.heapGrowth → ∀ atCheck atPass base heap, (lastReadings start log).heap = some base →
    atCheck.heap = some heap → heap ≤ base → (p.take (.served atCheck atPass)).2 ≠ some .heapGrowth

theorem Policy.Accounts.scheduled {start : Readings} {log : List Entry} {p : Policy}
    (h : p.Accounts start log) (hbelow : p.served < max p.thresholds.requests 1) :
    Scheduled p.thresholds start log p := by
  -- what is looked at when one more request has been counted
  have hserved : p.noteRequest.served = servedSince log + 1 := congrArg (· + 1) h.served
  have hsince : p.noteRequest.since = lastReadings start log := h.since
  have hnone (now : Readings) : p.noteRequest.due now = none ↔
      ∀ t, ¬Reached p.thresholds (servedSince log + 1) (lastReadings start log) now t := by
    rw [due_eq_none_iff, hserved, hsince]
    rfl
  have hsome (now : Readings) (t : Trigger) : p.noteRequest.due now = some t ↔
      Reached p.thresholds (servedSince log + 1) (lastReadings start log) now t ∧
        ∀ u ∈ t.earlier, ¬Reached p.thresholds (servedSince log + 1) (lastReadings start log) now u := by
    rw [due_eq_some_iff, hserved, hsince]
    rfl
  refine ⟨h.served, h.collections, hbelow, ?_, ?_, ?_, ?_, ?_⟩
  · intro hfits
    have hone : 1 < UInt64.size := by decide
    omega
  · intro hlimit next hcount
    exact exists_pass_of_limit hbelow hlimit hcount
  · intro atCheck atPass
    rw [trigger_take_served, Option.isSome_iff_ne_none, Ne, hnone, not_forall_not]
  · intro atCheck atPass t
    rw [trigger_take_served, hsome]
  · intro hgrowth atCheck atPass base heap hbase hheap hle hdue
    rw [trigger_take_served, hsome] at hdue
    obtain ⟨⟨base', heap', hbase', hheap', hgrown⟩, -⟩ := hdue
    cases hbase.symm.trans hbase'
    cases hheap.symm.trans hheap'
    omega

/-- Whatever is measured, after every run the policy counts the requests since the last pass and the passes,
and the next request ends with a pass just if its history says that a threshold is reached. -/
theorem passes_follow_history (th : Thresholds) (start : Readings) (turns : List Turn) :
    Scheduled th start ((Policy.start th start).record turns) ((Policy.start th start).after turns) := by
  have haccounts := (Policy.accounts_start th start).after turns
  have hstart : (Policy.start th start).served < max th.requests 1 :=
    Nat.lt_of_lt_of_le Nat.zero_lt_one (Nat.le_max_right _ _)
  have hbelow := Policy.served_after_lt hstart turns
  have hth : ((Policy.start th start).after turns).thresholds = th := Policy.thresholds_after _ turns
  have hscheduled := haccounts.scheduled (hth.symm ▸ hbelow)
  rwa [hth] at hscheduled

/-- Three requests are the limit. A pass that is asked for puts the count back, and finds no heap to
measure; so the growth of the heap is no reason for a pass before the next one. -/
example :
    let low : Readings := ⟨some 100, 0⟩
    let high : Readings := ⟨some 900, 1⟩
    ((Policy.start ⟨3, 500, 3600⟩ low).record [.served low low, .served low low,
      .asked .explicit ⟨none, 0⟩, .served high low, .served high low, .served high low,
      .served high high, .served high low]).map Prod.snd =
      [none, none, some .explicit, none, none, some .requests, some .heapGrowth, none] := by
  decide

end GuestHost.Collect
