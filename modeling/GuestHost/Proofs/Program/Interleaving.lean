import Mathlib.Data.List.Induction
import Mathlib.Data.List.Nodup
import GuestHost.Proofs.Program.Atomicity
/-!
Requests that come at the same time. Each one first finds its route, under the lock of the routes, and then
waits for the program, so that other requests are served in between. Whatever the interleaving, requests
are served one after the other, each with the route that it has found; where no request is overtaken by a
registration that changes its route, that is what handling them one after the other does.
-/
namespace GuestHost.Program

open Serve (Outcome Request)
open Host (State)

variable {β γ : Type} [Bridge β γ]

namespace Dispatcher

/-- The outcomes of requests that are handled one after the other. -/
def outcomes (d : Dispatcher β) : List Request → List Outcome
  | [] => []
  | r :: rest => (d.handle r).1 :: (d.handle r).2.outcomes rest

/-- Serves a request with what it has found. -/
def serveFound (d : Dispatcher β) (found : Option Route.Match) (r : Request) :
    Outcome × Dispatcher β :=
  match found with
  | none => (.notFound, d)
  | some m => d.serve m r

theorem serveFound_resolve (d : Dispatcher β) (r : Request) :
    d.serveFound (d.resolve r) r = d.handle r := by
  unfold serveFound handle
  cases d.resolve r <;> rfl

theorem handleAll_cons (d : Dispatcher β) (r : Request) (rs : List Request) :
    d.handleAll (r :: rs) = (d.handle r).2.handleAll rs := by
  rw [handleAll, List.foldl_cons, handleAll]

theorem handleAll_append (d : Dispatcher β) (rs : List Request) (r : Request) :
    d.handleAll (rs ++ [r]) = ((d.handleAll rs).handle r).2 := by
  rw [handleAll, handleAll, List.foldl_append, List.foldl_cons, List.foldl_nil]

theorem outcomes_append (d : Dispatcher β) (rs : List Request) (r : Request) :
    d.outcomes (rs ++ [r]) = d.outcomes rs ++ [((d.handleAll rs).handle r).1] := by
  induction rs generalizing d with
  | nil => rw [List.nil_append, outcomes, outcomes, outcomes, handleAll, List.foldl_nil, List.nil_append]
  | cons first rest ih =>
    rw [List.cons_append, outcomes, ih, outcomes, List.cons_append, handleAll_cons]

end Dispatcher

/-- How far a request has come: it looks for its route, it waits for the program, or it has its outcome. -/
inductive Stage where
  | waiting
  | found (m : Route.Match)
  | done (o : Outcome)
  deriving DecidableEq

/-- A request that has been served: its number, the route that it had found, and its outcome. -/
structure Turn where
  index : Nat
  request : Request
  found : Option Route.Match
  outcome : Outcome

/-- Requests on their way, and the turns so far in the order in which the program was taken. A request
without a route has its turn when it is turned away. -/
structure Crowd (β : Type) where
  dispatcher : Dispatcher β
  threads : List (Request × Stage)
  turns : List Turn := []

namespace Crowd

def start (d : Dispatcher β) (rs : List Request) : Crowd β where
  dispatcher := d
  threads := rs.map fun r => (r, .waiting)

def finish (c : Crowd β) (i : Nat) (r : Request) (found : Option Route.Match) : Crowd β where
  dispatcher := (c.dispatcher.serveFound found r).2
  threads := c.threads.set i (r, .done (c.dispatcher.serveFound found r).1)
  turns := c.turns ++ [⟨i, r, found, (c.dispatcher.serveFound found r).1⟩]

/-- The next step of one request. -/
def step (c : Crowd β) (i : Nat) : Crowd β :=
  match c.threads[i]? with
  | some (r, .waiting) =>
    match c.dispatcher.resolve r with
    | none => c.finish i r none
    | some m => { c with threads := c.threads.set i (r, .found m) }
  | some (r, .found m) => c.finish i r (some m)
  | _ => c

/-- Runs the steps of the requests that a schedule names. -/
def run (c : Crowd β) (schedule : List Nat) : Crowd β := schedule.foldl step c

theorem run_append (c : Crowd β) (schedule : List Nat) (i : Nat) :
    c.run (schedule ++ [i]) = (c.run schedule).step i := by
  rw [run, run, List.foldl_append]
  rfl

/-- If the request is about to be served, the route that it has found is still the one it would find. -/
def upToDate (c : Crowd β) (i : Nat) : Bool :=
  match c.threads[i]? with
  | some (r, .found m) => c.dispatcher.resolve r = some m
  | _ => true

/-- No request is served with a route that has been replaced since it was found. -/
def steady (c : Crowd β) : List Nat → Bool
  | [] => true
  | i :: rest => c.upToDate i && (c.step i).steady rest

/-- What a step does: it finds a route, or it gives a request its turn, or there is nothing to do. -/
theorem step_cases (c : Crowd β) (i : Nat) :
    (∃ r m, c.threads[i]? = some (r, .waiting) ∧ c.dispatcher.resolve r = some m ∧
      c.step i = { c with threads := c.threads.set i (r, .found m) }) ∨
    (∃ r, c.threads[i]? = some (r, .waiting) ∧ c.dispatcher.resolve r = none ∧
      c.step i = c.finish i r none) ∨
    (∃ r m, c.threads[i]? = some (r, .found m) ∧ c.step i = c.finish i r (some m)) ∨
    c.step i = c := by
  unfold step
  cases hi : c.threads[i]? with
  | none => simp
  | some thread =>
    obtain ⟨r, stage⟩ := thread
    cases stage with
    | waiting =>
      cases hr : c.dispatcher.resolve r with
      | none => exact .inr (.inl ⟨r, rfl, hr, by simp [hr]⟩)
      | some m => exact .inl ⟨r, m, rfl, hr, by simp [hr]⟩
    | found m => exact .inr (.inr (.inl ⟨r, m, rfl, rfl⟩))
    | done o => exact .inr (.inr (.inr rfl))

/-- Turns taken one after the other, each with the route that its request has found. -/
inductive Serves (d : Dispatcher β) : List Turn → Dispatcher β → Prop where
  | nothing : Serves d [] d
  | next {ts : List Turn} {d' : Dispatcher β} (h : Serves d ts d') (i : Nat) (r : Request)
      (found : Option Route.Match) :
      Serves d (ts ++ [⟨i, r, found, (d'.serveFound found r).1⟩]) (d'.serveFound found r).2

/-- The route was found by looking at the routes as they were somewhere on the way. -/
def FoundOnTheWay (c : Crowd β) (schedule : List Nat) (r : Request) (found : Option Route.Match) :
    Prop :=
  ∃ before, before <+: schedule ∧ (c.run before).dispatcher.resolve r = found

theorem FoundOnTheWay.append {c : Crowd β} {schedule : List Nat} {r : Request}
    {found : Option Route.Match} (h : c.FoundOnTheWay schedule r found) (i : Nat) :
    c.FoundOnTheWay (schedule ++ [i]) r found := by
  obtain ⟨before, hbefore, hfound⟩ := h
  exact ⟨before, hbefore.trans (List.prefix_append _ _), hfound⟩

theorem getElem?_set {threads : List (Request × Stage)} {i : Nat} {old : Request × Stage}
    (hi : threads[i]? = some old) (new : Request × Stage) (j : Nat) :
    (threads.set i new)[j]? = if i = j then some new else threads[j]? := by
  obtain ⟨hlength, -⟩ := List.getElem?_eq_some_iff.mp hi
  rw [List.getElem?_set, if_pos hlength]

/-- What holds of a crowd on its way. -/
structure OnTheWay (d : Dispatcher β) (rs : List Request) (schedule : List Nat) (c : Crowd β) :
    Prop where
  requests : ∀ i : Nat, (c.threads[i]?).map Prod.fst = rs[i]?
  serves : Serves d c.turns c.dispatcher
  waits : ∀ (i : Nat) r m, c.threads[i]? = some (r, .found m) →
    (start d rs).FoundOnTheWay schedule r (some m)
  turned : ∀ t ∈ c.turns, (start d rs).FoundOnTheWay schedule t.request t.found
  done : ∀ (i : Nat) r o, c.threads[i]? = some (r, .done o) ↔
    ∃ t ∈ c.turns, t.index = i ∧ t.request = r ∧ t.outcome = o
  once : (c.turns.map Turn.index).Nodup

namespace OnTheWay

variable {d : Dispatcher β} {rs : List Request} {schedule : List Nat} {c : Crowd β}

theorem start (d : Dispatcher β) (rs : List Request) : OnTheWay d rs [] (start d rs) where
  requests i := by simp [Crowd.start, Function.comp_def]
  serves := .nothing
  waits i r m h := by simp [Crowd.start] at h
  turned := nofun
  done i r o := by simp [Crowd.start]
  once := List.nodup_nil

theorem later (h : OnTheWay d rs schedule c) (i : Nat) : OnTheWay d rs (schedule ++ [i]) c where
  requests := h.requests
  serves := h.serves
  waits j r m hj := (h.waits j r m hj).append i
  turned t ht := (h.turned t ht).append i
  done := h.done
  once := h.once

theorem request_eq (h : OnTheWay d rs schedule c) {i : Nat} {r : Request} {stage : Stage}
    (hi : c.threads[i]? = some (r, stage)) : rs[i]? = some r := by
  rw [← h.requests, hi, Option.map_some]

theorem no_turn (h : OnTheWay d rs schedule c) {i : Nat} {r : Request} {stage : Stage}
    (hi : c.threads[i]? = some (r, stage)) (hopen : ∀ o, stage ≠ .done o) :
    i ∉ c.turns.map Turn.index := by
  intro hmem
  obtain ⟨t, ht, rfl⟩ := List.mem_map.mp hmem
  have hdone := (h.done t.index t.request t.outcome).mpr ⟨t, ht, rfl, rfl, rfl⟩
  rw [hi] at hdone
  cases hdone
  exact hopen _ rfl

/-- A request that finds its route leaves everything else as it is. -/
theorem find (h : OnTheWay d rs schedule c) {i : Nat} {r : Request} {m : Route.Match}
    (hi : c.threads[i]? = some (r, .waiting))
    (hm : (Crowd.start d rs).FoundOnTheWay schedule r (some m)) :
    OnTheWay d rs schedule { c with threads := c.threads.set i (r, .found m) } where
  requests j := by
    rw [getElem?_set hi]
    split
    · next hij => rw [Option.map_some, ← h.request_eq hi, hij]
    · exact h.requests j
  serves := h.serves
  waits j r' m' hj := by
    rw [getElem?_set hi] at hj
    split at hj
    · cases hj
      exact hm
    · exact h.waits j r' m' hj
  turned := h.turned
  done j r' o := by
    rw [getElem?_set hi, ← h.done]
    split
    · next hij =>
      rw [← hij, hi]
      simp
    · rfl
  once := h.once

/-- A request that has its turn is served with the route that it has found. -/
theorem finish (h : OnTheWay d rs schedule c) {i : Nat} {r : Request} {stage : Stage}
    {found : Option Route.Match} (hi : c.threads[i]? = some (r, stage))
    (hopen : ∀ o, stage ≠ .done o)
    (hfound : (Crowd.start d rs).FoundOnTheWay schedule r found) :
    OnTheWay d rs schedule (c.finish i r found) where
  requests j := by
    rw [Crowd.finish, getElem?_set hi]
    split
    · next hij => rw [Option.map_some, ← h.request_eq hi, hij]
    · exact h.requests j
  serves := .next h.serves i r found
  waits j r' m' hj := by
    rw [Crowd.finish, getElem?_set hi] at hj
    split at hj
    · cases hj
    · exact h.waits j r' m' hj
  turned := by
    rw [Crowd.finish]
    exact List.forall_mem_append.mpr ⟨h.turned, List.forall_mem_singleton.mpr hfound⟩
  done j r' o := by
    have hnew := h.no_turn hi hopen
    simp only [Crowd.finish, getElem?_set hi, List.mem_append, List.mem_singleton, or_and_right,
      exists_or, exists_eq_left]
    split
    · next hij =>
      subst hij
      -- it has had no turn before, so the turn with its number is this one
      have hnone : ¬∃ t ∈ c.turns, t.index = i ∧ t.request = r' ∧ t.outcome = o :=
        fun ⟨t, ht, hindex, _⟩ => hnew (List.mem_map.mpr ⟨t, ht, hindex⟩)
      simp [hnone]
    · next hij =>
      rw [h.done]
      simp [hij]
  once := by
    rw [Crowd.finish, List.map_append, List.map_singleton, List.nodup_append]
    refine ⟨h.once, List.nodup_singleton _, fun j hj k hk hjk => ?_⟩
    obtain rfl := List.mem_singleton.mp hk
    exact h.no_turn hi hopen (hjk ▸ hj)

theorem step {c : Crowd β} (h : OnTheWay d rs schedule c) (hc : c = (Crowd.start d rs).run schedule)
    (i : Nat) : OnTheWay d rs (schedule ++ [i]) (c.step i) := by
  have hnow : ∀ r, (Crowd.start d rs).FoundOnTheWay (schedule ++ [i]) r (c.dispatcher.resolve r) :=
    fun r => ⟨schedule, List.prefix_append _ _, by rw [hc]⟩
  have hlater := h.later i
  rcases c.step_cases i with ⟨r, m, hi, hr, hstep⟩ | ⟨r, hi, hr, hstep⟩ | ⟨r, m, hi, hstep⟩ | hstep
  · rw [hstep]
    exact hlater.find hi (hr ▸ hnow r)
  · rw [hstep]
    exact hlater.finish hi nofun (hr ▸ hnow r)
  · rw [hstep]
    exact hlater.finish hi nofun (hlater.waits i r m hi)
  · rw [hstep]
    exact hlater

theorem run (d : Dispatcher β) (rs : List Request) (schedule : List Nat) :
    OnTheWay d rs schedule ((Crowd.start d rs).run schedule) := by
  induction schedule using List.reverseRecOn with
  | nil => exact .start d rs
  | append_singleton schedule i ih =>
    rw [run_append]
    exact ih.step rfl i

theorem request_turn (h : OnTheWay d rs schedule c) {t : Turn} (ht : t ∈ c.turns) :
    rs[t.index]? = some t.request :=
  h.request_eq ((h.done _ _ _).mpr ⟨t, ht, rfl, rfl, rfl⟩)

theorem requests_turns (h : OnTheWay d rs schedule c) :
    c.turns.map Turn.request = (c.turns.map Turn.index).filterMap (rs[·]?) := by
  rw [List.filterMap_map, ← List.filterMap_eq_map]
  exact List.filterMap_congr fun t ht => (h.request_turn ht).symm

end OnTheWay

/-- The turns so far are what handling their requests one after the other comes to. -/
def Serial (d : Dispatcher β) (c : Crowd β) : Prop :=
  c.dispatcher = d.handleAll (c.turns.map Turn.request) ∧
    c.turns.map Turn.outcome = d.outcomes (c.turns.map Turn.request)

/-- A turn with the route that its request finds now is what handling the request comes to. -/
theorem Serial.finish {d : Dispatcher β} {c : Crowd β} (h : Serial d c) (i : Nat) {r : Request}
    {found : Option Route.Match} (hfound : c.dispatcher.resolve r = found) :
    Serial d (c.finish i r found) := by
  subst hfound
  obtain ⟨hdispatcher, houtcomes⟩ := h
  constructor
  · simp only [Crowd.finish, List.map_append, List.map_singleton, Dispatcher.handleAll_append,
      Dispatcher.serveFound_resolve, ← hdispatcher]
  · simp only [Crowd.finish, List.map_append, List.map_singleton, Dispatcher.outcomes_append,
      Dispatcher.serveFound_resolve, ← hdispatcher, houtcomes]

theorem Serial.step {d : Dispatcher β} {c : Crowd β} (h : Serial d c) {i : Nat}
    (hfresh : c.upToDate i = true) : Serial d (c.step i) := by
  rcases c.step_cases i with ⟨r, m, -, -, hstep⟩ | ⟨r, -, hr, hstep⟩ | ⟨r, m, hi, hstep⟩ | hstep
  · rw [hstep]
    exact h
  · rw [hstep]
    exact h.finish i hr
  · rw [upToDate, hi] at hfresh
    rw [hstep]
    exact h.finish i (of_decide_eq_true hfresh)
  · rw [hstep]
    exact h

theorem serial_run {d : Dispatcher β} {c : Crowd β} (h : Serial d c) {schedule : List Nat}
    (hsteady : c.steady schedule = true) : Serial d (c.run schedule) := by
  induction schedule generalizing c with
  | nil => exact h
  | cons i rest ih =>
    rw [steady, Bool.and_eq_true] at hsteady
    exact ih (h.step hsteady.1) hsteady.2

/-- Requests at the same time, in any interleaving. Every request that is done has had one turn, and the
turns are taken one after the other, each with the route that its request had found at some moment before.
If no route is out of date when its request is served, then all outcomes, and the program with its store,
routes and output, are those of handling the requests one after the other in the order of their turns. -/
theorem served_in_turns (d : Dispatcher β) (rs : List Request) (schedule : List Nat) :
    let c := (start d rs).run schedule
    ((c.turns.map Turn.index).Nodup ∧
        (∀ t ∈ c.turns, rs[t.index]? = some t.request) ∧
        ∀ (i : Nat) r o, c.threads[i]? = some (r, .done o) ↔
          ∃ t ∈ c.turns, t.index = i ∧ t.request = r ∧ t.outcome = o) ∧
      (Serves d c.turns c.dispatcher ∧
        ∀ t ∈ c.turns, (start d rs).FoundOnTheWay schedule t.request t.found) ∧
      ((start d rs).steady schedule = true → Serial d c) := by
  have hway := OnTheWay.run d rs schedule
  refine ⟨⟨hway.once, fun t ht => hway.request_turn ht, hway.done⟩, ⟨hway.serves, hway.turned⟩, ?_⟩
  exact serial_run ⟨rfl, rfl⟩

/-- A page whose handler another request replaces, and a route that has nothing to do with it. -/
def pageProgram : Program where
  functions := [
    ⟨"_start", .start,
      [.call "env" "http_create_server" [],
        .call "env" "http_add_route" [.register 0, .text "GET", .text "/page", .text "old"],
        .call "env" "http_add_route" [.register 0, .text "POST", .text "/page", .text "replace"],
        .call "env" "http_add_route" [.register 0, .text "POST", .text "/other", .text "extend"],
        .call "env" "http_listen" [.register 0, .text "8080"]], none⟩,
    ⟨"old", .handler, [.call "env" "http_response_text" [.text "old"]], some (.register 0)⟩,
    ⟨"new", .handler, [.call "env" "http_response_text" [.text "new"]], some (.register 0)⟩,
    ⟨"replace", .handler,
      [.call "env" "http_add_route" [.word 0, .text "GET", .text "/page", .text "new"],
        .call "env" "http_response_text" [.text "replaced"]], some (.register 1)⟩,
    ⟨"extend", .handler,
      [.call "env" "http_add_route" [.word 0, .text "GET", .text "/other", .text "new"],
        .call "env" "http_response_text" [.text "extended"]], some (.register 1)⟩]

/-- The program once its entry has run. -/
def pageServer : Dispatcher HandleTable where
  guest := (Instance.runEntry
    { program := pageProgram, state := State.start {} (some (.zeroed 8)) }).2
  server := 0

def getPage : Request := { method := "GET", path := "/page" }

def replacePage : Request := { method := "POST", path := "/page" }

def extendPages : Request := { method := "POST", path := "/other" }

def textReply (body : String) : Outcome := .reply (.body body "text/plain; charset=utf-8")

/-- The page is asked for before it is replaced and served after: the old one comes, where the requests in
the order of their turns give the new one. -/
theorem stale_route_served :
    let c := (start pageServer [getPage, replacePage]).run [0, 1, 1, 0]
    c.turns.map Turn.request = [replacePage, getPage] ∧
      c.turns.map Turn.outcome = [textReply "replaced", textReply "old"] ∧
      pageServer.outcomes [replacePage, getPage] = [textReply "replaced", textReply "new"] ∧
      ¬Serial pageServer c := by
  intro c
  have hindices : c.turns.map Turn.index = [1, 0] := by decide +kernel
  have hrequests : c.turns.map Turn.request = [replacePage, getPage] := by
    rw [(OnTheWay.run pageServer [getPage, replacePage] [0, 1, 1, 0]).requests_turns, hindices]
    rfl
  have hturns : c.turns.map Turn.outcome = [textReply "replaced", textReply "old"] := by
    decide +kernel
  have hserial : pageServer.outcomes [replacePage, getPage] =
      [textReply "replaced", textReply "new"] := by decide +kernel
  refine ⟨hrequests, hturns, hserial, fun h => ?_⟩
  have houtcomes := h.2
  rw [hrequests, hturns, hserial] at houtcomes
  exact absurd houtcomes (by decide)

/-- A registration in between that does not change the route of the page. -/
theorem page_served_in_turn :
    let c := (start pageServer [getPage, extendPages]).run [0, 1, 1, 0]
    c.turns.map Turn.request = [extendPages, getPage] ∧
      (start pageServer [getPage, extendPages]).steady [0, 1, 1, 0] = true ∧
      c.dispatcher = pageServer.handleAll [extendPages, getPage] ∧
      c.turns.map Turn.outcome = pageServer.outcomes [extendPages, getPage] := by
  intro c
  have hindices : c.turns.map Turn.index = [1, 0] := by decide +kernel
  have hrequests : c.turns.map Turn.request = [extendPages, getPage] := by
    rw [(OnTheWay.run pageServer [getPage, extendPages] [0, 1, 1, 0]).requests_turns, hindices]
    rfl
  have hsteady : (start pageServer [getPage, extendPages]).steady [0, 1, 1, 0] = true := by
    decide +kernel
  have hserial : Serial pageServer c :=
    (served_in_turns pageServer [getPage, extendPages] [0, 1, 1, 0]).2.2 hsteady
  rw [Serial, hrequests] at hserial
  exact ⟨hrequests, hsteady, hserial⟩

end Crowd

end GuestHost.Program
