import GuestHost.Proofs.Program.Atomicity
import GuestHost.Proofs.Serve.Listening
/-!
How often a program can listen. The token that the first success leaves closes the registry to whoever asks
later, until the host takes it once the entry has returned; then one handler can listen again. So there is
at most one success while the entry runs, and at most one more while requests are served.
-/
namespace GuestHost

open Host Host.Action Serve

namespace Host

variable {β γ : Type} [Bridge β γ]

namespace Call

/-- A relation between registries that creating a server and adding a route keep to. -/
theorem tread_of_registry {Q : Registry → Registry → Prop} (refl : ∀ r, Q r r)
    (trans : ∀ {r s t}, Q r s → Q s t → Q r t) (create : ∀ r, Q r r.create.2)
    (addRoute : ∀ {r t id method pattern handler},
      r.addRoute id method pattern handler = .ok t → Q r t) :
    Tread β fun s s' => Q s.registry s'.registry where
  refl _ := refl _
  trans := trans
  toGuest _ _ := refl _
  newArray _ _ := refl _
  newObject _ := refl _
  intern _ _ _ _ := refl _
  arraySet _ _ _ _ _ _ := refl _
  objectSet _ _ _ _ _ _ := refl _
  write _ _ _ _ _ _ := refl _
  memory _ _ := refl _
  create _ := create _
  addRoute _ _ _ _ _ _ h := addRoute h
  collect _ := refl _
  exit _ _ := refl _

/-- Every call but that of listening leaves the token alone. -/
theorem keeps_pending : Tread β fun s s' => s'.registry.pending = s.registry.pending :=
  tread_of_registry (Q := fun r t => t.pending = r.pending) (fun _ => rfl) (fun h h' => h'.trans h)
    (fun _ => rfl) fun h => (Registry.of_addRoute h).1

theorem keeps_sound : Footprint β fun s s' => s.registry.Sound → s'.registry.Sound where
  toTread := tread_of_registry (Q := fun r t => r.Sound → t.Sound) (fun _ => id) (fun h h' => h' ∘ h)
    (fun _ h => h.create) fun hr h => h.addRoute hr
  listen _ _ _ _ hr _ := Registry.Sound.listen hr

theorem pending_perform {c : Call γ} (hc : ∀ id a, c ≠ .listen id a) (s : State β) :
    (runOn c.perform s).2.registry.pending = s.registry.pending :=
  perform_within_of_tread keeps_pending c
    (performStore_within keeps_pending (fun _ _ => rfl) c) (fun id a h => absurd h (hc id a)) s

theorem sound_perform (c : Call γ) {s : State β} (h : s.registry.Sound) :
    (runOn c.perform s).2.registry.Sound :=
  perform_within keeps_sound c (performStore_within keeps_sound.toTread (fun _ _ => id) c) s h

/-- Listening asks the registry if the address can be read. -/
theorem runOn_listen (id : Int) (address : γ) (s : State β) :
    (∃ t, textOf? s.bridge address = none ∧ runOn (listen id address).perform s = (.error t, s)) ∨
      ∃ text, textOf? s.bridge address = some text ∧
        runOn (listen id address).perform s = match s.registry.listen id text with
          | .ok registry => (.ok none, { s with registry })
          | .error e => (.error (.registry "http_listen" e), s) := by
  simp only [perform, performServe]
  rcases runOn_text "http_listen" address s with ⟨t, hrun, htext⟩ | ⟨text, hrun, htext⟩
  · exact .inl ⟨t, htext, runOn_bind_of_error hrun⟩
  · refine .inr ⟨text, htext, ?_⟩
    rw [runOn_bind_of_ok hrun, runOn_bind, runOn_register]
    cases s.registry.listen id text <;> rfl

end Call

namespace Performed

/-- The call is one of listening, and it succeeds. -/
def listens (p : Performed β γ) : Bool :=
  match p.call with
  | .listen _ _ => (runOn p.call.perform p.state).1.isOk
  | _ => false

/-- A call that listens leaves a token where there was none; any other leaves the token alone. -/
theorem count_after (p : Performed β γ) :
    p.listens.toNat + p.state.registry.pending.isSome.toNat =
      p.after.registry.pending.isSome.toNat := by
  obtain ⟨c, s⟩ := p
  unfold listens after
  cases c with
  | listen id address =>
    rcases Call.runOn_listen id address s with ⟨t, -, hrun⟩ | ⟨text, -, hrun⟩
    · simp only [hrun]
      exact Nat.zero_add _
    · simp only [hrun]
      cases hr : s.registry.listen id text with
      | error e => exact Nat.zero_add _
      | ok r =>
        obtain ⟨-, hnone, rfl⟩ := Registry.of_listen hr
        simp only [hnone]
        rfl
  | _ =>
    rw [Call.pending_perform nofun]
    exact Nat.zero_add _

/-- Each call that listens adds a token, and nothing takes one. -/
theorem Threaded.countP_listens {r last : Registry} {ps : List (Performed β γ)}
    (h : Threaded State.registry r ps last) :
    ps.countP listens + r.pending.isSome.toNat = last.pending.isSome.toNat := by
  induction h with
  | nil => exact Nat.zero_add _
  | @cons x p rest last hp hrest ih =>
    subst hp
    have hhead := p.count_after
    rw [countP_cons_toNat]
    omega

theorem Threaded.sound {r last : Registry} {ps : List (Performed β γ)}
    (h : Threaded State.registry r ps last) (hr : r.Sound) : last.Sound := by
  induction h with
  | nil => exact hr
  | @cons x p rest last hp hrest ih => exact ih (p.call.sound_perform (hp ▸ hr))

/-- Of some calls at most one listens. Who asks for an existing server, at an address that can be read,
listens if nobody has before, and is stopped otherwise; and who does not get to listen changes nothing. -/
structure ListenOnce (ps : List (Performed β γ)) : Prop where
  atMostOne : ps.countP listens ≤ 1
  outcome : ∀ before p after id address text, ps = before ++ p :: after →
    p.call = .listen id address → Call.textOf? p.state.bridge address = some text →
    p.state.registry.Has id →
    runOn p.call.perform p.state =
      if before.any listens then (.error (.registry "http_listen" .alreadyListening), p.state)
      else (.ok none, { p.state with registry := p.state.registry.listening id text })
  unchanged : ∀ p ∈ ps, ∀ id address, p.call = .listen id address → p.listens = false →
    p.after = p.state

theorem Threaded.isSome_pending {r last : Registry} {ps : List (Performed β γ)}
    (h : Threaded State.registry r ps last) (hr : r.pending = none) :
    last.pending.isSome = ps.any listens := by
  have hcount := h.countP_listens
  rw [hr] at hcount
  have hcount : ps.countP listens = last.pending.isSome.toNat := hcount
  rw [Bool.eq_iff_iff, List.any_eq_true, ← List.countP_pos_iff, hcount]
  cases last.pending.isSome <;> decide

/-- Without a token to begin with, at most one of the calls that follow each other listens. -/
theorem Threaded.listenOnce {r last : Registry} {ps : List (Performed β γ)}
    (h : Threaded State.registry r ps last) (hr : r.pending = none) : ListenOnce ps where
  atMostOne := by
    have hcount := h.countP_listens
    have hle := Bool.toNat_le last.pending.isSome
    omega
  outcome := by
    rintro before p after id address text rfl hcall htext hid
    have hpending := h.split.isSome_pending hr
    obtain ⟨c, s⟩ := p
    subst hcall
    rcases Call.runOn_listen id address s with ⟨t, hnone, -⟩ | ⟨text', htext', hrun⟩
    · rw [htext] at hnone
      cases hnone
    · rw [htext] at htext'
      cases htext'
      rw [hrun, Registry.listen_of_has hid, hpending]
      cases before.any listens <;> rfl
  unchanged := by
    rintro ⟨c, s⟩ - id address hcall hfails
    subst hcall
    unfold listens at hfails
    unfold Performed.after
    rcases Call.runOn_listen id address s with ⟨t, -, hrun⟩ | ⟨text, -, hrun⟩
    · rw [hrun]
    · rw [hrun] at hfails ⊢
      cases hr : s.registry.listen id text with
      | error e => rfl
      | ok r =>
        rw [hr] at hfails
        cases hfails

end Performed
end Host

namespace Program

open Performed (Threaded ListenOnce)

variable {β γ : Type} [Bridge β γ]

namespace Instance

/-- The calls that the entry performs. -/
def entryCalls (i : Instance β) : List (Performed β γ) :=
  match i.program.entry? with
  | none => []
  | some f => f.performed none i.state

theorem entry_threaded (i : Instance β) :
    Threaded State.registry i.state.registry i.entryCalls i.runEntry.2.state.registry := by
  unfold entryCalls runEntry
  cases i.program.entry? with
  | none => exact .nil _
  | some f =>
    have hrun : Threaded State.registry i.state.registry (f.performed none i.state)
        (runOn (f.run none) i.state).2.registry := f.threaded (fun _ _ => rfl) none i.state
    have hact : (i.act (f.run none)).2.state = (runOn (f.run none) i.state).2 := rfl
    rw [← hact] at hrun
    simp only
    rcases hx : i.act (f.run none) with ⟨t | g, i₁⟩ <;> rw [hx] at hrun
    · cases t <;> exact hrun
    · exact hrun

theorem answer_registry (i : Instance β) (m : Route.Match) (r : Request) :
    (i.answer m r).2.state.registry =
      (i.call m.handler (Serve.requestValue m.params r)).2.state.registry := by
  unfold answer
  rcases i.call m.handler (Serve.requestValue m.params r) with ⟨e | v, i₁⟩
  · rfl
  · simp only
    cases Serve.interpret v with
    | error e => rfl
    | ok reply =>
      have hon : (i₁.onDatabase Store.Database.commit).2.state.registry = i₁.state.registry := rfl
      rcases hr : i₁.onDatabase Store.Database.commit with ⟨e | u, i₂⟩ <;> rw [hr] at hon <;> exact hon

theorem abandon_registry (i : Instance β) : i.abandon.state.registry = i.state.registry := by
  unfold abandon
  have hon : (i.onDatabase Store.Database.rollback).2.state.registry = i.state.registry := rfl
  rcases hr : i.onDatabase Store.Database.rollback with ⟨e | u, i₁⟩ <;> rw [hr] at hon <;> exact hon

theorem afterRequest_registry (s : State β) : s.afterRequest.registry = s.registry := by
  unfold State.afterRequest
  split <;> rfl

/-- Nothing but the calls of its handler changes the registry while a request is served. -/
theorem invoke_threaded (i : Instance β) (m : Route.Match) (r : Request) :
    Threaded State.registry i.state.registry (i.handlerCalls m r)
      (i.invoke m r).2.state.registry := by
  unfold handlerCalls invoke
  have hon : (i.onDatabase Store.Database.begin).2.state.registry = i.state.registry := rfl
  rcases hb : i.onDatabase Store.Database.begin with ⟨e | u, i₁⟩ <;> rw [hb] at hon
  · exact .of_eq hon
  · have hcall : Threaded State.registry i₁.state.registry
        (i₁.callPerformed m.handler (Serve.requestValue m.params r))
        (i₁.call m.handler (Serve.requestValue m.params r)).2.state.registry :=
      i₁.call_threaded (fun _ _ => rfl) _ _
    rw [← answer_registry] at hcall
    simp only
    rw [← hon]
    rcases ha : i₁.answer m r with ⟨f | reply, i₂⟩ <;> rw [ha] at hcall
    · simp only [abandon_registry]
      exact hcall
    · have hafter : (i₂.mapState State.afterRequest).state.registry = i₂.state.registry :=
        afterRequest_registry i₂.state
      simp only [hafter]
      exact hcall

end Instance

namespace Dispatcher

/-- The calls that the handler of a request performs. -/
def requestCalls (d : Dispatcher β) (r : Request) : List (Performed β γ) :=
  match d.resolve r with
  | none => []
  | some m => d.guest.handlerCalls m r

theorem handle_threaded (d : Dispatcher β) (r : Request) :
    Threaded State.registry d.guest.state.registry (d.requestCalls r)
      (d.handle r).2.guest.state.registry := by
  unfold requestCalls handle
  cases d.resolve r with
  | none => exact .nil _
  | some m =>
    have hinvoke := d.guest.invoke_threaded m r
    simp only [serve]
    rcases hx : d.guest.invoke m r with ⟨f | reply, i⟩ <;> rw [hx] at hinvoke <;> exact hinvoke

/-- The calls that are performed while requests are served, as they come. -/
def calls (d : Dispatcher β) : List Request → List (Performed β γ)
  | [] => []
  | r :: rest => d.requestCalls r ++ (d.handle r).2.calls rest

theorem calls_threaded (d : Dispatcher β) (rs : List Request) :
    Threaded State.registry d.guest.state.registry (d.calls rs)
      (d.handleAll rs).guest.state.registry := by
  induction rs generalizing d with
  | nil => exact .nil _
  | cons r rest ih =>
    have hall : d.handleAll (r :: rest) = (d.handle r).2.handleAll rest := by
      simp only [handleAll, List.foldl_cons]
    have hhead := d.handle_threaded r
    have htail := ih (d.handle r).2
    rw [hall, calls]
    exact Threaded.append hhead htail

end Dispatcher

/-- What has taken the token serves with a registry that has none. -/
theorem Instance.intoServer_eq {i : Instance β} (h : i.state.registry.Sound) :
    i.intoServer.1.isSome = i.state.registry.pending.isSome ∧
      ∀ address d, i.intoServer.1 = some (address, d) → d.guest.state.registry.pending = none := by
  unfold intoServer
  rw [h.takePending]
  refine ⟨Option.isSome_map, ?_⟩
  intro address d hd
  simp only [Option.map_eq_some_iff] at hd
  obtain ⟨t, -, ht⟩ := hd
  cases ht
  rfl

/-- A listen for each token. After whatever has been asked of a registry, listening was granted as often as
a token was taken, and once more while one waits; an existing server is refused just while one does. So at
most one of the calls that the entry performs listens; if one does, the program goes on to serve, and at most
one of the calls that are then performed, by whatever handlers, listens again. -/
theorem one_listen_per_token (i : Instance β) (hidle : i.state.registry.pending = none) :
    (∀ asks : List Ask,
        let log := Registry.record {} asks
        let r := Registry.after {} asks
        log.countP Answer.listens = log.countP Answer.takes + r.pending.isSome.toNat ∧
          ∀ id address, r.answer (.listen id address) =
            if ¬ r.Has id then (.refused (.unknownServer id), r)
            else if log.countP Answer.takes < log.countP Answer.listens then
              (.refused .alreadyListening, r)
            else (.done, r.listening id address)) ∧
      ListenOnce i.entryCalls ∧
      i.runEntry.2.intoServer.1.isSome = i.entryCalls.any Performed.listens ∧
      ∀ address d, i.runEntry.2.intoServer.1 = some (address, d) → ∀ rs, ListenOnce (d.calls rs) := by
  have hsound : i.state.registry.Sound := by
    intro t ht
    rw [hidle] at ht
    cases ht
  have hentry := i.entry_threaded
  obtain ⟨hsome, hserver⟩ := Instance.intoServer_eq (hentry.sound hsound)
  refine ⟨fun asks => ?_, hentry.listenOnce hidle, ?_, ?_⟩
  · have hcount : (Registry.record {} asks).countP Answer.listens =
        (Registry.record {} asks).countP Answer.takes + (Registry.after {} asks).pending.isSome.toNat :=
      Registry.sound_start.countP_record asks
    refine ⟨hcount, fun id address => ?_⟩
    have hwaits : (Registry.after {} asks).pending.isSome = true ↔
        (Registry.record {} asks).countP Answer.takes <
          (Registry.record {} asks).countP Answer.listens := by
      rw [hcount]
      cases (Registry.after {} asks).pending.isSome <;> simp
    simp only [Registry.answer_listen, hwaits]
  · rw [hsome, hentry.isSome_pending hidle]
  · intro address d hd rs
    exact (d.calls_threaded rs).listenOnce (hserver address d hd)

/-- A program that listens, with a handler that does so again. -/
def againProgram : Program where
  functions := [
    ⟨"_start", .start,
      [.call "env" "http_create_server" [],
        .call "env" "http_add_route" [.register 0, .text "GET", .text "/again", .text "again"],
        .call "env" "http_listen" [.register 0, .text "8080"]], none⟩,
    ⟨"again", .handler,
      [.call "env" "http_listen" [.word 0, .text "9090"],
        .call "env" "val_undefined" [],
        .call "env" "http_response_text" [.register 1]], some (.register 2)⟩]

def againGuest : Instance HandleTable where
  program := againProgram
  state := State.start {} (some (.zeroed 8))

def againRequest : Request := { method := "GET", path := "/again" }

/-- The entry listens, and so does the handler after it. -/
theorem again_listens :
    ListenOnce againGuest.entryCalls ∧ againGuest.entryCalls.countP Performed.listens = 1 ∧
      ∃ address d, againGuest.runEntry.2.intoServer.1 = some (address, d) ∧
        ListenOnce (d.calls [againRequest]) ∧
        (d.calls [againRequest]).countP Performed.listens = 1 := by
  obtain ⟨-, hentry, -, hserved⟩ := one_listen_per_token againGuest rfl
  have hcount : (againGuest.runEntry.2.intoServer.1.map fun s =>
      (s.2.calls [againRequest]).countP Performed.listens) = some 1 := by decide +kernel
  obtain ⟨⟨address, d⟩, hd, hone⟩ := Option.map_eq_some_iff.mp hcount
  exact ⟨hentry, by decide +kernel, address, d, hd, hserved address d hd _, hone⟩

end Program
end GuestHost
