import GuestHost.Serve.Registry
/-!
Asking a registry to listen. The first success leaves a token and closes the registry to others until the
host takes it; then the next one succeeds again. So there are as many successes as tokens, those that were
taken and the one that waits.
-/
namespace GuestHost.Serve

/-- What is asked of a registry: by a program, or by the host, which takes the token. -/
inductive Ask where
  | create
  | addRoute (id : Int) (method pattern handler : String)
  | listen (id : Int) (address : String)
  | take

/-- What comes of it. -/
inductive Answer where
  | created (id : Int)
  | done
  | refused (e : RegistryError)
  | taken (token : Option Token)

/-- A wish to listen that was granted. -/
def Answer.listens : Ask × Answer → Bool
  | (.listen _ _, .done) => true
  | _ => false

/-- A token that was handed out. -/
def Answer.takes : Ask × Answer → Bool
  | (.take, .taken (some _)) => true
  | _ => false

theorem countP_cons_toNat {α : Type} (p : α → Bool) (x : α) (xs : List α) :
    (x :: xs).countP p = xs.countP p + (p x).toNat := by
  rw [List.countP_cons]
  cases p x <;> rfl

namespace Registry

/-- A server of this number exists. -/
def Has (r : Registry) (id : Int) : Prop := 0 ≤ id ∧ id < r.servers.length

instance (r : Registry) (id : Int) : Decidable (r.Has id) := inferInstanceAs (Decidable (_ ∧ _))

/-- The server of the token exists. -/
def Sound (r : Registry) : Prop := ∀ t, r.pending = some t → t.server < r.servers.length

/-- The registry with a token. -/
def listening (r : Registry) (id : Int) (address : String) : Registry :=
  { r with pending := some ⟨id.toNat, normalizeAddress address⟩ }

theorem server_of_has {r : Registry} {id : Int} (h : r.Has id) : r.server id = .ok id.toNat := if_pos h

theorem server_of_not_has {r : Registry} {id : Int} (h : ¬ r.Has id) :
    r.server id = .error (.unknownServer id) := if_neg h

/-- Listening is refused while a token waits, and granted otherwise. -/
theorem listen_of_has {r : Registry} {id : Int} (h : r.Has id) (address : String) :
    r.listen id address =
      if r.pending.isSome then .error .alreadyListening else .ok (r.listening id address) := by
  unfold listen
  rw [server_of_has h]
  cases hp : r.pending <;> rfl

theorem listen_of_not_has {r : Registry} {id : Int} (h : ¬ r.Has id) (address : String) :
    r.listen id address = .error (.unknownServer id) := by
  unfold listen
  rw [server_of_not_has h]
  rfl

/-- Listening that is granted finds no token and leaves one. -/
theorem of_listen {r r' : Registry} {id : Int} {address : String} (h : r.listen id address = .ok r') :
    r.Has id ∧ r.pending = none ∧ r' = r.listening id address := by
  by_cases hid : r.Has id
  · rw [listen_of_has hid] at h
    cases hp : r.pending with
    | none =>
      rw [hp] at h
      cases h
      exact ⟨hid, rfl, rfl⟩
    | some t =>
      rw [hp] at h
      cases h
  · rw [listen_of_not_has hid] at h
    cases h

theorem of_addRoute {r r' : Registry} {id : Int} {method pattern handler : String}
    (h : r.addRoute id method pattern handler = .ok r') :
    r'.pending = r.pending ∧ r'.servers.length = r.servers.length := by
  unfold addRoute at h
  by_cases hid : r.Has id
  · rw [server_of_has hid] at h
    cases h
    exact ⟨rfl, List.length_modify _ _ _⟩
  · rw [server_of_not_has hid] at h
    cases h

theorem sound_start : Sound {} := nofun

theorem Sound.create {r : Registry} (h : r.Sound) : r.create.2.Sound := by
  intro t ht
  have hlt := h t ht
  simp only [Registry.create, List.length_append, List.length_cons, List.length_nil]
  omega

theorem Sound.addRoute {r r' : Registry} {id : Int} {method pattern handler : String} (h : r.Sound)
    (hr : r.addRoute id method pattern handler = .ok r') : r'.Sound := by
  obtain ⟨hpending, hlength⟩ := of_addRoute hr
  intro t ht
  rw [hlength]
  exact h t (hpending ▸ ht)

theorem Sound.listen {r r' : Registry} {id : Int} {address : String}
    (hr : r.listen id address = .ok r') : r'.Sound := by
  obtain ⟨hid, -, rfl⟩ := of_listen hr
  rintro _ ⟨⟩
  obtain ⟨hzero, hlt⟩ := hid
  change id.toNat < r.servers.length
  omega

/-- The token of an existing server is handed out, and is then gone. -/
theorem Sound.takePending {r : Registry} (h : r.Sound) :
    r.takePending = (r.pending, { r with pending := none }) := by
  unfold Registry.takePending
  rcases r with ⟨servers, pending⟩
  cases pending with
  | none => rfl
  | some t => exact Prod.ext (if_pos (h t rfl)) rfl

/-- Takes over a change, unless it is refused. -/
def settle (r : Registry) : Except RegistryError Registry → Answer × Registry
  | .ok r' => (.done, r')
  | .error e => (.refused e, r)

def answer (r : Registry) : Ask → Answer × Registry
  | .create => (.created r.create.1, r.create.2)
  | .addRoute id method pattern handler => r.settle (r.addRoute id method pattern handler)
  | .listen id address => r.settle (r.listen id address)
  | .take => (.taken r.takePending.1, r.takePending.2)

/-- What comes of asking one after the other. -/
def record (r : Registry) : List Ask → List (Ask × Answer)
  | [] => []
  | a :: rest => (a, (r.answer a).1) :: (r.answer a).2.record rest

/-- What asking leaves of the registry. -/
def after (r : Registry) (asks : List Ask) : Registry := asks.foldl (fun r a => (r.answer a).2) r

theorem settle_cases (r : Registry) (x : Except RegistryError Registry) :
    (∃ r', x = .ok r' ∧ r.settle x = (.done, r')) ∨ ∃ e, r.settle x = (.refused e, r) := by
  cases x with
  | error e => exact .inr ⟨e, rfl⟩
  | ok r' => exact .inl ⟨r', rfl, rfl⟩

/-- An existing server gets to listen unless a token waits, and who is refused changes nothing. -/
theorem answer_listen (r : Registry) (id : Int) (address : String) :
    r.answer (.listen id address) =
      if ¬ r.Has id then (.refused (.unknownServer id), r)
      else if r.pending.isSome then (.refused .alreadyListening, r)
      else (.done, r.listening id address) := by
  rw [answer]
  by_cases hid : r.Has id
  · rw [listen_of_has hid, if_neg (not_not_intro hid)]
    cases r.pending.isSome <;> rfl
  · rw [listen_of_not_has hid, if_pos hid]
    rfl

theorem Sound.answer {r : Registry} (h : r.Sound) (a : Ask) : (r.answer a).2.Sound := by
  cases a with
  | create => exact h.create
  | addRoute id method pattern handler =>
    rcases r.settle_cases (r.addRoute id method pattern handler) with ⟨r', hr, hs⟩ | ⟨e, hs⟩
    · exact congrArg Prod.snd hs ▸ h.addRoute hr
    · exact congrArg Prod.snd hs ▸ h
  | listen id address =>
    rcases r.settle_cases (r.listen id address) with ⟨r', hr, hs⟩ | ⟨e, hs⟩
    · exact congrArg Prod.snd hs ▸ Sound.listen hr
    · exact congrArg Prod.snd hs ▸ h
  | take =>
    have hs : r.answer .take = (.taken r.pending, { r with pending := none }) := by
      rw [Registry.answer, h.takePending]
    rw [hs]
    exact nofun

/-- Tokens are made by listening and lost by taking only. -/
theorem Sound.count_answer {r : Registry} (h : r.Sound) (a : Ask) :
    (Answer.listens (a, (r.answer a).1)).toNat + r.pending.isSome.toNat =
      (Answer.takes (a, (r.answer a).1)).toNat + (r.answer a).2.pending.isSome.toNat := by
  cases a with
  | create => rfl
  | addRoute id method pattern handler =>
    rw [Registry.answer]
    rcases r.settle_cases (r.addRoute id method pattern handler) with ⟨r', hr, hs⟩ | ⟨e, hs⟩
    · rw [hs, (of_addRoute hr).1]
      rfl
    · rw [hs]
      rfl
  | listen id address =>
    rw [Registry.answer]
    rcases r.settle_cases (r.listen id address) with ⟨r', hr, hs⟩ | ⟨e, hs⟩
    · obtain ⟨-, hnone, rfl⟩ := of_listen hr
      rw [hs, hnone]
      rfl
    · rw [hs]
      rfl
  | take =>
    rw [Registry.answer, h.takePending]
    cases r.pending <;> rfl

theorem Sound.after {r : Registry} (h : r.Sound) (asks : List Ask) : (r.after asks).Sound := by
  induction asks generalizing r with
  | nil => exact h
  | cons a rest ih => exact ih (h.answer a)

/-- Each wish that was granted has left a token, which was taken or waits. -/
theorem Sound.countP_record {r : Registry} (h : r.Sound) (asks : List Ask) :
    (r.record asks).countP Answer.listens + r.pending.isSome.toNat =
      (r.record asks).countP Answer.takes + (r.after asks).pending.isSome.toNat := by
  induction asks generalizing r with
  | nil => rfl
  | cons a rest ih =>
    have hhead := h.count_answer a
    have hrest := ih (h.answer a)
    have hafter : r.after (a :: rest) = (r.answer a).2.after rest := rfl
    rw [record, countP_cons_toNat, countP_cons_toNat, hafter]
    omega

end Registry
end GuestHost.Serve
