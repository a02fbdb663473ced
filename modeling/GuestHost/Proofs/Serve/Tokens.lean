import GuestHost.Proofs.Route.Resolution
import GuestHost.Proofs.Serve.Listening
/-!
What a registry keeps of all that has been asked of it. Servers are numbered as they come; a server has the
routes that were added to it, whoever holds its token; and the token that waits is that of the last wish to
listen that was granted, until it is taken.
-/
namespace GuestHost.Serve

open Route.Table (Addition built built_append exists_entry_of_mem mem_entries_built_iff)

/-- The number that a new server is given. -/
def Answer.created? : Ask × Answer → Option Int
  | (.create, .created id) => some id
  | _ => none

/-- A route that is added to the server of this number. -/
def Answer.added? (id : Int) : Ask × Answer → Option Addition
  | (.addRoute i method pattern handler, .done) =>
    if i = id then some ⟨method, pattern, handler⟩ else none
  | _ => none

/-- The numbers of the servers, as they were made. -/
def created (log : List (Ask × Answer)) : List Int := log.filterMap Answer.created?

/-- What was added to the server of this number, as it was added. -/
def additions (id : Int) (log : List (Ask × Answer)) : List Addition :=
  log.filterMap (Answer.added? id)

namespace Registry

variable {r : Registry}

theorem after_append (r : Registry) (asks more : List Ask) :
    r.after (asks ++ more) = (r.after asks).after more := List.foldl_append

theorem record_append (r : Registry) (asks more : List Ask) :
    r.record (asks ++ more) = r.record asks ++ (r.after asks).record more := by
  induction asks generalizing r with
  | nil => rfl
  | cons a rest ih => exact congrArg ((a, (r.answer a).1) :: ·) (ih _)

/-! What asking once does. -/

/-- The registry with one more route. -/
def adding (r : Registry) (id : Int) (method pattern handler : String) : Registry :=
  { r with servers := r.servers.modify id.toNat fun t => t.add method pattern handler }

/-- A route is added if its server exists, and otherwise nothing changes. -/
theorem answer_addRoute (r : Registry) (id : Int) (method pattern handler : String) :
    r.answer (.addRoute id method pattern handler) =
      if r.Has id then (.done, r.adding id method pattern handler)
      else (.refused (.unknownServer id), r) := by
  rw [answer, addRoute]
  by_cases hid : r.Has id
  · rw [server_of_has hid, if_pos hid]
    rfl
  · rw [server_of_not_has hid, if_neg hid]
    rfl

theorem Sound.answer_take (h : r.Sound) :
    r.answer .take = (.taken r.pending, { r with pending := none }) := by
  rw [Registry.answer, h.takePending]

theorem answer_refused {a : Ask} {e : RegistryError} (h : (r.answer a).1 = .refused e) :
    (r.answer a).2 = r := by
  cases a with
  | create => cases h
  | take => cases h
  | addRoute id method pattern handler =>
    rw [answer_addRoute] at h ⊢
    split at h
    · cases h
    · next hid => rw [if_neg hid]
  | listen id address =>
    rw [answer_listen] at h ⊢
    split at h
    · next hid => rw [if_pos hid]
    split at h
    · next hid hwaits => rw [if_neg hid, if_pos hwaits]
    · cases h

/-- A server that is made has the next number; nothing else makes or unmakes one. -/
theorem created_answer (r : Registry) (a : Ask) :
    (Answer.created? (a, (r.answer a).1) = some r.servers.length ∧
        (r.answer a).2.servers.length = r.servers.length + 1) ∨
      Answer.created? (a, (r.answer a).1) = none ∧
        (r.answer a).2.servers.length = r.servers.length := by
  cases a with
  | create => exact .inl ⟨rfl, List.length_append⟩
  | take =>
    refine .inr ⟨rfl, ?_⟩
    rw [answer, takePending]
    cases r.pending <;> rfl
  | addRoute id method pattern handler =>
    refine .inr ⟨rfl, ?_⟩
    rw [answer_addRoute]
    split
    · exact List.length_modify _ _ _
    · rfl
  | listen id address =>
    refine .inr ⟨rfl, ?_⟩
    rw [answer_listen]
    split
    · rfl
    · split <;> rfl

theorem routesOf_congr {s : Registry} (h : s.servers = r.servers) (i : Nat) :
    s.routesOf i = r.routesOf i := by
  rw [routesOf, routesOf, h]

/-- A new server has the routes that an unknown one shows, which are none. -/
theorem routesOf_create (r : Registry) (i : Nat) : r.create.2.routesOf i = r.routesOf i := by
  simp only [routesOf, create]
  rcases Nat.lt_trichotomy i r.servers.length with hlt | rfl | hgt
  · rw [List.getElem?_append_left hlt]
  · rw [List.getElem?_concat_length, List.getElem?_eq_none (Nat.le_refl _)]
    rfl
  · rw [List.getElem?_eq_none (Nat.le_of_lt hgt), List.getElem?_eq_none]
    rw [List.length_append]
    exact hgt

theorem routesOf_adding {id : Int} (hid : r.Has id) (method pattern handler : String) (i : Nat) :
    (r.adding id method pattern handler).routesOf i =
      if id = i then (r.routesOf i).add method pattern handler else r.routesOf i := by
  obtain ⟨hzero, hlt⟩ := hid
  simp only [routesOf, adding, List.getElem?_modify]
  by_cases hi : id = i
  · subst hi
    have hlt : i < r.servers.length := by omega
    simp [hlt]
  · have hne : id.toNat ≠ i := by omega
    simp [hi, hne]

/-- Only what is added to a server changes its routes. -/
theorem routesOf_answer (r : Registry) (a : Ask) (i : Nat) :
    (r.answer a).2.routesOf i = (Answer.added? i (a, (r.answer a).1)).toList.foldl
      (fun t a => t.add a.method a.pattern a.handler) (r.routesOf i) := by
  cases a with
  | create => exact r.routesOf_create i
  | take =>
    refine routesOf_congr ?_ i
    rw [answer, takePending]
    cases r.pending <;> rfl
  | listen id address =>
    refine routesOf_congr ?_ i
    rw [answer_listen]
    split
    · rfl
    · split <;> rfl
  | addRoute id method pattern handler =>
    rw [answer_addRoute]
    split
    · next hid =>
      rw [routesOf_adding hid]
      simp only [Answer.added?]
      split <;> rfl
    · rfl

/-- A token that waits is lost by taking only. -/
theorem pending_answer_of_some {t : Token} (h : r.pending = some t) {a : Ask} (ha : a ≠ .take) :
    (r.answer a).2.pending = some t := by
  cases a with
  | create => exact h
  | take => exact absurd rfl ha
  | addRoute id method pattern handler =>
    rw [answer_addRoute]
    split <;> exact h
  | listen id address =>
    rw [answer_listen]
    split
    · exact h
    · rw [if_pos (h ▸ rfl)]
      exact h

/-- A token that waits has waited before, or comes of a wish that is granted. -/
theorem of_pending_answer (hr : r.Sound) {a : Ask} {t : Token} (h : (r.answer a).2.pending = some t) :
    (a ≠ .take ∧ r.pending = some t) ∨ ∃ id address, a = .listen id address ∧ r.Has id ∧
      r.pending = none ∧ t = ⟨id.toNat, normalizeAddress address⟩ := by
  cases a with
  | create => exact .inl ⟨nofun, h⟩
  | take =>
    rw [hr.answer_take] at h
    cases h
  | addRoute id method pattern handler =>
    rw [answer_addRoute] at h
    split at h <;> exact .inl ⟨nofun, h⟩
  | listen id address =>
    rw [answer_listen] at h
    split at h
    · exact .inl ⟨nofun, h⟩
    · next hid =>
      cases hp : r.pending with
      | some t' => exact .inl ⟨nofun, by simpa [hp] using h⟩
      | none =>
        rw [hp] at h
        cases h
        exact .inr ⟨id, address, rfl, not_not.mp hid, rfl, rfl⟩

/-! What a whole run leaves. -/

theorem created_record (asks : List Ask) :
    created (record {} asks) = (List.range (after {} asks).servers.length).map Int.ofNat := by
  induction asks using List.reverseRecOn with
  | nil => rfl
  | append_singleton asks a ih =>
    rw [record_append, created, List.filterMap_append, ← created, ih, after_append]
    rcases created_answer (after {} asks) a with ⟨hnew, hlength⟩ | ⟨hnew, hlength⟩
    · change _ = (List.range ((after {} asks).answer a).2.servers.length).map Int.ofNat
      rw [hlength, List.range_succ, List.map_append, record, List.filterMap_cons_some hnew]
      rfl
    · change _ = (List.range ((after {} asks).answer a).2.servers.length).map Int.ofNat
      rw [hlength, record, List.filterMap_cons_none hnew]
      exact List.append_nil _

theorem has_after_iff (asks : List Ask) (id : Int) :
    (after {} asks).Has id ↔ id ∈ created (record {} asks) := by
  rw [created_record, List.mem_map]
  constructor
  · rintro ⟨hzero, hlt⟩
    exact ⟨id.toNat, List.mem_range.mpr (by omega), Int.toNat_of_nonneg hzero⟩
  · rintro ⟨n, hn, rfl⟩
    exact ⟨Int.natCast_nonneg n, Int.ofNat_lt.mpr (List.mem_range.mp hn)⟩

theorem routesOf_after (r : Registry) (asks : List Ask) (i : Nat) :
    (r.after asks).routesOf i = (additions i (r.record asks)).foldl
      (fun t a => t.add a.method a.pattern a.handler) (r.routesOf i) := by
  induction asks generalizing r with
  | nil => rfl
  | cons a rest ih =>
    have hhead := r.routesOf_answer a i
    change ((r.answer a).2.after rest).routesOf i = _
    rw [ih, hhead, record, additions, additions]
    cases hadded : Answer.added? i (a, (r.answer a).1) with
    | none => rw [List.filterMap_cons_none hadded, Option.toList_none, List.foldl_nil]
    | some b =>
      rw [List.filterMap_cons_some hadded, List.foldl_cons, Option.toList_some, List.foldl_cons,
        List.foldl_nil]

/-- The token that waits is that of the last wish that was granted, and has not been taken since. -/
theorem pending_after_iff {asks : List Ask} {t : Token} :
    (after {} asks).pending = some t ↔ ∃ before id address later,
      asks = before ++ .listen id address :: later ∧ (after {} before).Has id ∧
        (after {} before).pending = none ∧ .take ∉ later ∧
        t = ⟨id.toNat, normalizeAddress address⟩ := by
  -- from the end, since what was asked last has left the token alone, made it or taken it
  induction asks using List.reverseRecOn with
  | nil =>
    refine iff_of_false nofun ?_
    rintro ⟨before, id, address, later, h, -⟩
    simp at h
  | append_singleton asks a ih =>
    rw [after_append]
    constructor
    · intro h
      rcases of_pending_answer (sound_start.after asks) h with
        ⟨ha, hkept⟩ | ⟨id, address, rfl, hid, hnone, rfl⟩
      · obtain ⟨before, id, address, later, rfl, hid, hnone, htake, rfl⟩ := ih.mp hkept
        refine ⟨before, id, address, later ++ [a], by simp, hid, hnone, ?_, rfl⟩
        exact fun hmem => (List.mem_append.mp hmem).elim htake fun hmem =>
          ha (List.mem_singleton.mp hmem).symm
      · exact ⟨asks, id, address, [], rfl, hid, hnone, List.not_mem_nil, rfl⟩
    · rintro ⟨before, id, address, later, hsplit, hid, hnone, htake, rfl⟩
      rcases List.eq_nil_or_concat later with rfl | ⟨later, b, rfl⟩
      · obtain ⟨rfl, hlast⟩ := List.append_inj' hsplit rfl
        cases hlast
        change (answer _ _).2.pending = _
        rw [answer_listen, if_neg (not_not_intro hid), hnone]
        rfl
      · rw [List.concat_eq_append] at hsplit htake
        rw [← List.cons_append, ← List.append_assoc] at hsplit
        obtain ⟨rfl, hlast⟩ := List.append_inj' hsplit rfl
        cases hlast
        have hwaits := ih.mpr ⟨before, id, address, later, rfl, hid, hnone,
          fun hmem => htake (List.mem_append_left _ hmem), rfl⟩
        refine pending_answer_of_some hwaits fun ha => htake ?_
        exact List.mem_append_right _ (List.mem_singleton.mpr ha.symm)

/-- What a registry owes to all that has been asked of it. -/
structure Keeps (asks : List Ask) : Prop where
  /-- Servers are numbered from zero on, as they come. -/
  numbered : created (record {} asks) = (List.range (after {} asks).servers.length).map Int.ofNat
  /-- A token that waits is that of the last wish that was granted, and not taken since. -/
  waits : ∀ t, (after {} asks).pending = some t ↔ ∃ before id address later,
    asks = before ++ .listen id address :: later ∧
      id ∈ created (record {} before) ∧ (after {} before).pending = none ∧ .take ∉ later ∧
      t = ⟨id.toNat, normalizeAddress address⟩
  /-- A token names a server that exists. -/
  exists_server : ∀ t, (after {} asks).pending = some t →
    (t.server : Int) ∈ created (record {} asks)
  /-- Whoever takes gets the token that waits, and leaves none. -/
  taken : (after {} asks).answer .take =
    (.taken (after {} asks).pending, { after {} asks with pending := none })
  /-- The routes of a server are all that was added to it, and to no other. -/
  routes : ∀ i, (after {} asks).routesOf i = built (additions i (record {} asks))
  /-- They have one for every method and pattern for which one was added. -/
  holds : ∀ i : Nat, ∀ a ∈ additions i (record {} asks), ∃ e ∈ ((after {} asks).routesOf i).entries,
    e.method = a.entry.method ∧ e.pattern = a.entry.pattern
  /-- Of what was added for one method and pattern they have what came last. -/
  mem_routes : ∀ i e, e ∈ ((after {} asks).routesOf i).entries ↔ ∃ before a later,
    additions i (record {} asks) = before ++ a :: later ∧ a.entry = e ∧
      ∀ b ∈ later, ¬(b.entry.method = e.method ∧ b.entry.pattern = e.pattern)
  /-- The routes of a token that has been taken go on to show what is added to its server. -/
  shown : ∀ t, (after {} asks).pending = some t → ∀ more,
    let taken := ((after {} asks).answer .take).2
    (taken.after more).routesOf t.server =
      built (additions t.server (record {} asks) ++ additions t.server (taken.record more))
  /-- Routes are added to the servers that exist. -/
  adds : ∀ id method pattern handler,
    ((after {} asks).answer (.addRoute id method pattern handler)).1 = .done ↔
      id ∈ created (record {} asks)
  /-- The servers that exist get to listen while no token waits. -/
  listens : ∀ id address, ((after {} asks).answer (.listen id address)).1 = .done ↔
    id ∈ created (record {} asks) ∧ (after {} asks).pending = none
  /-- What is refused changes nothing. -/
  refused : ∀ a e, ((after {} asks).answer a).1 = .refused e →
    ((after {} asks).answer a).2 = after {} asks

/-- Whatever is asked of a registry, its tokens and routes are those that were asked for. -/
theorem tokens_and_routes_kept (asks : List Ask) : Keeps asks := by
  have hsound : (after {} asks).Sound := sound_start.after asks
  have hroutes : ∀ i : Nat, (after {} asks).routesOf i = built (additions i (record {} asks)) :=
    routesOf_after {} asks
  refine {
    numbered := created_record asks
    waits := fun t => ?_
    exists_server := fun t ht => ?_
    taken := hsound.answer_take
    routes := hroutes
    holds := fun i a ha => by
      rw [hroutes]
      exact exists_entry_of_mem ha
    mem_routes := fun i e => by rw [hroutes, mem_entries_built_iff]
    shown := fun t _ more => ?_
    adds := fun id method pattern handler => ?_
    listens := fun id address => ?_
    refused := fun a e => answer_refused }
  · rw [pending_after_iff]
    simp only [has_after_iff]
  · rw [← has_after_iff]
    exact ⟨Int.natCast_nonneg _, Int.ofNat_lt.mpr (hsound t ht)⟩
  · have htaken : ((after {} asks).answer .take).2.routesOf t.server =
        built (additions t.server (record {} asks)) := by
      rw [← hroutes, hsound.answer_take]
      exact routesOf_congr rfl _
    simp only [routesOf_after _ more, htaken, built_append]
  · rw [answer_addRoute, ← has_after_iff]
    by_cases hid : (after {} asks).Has id <;> simp [hid]
  · rw [answer_listen, ← has_after_iff]
    by_cases hid : (after {} asks).Has id
    · cases (after {} asks).pending <;> simp [hid]
    · simp [hid]

end Registry
end GuestHost.Serve
