import GuestHost.Proofs.Bridge.Exchange
import GuestHost.Proofs.Bridge.TableFaithful
/-!
Tables through any sequence of exchanges, with any handles at all. One exchange adds slots or changes the
contents of one; so no handle ever dangles, nothing is ever removed, and a literal keeps its handle.
-/
namespace GuestHost.HandleTable

variable {t t' : HandleTable}

theorem array_eq_ok_iff {g : Handle} {items : Array Handle} :
    t.array g = .ok items ↔ t.slot? g = some (.array items) := by
  unfold array slot
  cases t.slot? g with
  | none => simp
  | some s => cases s <;> simp [throw, throwThe, MonadExceptOf.throw]

theorem object_eq_ok_iff {g : Handle} {members : Members Handle} :
    t.object g = .ok members ↔ t.slot? g = some (.object members) := by
  unfold object slot
  cases t.slot? g with
  | none => simp
  | some s => cases s <;> simp [throw, throwThe, MonadExceptOf.throw]

theorem arraySet_eq_ok_iff {g x : Handle} {i : Nat} :
    t.arraySet g i x = .ok t' ↔ t.Valid x ∧ ∃ items, t.slot? g = some (.array items) ∧
      i < items.size ∧ t' = t.put g (.array (items.setIfInBounds i x)) := by
  simp only [arraySet, Except.bind_eq_ok_iff, array_eq_ok_iff, slot_eq_ok_iff]
  constructor
  · rintro ⟨s, hs, items, hitems, h⟩
    split at h
    · next hi =>
      cases h
      exact ⟨⟨s, hs⟩, items, hitems, hi, rfl⟩
    · cases h
  · rintro ⟨⟨s, hs⟩, items, hitems, hi, rfl⟩
    refine ⟨s, hs, items, hitems, ?_⟩
    rw [if_pos hi]
    rfl

theorem objectSet_eq_ok_iff {g x : Handle} {key : String} :
    t.objectSet g key x = .ok t' ↔ t.Valid x ∧ ∃ members, t.slot? g = some (.object members) ∧
      t' = t.put g (.object (Members.set key x members)) := by
  simp only [objectSet, Except.bind_eq_ok_iff, object_eq_ok_iff, slot_eq_ok_iff,
    Except.pure_eq_ok_iff]
  constructor
  · rintro ⟨s, hs, members, hmembers, rfl⟩
    exact ⟨⟨s, hs⟩, members, hmembers, rfl⟩
  · rintro ⟨⟨s, hs⟩, members, hmembers, rfl⟩
    exact ⟨s, hs, members, hmembers, rfl⟩

theorem intern_of_interned? {p n : Nat} {g : Handle} (hg : t.interned? p n = some g) (text : String) :
    t.intern p n text = (.ok g, t) := by
  rw [intern, hg]

/-- What an exchange can do to a table: add slots, perhaps for a new literal, or change the contents of the
container that it is meant to change. -/
inductive Effect (t : HandleTable) (e : Exchange Handle) : Exchange.Result Handle × HandleTable → Prop where
  | grows {o : Exchange.Result Handle} {t' : HandleTable} (hgrown : Grown t t') (hclosed : Closed t')
    (hgiven : ∀ g ∈ o.given, t'.Valid g) : Effect t e (o, t')
  | interns {p n : Nat} {text : String} {g : Handle} {t' : HandleTable} (he : e = .intern p n text)
    (hnew : t.interned? p n = none) (hgrown : Grown t t') (hclosed : Closed t')
    (hslot : t'.slot? g = some (.string text)) :
    Effect t e (.ok (some g), { t' with interned := ((p, n), g) :: t'.interned })
  | puts {g : Handle} {s s' : Slot} (htarget : e.target? = some g) (hs : t.slot? g = some s)
    (hb : s.Becomes s') (hs' : ∀ x ∈ s'.handles, t.Valid x) : Effect t e (.ok none, t.put g s')

namespace Effect

variable {e : Exchange Handle} {r : Exchange.Result Handle × HandleTable}

/-- Nothing is done. -/
theorem idle (h : Closed t) {o : Exchange.Result Handle} (ho : ∀ g ∈ o.given, t.Valid g) :
    Effect t e (o, t) := .grows (Grown.refl t) h ho

theorem made {r : Except BridgeError Handle × HandleTable} (hgrown : Grown t r.2)
    (hclosed : Closed r.2) (hvalid : ∀ g, r.1 = .ok g → r.2.Valid g) :
    Effect t e (Exchange.made r) :=
  .grows hgrown hclosed fun g hg => hvalid g (Exchange.mem_given_made.mp hg)

theorem pushed (h : Closed t) {s : Slot} (hs : ∀ x ∈ s.handles, t.Valid x) :
    Effect t e (Exchange.made (t.push s)) := by
  have hpush : Copied 1 True (fun t g => t.Valid g) t (t.push s) :=
    .push h hs trivial fun t' g _ hg => ⟨s, hg⟩
  exact made hpush.grown hpush.closed fun g hg => (hpush.ok g hg).2

theorem closed (h : Closed t) (he : Effect t e r) : Closed r.2 := by
  cases he with
  | grows hgrown hclosed hgiven => exact hclosed
  | puts htarget hs hb hs' => exact h.put hs hb hs'
  | @interns p n text g t' he hnew hgrown hclosed hslot =>
    refine ⟨hclosed.undefined, hclosed.null, hclosed.stored, ?_⟩
    intro e' he'
    rcases List.mem_cons.mp he' with rfl | he'
    · exact ⟨text, hslot⟩
    · exact hclosed.interned e' he'

/-- A slot stays, unless it is the one that the exchange is meant to change. -/
theorem slot? (he : Effect t e r) {g : Handle} {s : Slot} (hs : t.slot? g = some s) :
    r.2.slot? g = some s ∨ (e.target? = some g ∧ r.1 = .ok none) ∧
      ∃ s', r.2.slot? g = some s' ∧ s.Becomes s' := by
  cases he with
  | grows hgrown _ _ => exact .inl (hgrown.slot? hs)
  | interns _ _ hgrown _ _ => exact .inl (hgrown.slot? hs)
  | @puts g' s₀ s' htarget hs₀ hb _ =>
    by_cases hg : g = g'
    · subst hg
      exact .inr ⟨⟨htarget, rfl⟩, slot?_put hs₀ hb hs⟩
    · exact .inl ((slot?_put_of_ne ⟨s₀, hs₀⟩ hg s').trans hs)

theorem becomes (he : Effect t e r) {g : Handle} {s : Slot} (hs : t.slot? g = some s) :
    ∃ s', r.2.slot? g = some s' ∧ s.Becomes s' := by
  rcases he.slot? hs with hsame | ⟨-, hbecomes⟩
  · exact ⟨s, hsame, .same s⟩
  · exact hbecomes

theorem given (he : Effect t e r) {g : Handle} (hg : g ∈ r.1.given) : r.2.Valid g := by
  cases he with
  | grows _ _ hgiven => exact hgiven g hg
  | interns _ _ _ _ hslot =>
    obtain rfl := List.mem_singleton.mp hg
    exact ⟨_, hslot⟩
  | puts => cases hg

/-- A literal that has a handle keeps it. -/
theorem interned? (he : Effect t e r) {p n : Nat} {g : Handle} (hg : t.interned? p n = some g) :
    r.2.interned? p n = some g := by
  unfold HandleTable.interned? at hg ⊢
  cases he with
  | grows hgrown _ _ => rwa [hgrown.interned]
  | puts => exact hg
  | @interns p' n' _ _ _ _ hnew hgrown _ _ =>
    have hne : (p, n) ≠ (p', n') := by
      intro heq
      cases heq
      rw [HandleTable.interned?, hg] at hnew
      cases hnew
    rw [List.lookup_cons, beq_false_of_ne hne, hgrown.interned]
    exact hg

/-- A literal gets a handle by being interned. -/
theorem interned?_eq_none (he : Effect t e r) {p n : Nat} (hnone : t.interned? p n = none)
    (hfree : ∀ text g, e = .intern p n text → r.1 ≠ .ok (some g)) : r.2.interned? p n = none := by
  unfold HandleTable.interned? at hnone ⊢
  cases he with
  | grows hgrown _ _ => rwa [hgrown.interned]
  | puts => exact hnone
  | @interns p' n' text g _ heq _ hgrown _ _ =>
    have hne : (p, n) ≠ (p', n') := by
      intro hsame
      cases hsame
      exact hfree text g heq rfl
    rw [List.lookup_cons, beq_false_of_ne hne, hgrown.interned]
    exact hnone

end Effect

namespace Closed

/-- A literal that has a handle has a string for its slot. -/
theorem slot?_of_interned? (h : Closed t) {p n : Nat} {g : Handle} (hg : t.interned? p n = some g) :
    ∃ text, t.slot? g = some (.string text) := by
  obtain ⟨_, _, hsplit, -⟩ := List.lookup_eq_some_iff.mp hg
  refine h.interned ((p, n), g) ?_
  rw [hsplit]
  exact List.mem_append_right _ List.mem_cons_self

theorem arraySet (h : Closed t) (g : Handle) (i : Nat) (x : Handle) :
    Effect t (.arraySet g i x) (Exchange.changed t (t.arraySet g i x)) := by
  rcases hset : t.arraySet g i x with err | t'
  · exact .idle h nofun
  · obtain ⟨hx, items, hitems, -, rfl⟩ := arraySet_eq_ok_iff.mp hset
    refine .puts rfl hitems (.array (Array.size_setIfInBounds)) fun y hy => ?_
    have hy' : y ∈ (items.setIfInBounds i x).toList := hy
    rw [Array.toList_setIfInBounds] at hy'
    rcases List.mem_or_eq_of_mem_set hy' with hold | rfl
    · exact h.stored g _ hitems y hold
    · exact hx

theorem objectSet (h : Closed t) (g : Handle) (key : String) (x : Handle) :
    Effect t (.objectSet g key x) (Exchange.changed t (t.objectSet g key x)) := by
  rcases hset : t.objectSet g key x with err | t'
  · exact .idle h nofun
  · obtain ⟨hx, members, hmembers, rfl⟩ := objectSet_eq_ok_iff.mp hset
    refine .puts rfl hmembers (.object _ _) fun y hy => ?_
    obtain ⟨m, hm, rfl⟩ := List.mem_map.mp hy
    rcases Members.mem_of_mem_set hm with rfl | hold
    · exact hx
    · exact h.stored g _ hmembers _ (List.mem_map_of_mem hold)

theorem intern (h : Closed t) (p n : Nat) (text : String) :
    Effect t (.intern p n text) (Exchange.made (t.intern p n text)) := by
  rcases hfound : t.interned? p n with _ | g
  · have hpush : Copied 1 True (fun t g => t.slot? g = some (.string text)) t (t.push (.string text)) :=
      .push h (fun x hx => by cases hx) trivial fun t' g _ hg => hg
    rcases heq : t.push (.string text) with ⟨err | g, t'⟩ <;> rw [heq] at hpush <;>
      simp only [HandleTable.intern, hfound, heq]
    · refine .made hpush.grown hpush.closed fun g hg => ?_
      cases hg
    · exact .interns rfl hfound hpush.grown hpush.closed (hpush.ok g rfl).2
  · obtain ⟨text', hs⟩ := h.slot?_of_interned? hfound
    rw [intern_of_interned? hfound]
    refine .idle h fun g' hg' => ?_
    obtain rfl := List.mem_singleton.mp hg'
    exact ⟨_, hs⟩

theorem arrayGet (h : Closed t) {a g : Handle} {i : Nat} (hg : t.arrayGet a i = .ok g) : t.Valid g := by
  simp only [HandleTable.arrayGet, Except.bind_eq_ok_iff, array_eq_ok_iff] at hg
  obtain ⟨items, hitems, hg⟩ := hg
  split at hg
  · next x hx =>
    cases hg
    exact h.stored a _ hitems g (Array.mem_toList_iff.mpr (Array.mem_of_getElem? hx))
  · cases hg

theorem objectGet (h : Closed t) {o g : Handle} {key : String}
    (hg : (t.object o).map (Members.get? key) = .ok (some g)) : t.Valid g := by
  rw [Except.map_eq_ok_iff] at hg
  obtain ⟨members, hmembers, hg⟩ := hg
  have hmem := List.mem_map_of_mem (f := Prod.snd) (Members.mem_of_get? hg)
  exact h.stored o _ (object_eq_ok_iff.mp hmembers) g hmem

/-- No exchange does anything else. -/
theorem perform (h : Closed t) (e : Exchange Handle) : Effect t e (e.perform t) := by
  cases e with
  | copyIn v =>
    have hcopied := allocAt_copied v (maxDepth + 1) h
    exact .made hcopied.grown hcopied.closed fun g hg => valid_of_leadsTo (hcopied.ok g hg).2
  | newArray n =>
    refine .pushed h fun x hx => ?_
    have hx' : x ∈ (Array.replicate n HandleTable.undefined).toList := hx
    rw [Array.toList_replicate] at hx'
    obtain rfl := List.eq_of_mem_replicate hx'
    exact ⟨_, h.undefined⟩
  | newObject => exact .pushed h fun x hx => nomatch hx
  | arrayGet a i =>
    refine .idle h fun g hg => ?_
    obtain ⟨g', hg', hsome⟩ := Except.map_eq_ok_iff.mp (Exchange.Result.mem_given_iff.mp hg)
    exact h.arrayGet (hg'.trans (congrArg Except.ok (Option.some.inj hsome)))
  | arraySet a i x => exact h.arraySet a i x
  | objectGet o key => exact .idle h fun g hg => h.objectGet (Exchange.Result.mem_given_iff.mp hg)
  | objectSet o key x => exact h.objectSet o key x
  | intern p n text => exact h.intern p n text

end Closed

open Exchange (run)

theorem closed_run (h : Closed t) (es : List (Exchange Handle)) : Closed (run t es).2 := by
  induction es generalizing t with
  | nil => exact h
  | cons e rest ih => exact ih ((h.perform e).closed h)

/-- Whatever happens, a slot is there for good, and turns only into what it may turn into. -/
theorem becomes_run (h : Closed t) (es : List (Exchange Handle)) {g : Handle} {s : Slot}
    (hs : t.slot? g = some s) : ∃ s', (run t es).2.slot? g = some s' ∧ s.Becomes s' := by
  induction es generalizing t s with
  | nil => exact ⟨s, hs, .same s⟩
  | cons e rest ih =>
    have he := h.perform e
    obtain ⟨s₁, hs₁, hb₁⟩ := he.becomes hs
    obtain ⟨s₂, hs₂, hb₂⟩ := ih (he.closed h) hs₁
    exact ⟨s₂, hs₂, hb₁.trans hb₂⟩

theorem interned?_run (h : Closed t) (es : List (Exchange Handle)) {p n : Nat} {g : Handle}
    (hg : t.interned? p n = some g) : (run t es).2.interned? p n = some g := by
  induction es generalizing t with
  | nil => exact hg
  | cons e rest ih =>
    have he := h.perform e
    exact ih (he.closed h) (he.interned? hg)

/-- What the log does not show as interned is not interned. -/
theorem interned?_run_eq_none (h : Closed t) (es : List (Exchange Handle)) {p n : Nat}
    (hnone : t.interned? p n = none)
    (hlog : ∀ text g, (Exchange.intern p n text, .ok (some g)) ∉ (run t es).1) :
    (run t es).2.interned? p n = none := by
  induction es generalizing t with
  | nil => exact hnone
  | cons e rest ih =>
    have he := h.perform e
    refine ih (he.closed h) (he.interned?_eq_none hnone ?_) fun text g hmem => ?_
    · rintro text g rfl hr
      exact hlog text g (List.mem_cons.mpr (.inl (by rw [hr])))
    · exact hlog text g (List.mem_cons_of_mem _ hmem)

/-- The first time that a literal is interned, it gets a new slot with its text. -/
theorem intern_first {p n : Nat} {text : String} {g : Handle} {t₁ : HandleTable}
    (hnone : t.interned? p n = none) (hintern : t.intern p n text = (.ok g, t₁)) :
    t₁.interned? p n = some g ∧ t₁.slot? g = some (.string text) := by
  rw [intern, hnone] at hintern
  by_cases hroom : t.slots.size < capacity
  · have hslot := slot?_push_size (s := .string text) hroom
    rw [push, if_pos hroom] at hintern hslot
    cases hintern
    refine ⟨?_, hslot⟩
    rw [interned?, List.lookup_cons, beq_self_eq_true]
  · rw [push, if_neg hroom] at hintern
    cases hintern

/-- From an empty table on, whatever is asked with whatever handles: no handle that the table keeps dangles;
slots are there for good, and are changed only where a successful change is meant to; a literal keeps the
handle and the text that it got first; and a handle with a slot can be read but for the depth of its value. -/
theorem table_invariant (es : List (Exchange Handle)) :
    let t := (run ({} : HandleTable) es).2
    Closed t ∧
      (∀ more g s, t.slot? g = some s →
        ∃ s', (run t more).2.slot? g = some s' ∧ s'.kind = s.kind ∧ s.Becomes s') ∧
      (∀ (e : Exchange Handle) g, t.Valid g → (e.perform t).2.slot? g ≠ t.slot? g →
        e.target? = some g ∧ (e.perform t).1 = .ok none) ∧
      (∀ p n text g t₁, (∀ text' g', (.intern p n text', .ok (some g')) ∉ (run ({} : HandleTable) es).1) →
        (Exchange.intern p n text).perform t = (.ok (some g), t₁) → ∀ more text',
          (Exchange.intern p n text').perform (run t₁ more).2 = (.ok (some g), (run t₁ more).2) ∧
            (run t₁ more).2.read g = .ok (.string text)) ∧
      ∀ g, t.Valid g → ∀ err, t.read g = .error err → err = .tooDeep := by
  intro t
  have hclosed : Closed t := closed_run Closed.start es
  refine ⟨hclosed, ?_, ?_, ?_, ?_⟩
  · intro more g s hs
    obtain ⟨s', hs', hb⟩ := becomes_run hclosed more hs
    exact ⟨s', hs', hb.kind_eq, hb⟩
  · rintro e g ⟨s, hs⟩ hne
    rcases (hclosed.perform e).slot? hs with hsame | ⟨htarget, -⟩
    · exact absurd (hsame.trans hs.symm) hne
    · exact htarget
  · intro p n text g t₁ hfirst hintern more text'
    have hnone : t.interned? p n = none := interned?_run_eq_none Closed.start es rfl hfirst
    have hclosed₁ : Closed t₁ := by
      have := (hclosed.perform (.intern p n text)).closed hclosed
      rwa [hintern] at this
    obtain ⟨hinterned, hslot⟩ := intern_first hnone (Exchange.made_eq_iff.mp hintern)
    have hlast := interned?_run hclosed₁ more hinterned
    obtain ⟨s', hs', hb⟩ := becomes_run hclosed₁ more hslot
    rw [hb.eq_of_scalar nofun nofun] at hs'
    refine ⟨?_, ?_⟩
    · exact Exchange.made_eq_iff.mpr (intern_of_interned? hlast text')
    · have hleads : (run t₁ more).2.look.LeadsTo g (.string text) := leadsTo_scalar hs' rfl
      rw [HandleTable.read, readAt_eq_copyAt]
      exact hleads _ (Nat.succ_pos _)
  · intro g hg err herr
    rw [HandleTable.read, readAt_eq_copyAt] at herr
    exact Look.copyAt_error hclosed.closedOn hg herr

/-- A literal that is interned again gives the handle and the text of the first time, whatever was tried in
between. -/
theorem literal_stays :
    let t := (Exchange.perform ({} : HandleTable) (.intern 8 1 "a")).2
    let more : List (Exchange Handle) := [.newArray 1, .arraySet 3 0 3, .arraySet 3 7 3, .objectSet 2 "k" 9]
    Exchange.perform (run t more).2 (.intern 8 1 "b") = (.ok (some 2), (run t more).2) ∧
      (run t more).2.read 2 = .ok (.string "a") := by
  intro t more
  obtain ⟨-, -, -, hliteral, -⟩ := table_invariant []
  exact hliteral 8 1 "a" 2 t nofun rfl more "b"

end GuestHost.HandleTable
