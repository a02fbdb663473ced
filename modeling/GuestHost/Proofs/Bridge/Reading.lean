import GuestHost.Proofs.Bridge.SharedHeap
/-!
Copies of what references lead to. Both encodings copy in one way, from what a reference leads to one level
down; so what a copy owes to the bound on its depth, and to the rest of the store, is said here once.
-/
namespace GuestHost

namespace Value

/-- `v.PartAt n p` says that `p` lies in `n` containers of `v`. -/
inductive PartAt : Value → Nat → Value → Prop where
  | self (v : Value) : PartAt v 0 v
  | item {items : List Value} {v p : Value} {n : Nat} (hv : v ∈ items) (h : PartAt v n p) :
    PartAt (.array items) (n + 1) p
  | member {members : List (String × Value)} {k : String} {v p : Value} {n : Nat}
    (hv : (k, v) ∈ members) (h : PartAt v n p) : PartAt (.object members) (n + 1) p

theorem heightOfItems_le_iff {vs : List Value} {n : Nat} :
    heightOfItems vs ≤ n ↔ ∀ v ∈ vs, v.height < n := by
  induction vs with
  | nil => simp [heightOfItems]
  | cons v rest ih =>
    rw [heightOfItems, Nat.max_le, ih, List.forall_mem_cons]
    exact Iff.rfl

theorem heightOfMembers_le_iff {ms : List (String × Value)} {n : Nat} :
    heightOfMembers ms ≤ n ↔ ∀ m ∈ ms, m.2.height < n := by
  induction ms with
  | nil => simp [heightOfMembers]
  | cons m rest ih =>
    rw [heightOfMembers, Nat.max_le, ih, List.forall_mem_cons]
    exact Iff.rfl

theorem PartAt.le_height {v p : Value} {n : Nat} (h : v.PartAt n p) : n ≤ v.height := by
  induction h with
  | self v => exact Nat.zero_le _
  | item hv _ ih => exact Nat.lt_of_le_of_lt ih (heightOfItems_le_iff.mp (Nat.le_refl _) _ hv)
  | member hv _ ih => exact Nat.lt_of_le_of_lt ih (heightOfMembers_le_iff.mp (Nat.le_refl _) _ hv)

/-- One level down lie the items of an array and what the names of an object are bound to. -/
theorem PartAt.one_cases {v x : Value} (h : v.PartAt 1 x) :
    (∃ items, v = .array items ∧ x ∈ items) ∨ ∃ members k, v = .object members ∧ (k, x) ∈ members := by
  cases h with
  | item hmem h =>
    cases h
    exact .inl ⟨_, rfl, hmem⟩
  | member hmem h =>
    cases h
    exact .inr ⟨_, _, rfl, hmem⟩

theorem PartAt.height_lt {v x : Value} (h : v.PartAt 1 x) : x.height < v.height := by
  obtain ⟨items, rfl, hmem⟩ | ⟨members, k, rfl, hmem⟩ := h.one_cases
  · exact heightOfItems_le_iff.mp (Nat.le_refl _) x hmem
  · exact heightOfMembers_le_iff.mp (Nat.le_refl _) (k, x) hmem

/-- Induction from the items and members of a value to the value. -/
@[elab_as_elim]
theorem part_induction {motive : Value → Prop}
    (step : ∀ v, (∀ x, v.PartAt 1 x → motive x) → motive v) (v : Value) : motive v :=
  step v fun x _ => part_induction step x
termination_by v.height
decreasing_by exact PartAt.height_lt ‹_›

/-- What lies in a part lies one level deeper in the whole. -/
theorem PartAt.under {v x p : Value} {n : Nat} (h : v.PartAt 1 x) (hp : x.PartAt n p) :
    v.PartAt (n + 1) p := by
  obtain ⟨items, rfl, hmem⟩ | ⟨members, k, rfl, hmem⟩ := h.one_cases
  · exact .item hmem hp
  · exact .member hmem hp

theorem height_le_of_parts {d : Nat} {v : Value} (h : ∀ n p, v.PartAt n p → n ≤ d) : v.height ≤ d := by
  induction v using part_induction generalizing d with
  | step v ih =>
    have hparts : ∀ x, v.PartAt 1 x → x.height < d := by
      intro x hx
      have hd : 1 ≤ d := h 1 x hx
      have hx' : x.height ≤ d - 1 := by
        apply ih x hx
        intro n p hp
        have hn : n + 1 ≤ d := h (n + 1) p (hx.under hp)
        omega
      omega
    cases v with
    | array items => exact heightOfItems_le_iff.mpr fun x hx => hparts x (.item hx (.self x))
    | object members => exact heightOfMembers_le_iff.mpr fun m hm => hparts m.2 (.member hm (.self m.2))
    | _ => exact Nat.zero_le d

/-- The height of a value is in how many containers its innermost part lies. -/
theorem height_le_iff {v : Value} {d : Nat} : v.height ≤ d ↔ ∀ n p, v.PartAt n p → n ≤ d :=
  ⟨fun h _ _ hp => Nat.le_trans hp.le_height h, height_le_of_parts⟩

end Value

/-- What a reference leads to, seen one level deep. -/
inductive Shape (ρ : Type) where
  | scalar (v : Value) (flat : v.height = 0)
  | array (items : List ρ)
  | object (members : Members ρ)

/-- The references in a container. -/
def Shape.parts {ρ : Type} : Shape ρ → List ρ
  | scalar _ _ => []
  | array items => items
  | object members => members.map Prod.snd

/-- Where references lead. -/
abbrev Look (ρ : Type) := ρ → Except BridgeError (Shape ρ)

namespace Look

variable {ρ : Type} {look look' : Look ρ}

/-- Copies what a reference leads to, with room for so many levels of containers less one. -/
def copyAt (look : Look ρ) : Nat → ρ → Except BridgeError Value
  | 0, _ => .error .tooDeep
  | room + 1, g => do
    match ← look g with
    | .scalar v _ => return v
    | .array items => return .array (← items.mapM fun i => copyAt look room i)
    | .object members =>
      return .object (← members.mapM fun m => do return (m.1, ← copyAt look room m.2))

/-- A copy is no higher than there was room for. -/
theorem height_lt_of_copyAt {room : Nat} {g : ρ} {v : Value} (h : look.copyAt room g = .ok v) :
    v.height < room := by
  induction room generalizing g v with
  | zero => cases h
  | succ room ih =>
    rw [copyAt, Except.bind_eq_ok_iff] at h
    obtain ⟨s, -, h⟩ := h
    cases s with
    | scalar w flat =>
      rw [Except.pure_eq_ok_iff] at h
      rw [← h, flat]
      exact Nat.succ_pos room
    | array items =>
      simp only [Except.bind_eq_ok_iff, Except.pure_eq_ok_iff] at h
      obtain ⟨vs, hvs, rfl⟩ := h
      refine Nat.lt_succ_of_le (Value.heightOfItems_le_iff.mpr fun v hv => ?_)
      obtain ⟨i, -, hi⟩ := Except.exists_of_mem_of_mapM hvs hv
      exact ih hi
    | object members =>
      simp only [Except.bind_eq_ok_iff, Except.pure_eq_ok_iff] at h
      obtain ⟨ms, hms, rfl⟩ := h
      refine Nat.lt_succ_of_le (Value.heightOfMembers_le_iff.mpr fun m hm => ?_)
      obtain ⟨e, -, he⟩ := Except.exists_of_mem_of_mapM hms hm
      simp only [Except.bind_eq_ok_iff, Except.pure_eq_ok_iff] at he
      obtain ⟨v, hv, rfl⟩ := he
      exact ih hv

/-- References of one kind lead to containers of such references only, and all of them lead somewhere. -/
def ClosedOn (look : Look ρ) (P : ρ → Prop) : Prop :=
  ∀ g, P g → ∃ s, look g = .ok s ∧ ∀ x ∈ s.parts, P x

/-- What stores agree on is copied alike. -/
theorem copyAt_congr {P : ρ → Prop} (hclosed : look.ClosedOn P) (hsame : ∀ g, P g → look' g = look g)
    (room : Nat) {g : ρ} (hg : P g) : look'.copyAt room g = look.copyAt room g := by
  induction room generalizing g with
  | zero => rfl
  | succ room ih =>
    obtain ⟨s, hs, hparts⟩ := hclosed g hg
    rw [copyAt, copyAt, hsame g hg, hs, Except.ok_bind, Except.ok_bind]
    cases s with
    | scalar v flat => rfl
    | array items =>
      have hitems : items.mapM (look'.copyAt room) = items.mapM (look.copyAt room) :=
        Except.mapM_congr fun i hi => ih (hparts i hi)
      simp only [hitems]
    | object members =>
      have hmembers : (members.mapM fun m => do return (m.1, ← look'.copyAt room m.2)) =
          members.mapM fun m => do return (m.1, ← look.copyAt room m.2) :=
        Except.mapM_congr fun m hm => by rw [ih (hparts m.2 (List.mem_map_of_mem hm))]
      simp only [hmembers]

/-- Where every reference leads somewhere, a copy goes wrong in one way only. -/
theorem copyAt_error {P : ρ → Prop} (hclosed : look.ClosedOn P) {room : Nat} {g : ρ} (hg : P g)
    {e : BridgeError} (he : look.copyAt room g = .error e) : e = .tooDeep := by
  induction room generalizing g with
  | zero =>
    cases he
    rfl
  | succ room ih =>
    obtain ⟨s, hs, hparts⟩ := hclosed g hg
    rw [copyAt, hs, Except.ok_bind] at he
    cases s with
    | scalar v flat => cases he
    | array items =>
      simp only [Except.bind_eq_error_iff] at he
      rcases he with he | ⟨vs, -, he⟩
      · obtain ⟨i, hi, he⟩ := Except.exists_of_mapM_eq_error he
        exact ih (hparts i hi) he
      · cases he
    | object members =>
      simp only [Except.bind_eq_error_iff] at he
      rcases he with he | ⟨ms, -, he⟩
      · obtain ⟨m, hm, he⟩ := Except.exists_of_mapM_eq_error he
        rw [Except.bind_eq_error_iff] at he
        rcases he with he | ⟨v, -, he⟩
        · exact ih (hparts m.2 (List.mem_map_of_mem hm)) he
        · cases he
      · cases he

/-- A copy with enough room for the value is that value. -/
def LeadsTo (look : Look ρ) (g : ρ) (v : Value) : Prop :=
  ∀ room, v.height < room → look.copyAt room g = .ok v

namespace LeadsTo

/-- What stores agree on leads to the same values. -/
theorem congr {P : ρ → Prop} (hclosed : look.ClosedOn P) (hsame : ∀ g, P g → look' g = look g) {g : ρ}
    {v : Value} (hg : P g) (h : look.LeadsTo g v) : look'.LeadsTo g v :=
  fun room hroom => (copyAt_congr hclosed hsame room hg).trans (h room hroom)

/-- What leads to a value leads somewhere. -/
theorem exists_shape {g : ρ} {v : Value} (h : look.LeadsTo g v) : ∃ s, look g = .ok s := by
  have hcopy := h (v.height + 1) (Nat.lt_succ_self _)
  rw [copyAt, Except.bind_eq_ok_iff] at hcopy
  obtain ⟨s, hs, -⟩ := hcopy
  exact ⟨s, hs⟩

theorem scalar {g : ρ} {v : Value} {flat : v.height = 0} (h : look g = .ok (.scalar v flat)) :
    look.LeadsTo g v := by
  intro room hroom
  obtain ⟨room, rfl⟩ := Nat.exists_eq_succ_of_ne_zero (Nat.ne_zero_of_lt hroom)
  rw [copyAt, h]
  rfl

theorem array {g : ρ} {items : List ρ} {vs : List Value} (h : look g = .ok (.array items))
    (hs : List.Forall₂ look.LeadsTo items vs) : look.LeadsTo g (.array vs) := by
  intro room hroom
  obtain ⟨room, rfl⟩ := Nat.exists_eq_succ_of_ne_zero (Nat.ne_zero_of_lt hroom)
  have hfit := Value.heightOfItems_le_iff.mp (Nat.le_of_lt_succ hroom)
  have hcopy : items.mapM (look.copyAt room) = .ok vs := by
    refine Except.mapM_eq_ok_iff.mpr ?_
    clear h hroom
    induction hs with
    | nil => exact .nil
    | cons hi _ ih =>
      obtain ⟨hv, hrest⟩ := List.forall_mem_cons.mp hfit
      exact .cons (hi room hv) (ih hrest)
  rw [copyAt, h, Except.ok_bind]
  simp only [hcopy]
  rfl

theorem object {g : ρ} {members : Members ρ} {ms : List (String × Value)}
    (h : look g = .ok (.object members))
    (hs : List.Forall₂ (fun m m' => m.1 = m'.1 ∧ look.LeadsTo m.2 m'.2) members ms) :
    look.LeadsTo g (.object ms) := by
  intro room hroom
  obtain ⟨room, rfl⟩ := Nat.exists_eq_succ_of_ne_zero (Nat.ne_zero_of_lt hroom)
  have hfit := Value.heightOfMembers_le_iff.mp (Nat.le_of_lt_succ hroom)
  have hcopy : (members.mapM fun m => do return (m.1, ← look.copyAt room m.2)) =
      (.ok ms : Except BridgeError _) := by
    refine Except.mapM_eq_ok_iff.mpr ?_
    clear h hroom
    induction hs with
    | nil => exact .nil
    | cons hm _ ih =>
      obtain ⟨hv, hrest⟩ := List.forall_mem_cons.mp hfit
      refine .cons ?_ (ih hrest)
      rw [hm.2 room hv, hm.1]
      rfl
  rw [copyAt, h, Except.ok_bind]
  simp only [hcopy]
  rfl

end LeadsTo
end Look
end GuestHost
