import GuestHost.Proofs.Bridge.ComingBack
/-!
References as a graph: a guest can put a container into itself or into several others. A copy follows the
edges of this graph, so it ends well where no path is too long, and then it is the tree that the graph unfolds
to; below a cycle there is no such tree, and every copy fails.
-/
namespace GuestHost

namespace Look

variable {ρ : Type} {look : Look ρ}

/-- The second reference is in the container that the first leads to. -/
def Child (look : Look ρ) (g g' : ρ) : Prop := ∃ s, look g = .ok s ∧ g' ∈ s.parts

/-- A path of so many edges from one reference to another. -/
inductive Path (look : Look ρ) : Nat → ρ → ρ → Prop where
  | here (g : ρ) : Path look 0 g g
  | step {n : Nat} {g g' g'' : ρ} (h : look.Child g g') (rest : Path look n g' g'') :
    Path look (n + 1) g g''

mutual

/-- `look.Unfolds g v` says that `v` is the tree to which the graph unfolds at `g`: items and members in
their order, and what is shared once for every place that it stands in. -/
inductive Unfolds (look : Look ρ) : ρ → Value → Prop where
  | scalar {g : ρ} {v : Value} {flat : v.height = 0} (h : look g = .ok (.scalar v flat)) :
    Unfolds look g v
  | array {g : ρ} {items : List ρ} {vs : List Value} (h : look g = .ok (.array items))
    (hs : UnfoldsItems look items vs) : Unfolds look g (.array vs)
  | object {g : ρ} {members : Members ρ} {ms : List (String × Value)}
    (h : look g = .ok (.object members)) (hs : UnfoldsMembers look members ms) :
    Unfolds look g (.object ms)

inductive UnfoldsItems (look : Look ρ) : List ρ → List Value → Prop where
  | nil : UnfoldsItems look [] []
  | cons {g : ρ} {v : Value} {items : List ρ} {vs : List Value} (h : Unfolds look g v)
    (hs : UnfoldsItems look items vs) : UnfoldsItems look (g :: items) (v :: vs)

inductive UnfoldsMembers (look : Look ρ) : Members ρ → List (String × Value) → Prop where
  | nil : UnfoldsMembers look [] []
  | cons {k : String} {g : ρ} {v : Value} {members : Members ρ} {ms : List (String × Value)}
    (h : Unfolds look g v) (hs : UnfoldsMembers look members ms) :
    UnfoldsMembers look ((k, g) :: members) ((k, v) :: ms)

end

theorem unfoldsItems_of_forall₂ {items : List ρ} {vs : List Value}
    (h : List.Forall₂ look.Unfolds items vs) : UnfoldsItems look items vs := by
  induction h with
  | nil => exact .nil
  | cons hv _ ih => exact .cons hv ih

theorem unfoldsMembers_of_forall₂ {members : Members ρ} {ms : List (String × Value)}
    (h : List.Forall₂ (fun m m' => m.1 = m'.1 ∧ look.Unfolds m.2 m'.2) members ms) :
    UnfoldsMembers look members ms := by
  induction h with
  | nil => exact .nil
  | @cons m m' _ _ hm _ ih =>
    obtain ⟨k, g⟩ := m
    obtain ⟨k', v⟩ := m'
    obtain ⟨rfl, hv⟩ := hm
    exact .cons hv ih

mutual

/-- With room for its height the tree is what a copy gives. -/
theorem Unfolds.leadsTo {g : ρ} {v : Value} : look.Unfolds g v → look.LeadsTo g v
  | .scalar h => .scalar h
  | .array h hs => .array h hs.leadsTo
  | .object h hs => .object h hs.leadsTo

theorem UnfoldsItems.leadsTo {items : List ρ} {vs : List Value} :
    UnfoldsItems look items vs → List.Forall₂ look.LeadsTo items vs
  | .nil => .nil
  | .cons h hs => .cons h.leadsTo hs.leadsTo

theorem UnfoldsMembers.leadsTo {members : Members ρ} {ms : List (String × Value)} :
    UnfoldsMembers look members ms →
      List.Forall₂ (fun m m' => m.1 = m'.1 ∧ look.LeadsTo m.2 m'.2) members ms
  | .nil => .nil
  | .cons h hs => .cons ⟨rfl, h.leadsTo⟩ hs.leadsTo

end

/-- A graph unfolds to at most one tree. -/
theorem Unfolds.unique {g : ρ} {v w : Value} (hv : look.Unfolds g v) (hw : look.Unfolds g w) :
    v = w := by
  have hroom : v.height < v.height + w.height + 1 ∧ w.height < v.height + w.height + 1 := by omega
  have hcopy := hv.leadsTo _ hroom.1
  have hcopy' := hw.leadsTo _ hroom.2
  exact Except.ok.inj (hcopy.symm.trans hcopy')

/-- What is copied is the tree to which the graph unfolds. -/
theorem unfolds_of_copyAt {room : Nat} {g : ρ} {v : Value} (h : look.copyAt room g = .ok v) :
    look.Unfolds g v := by
  induction room generalizing g v with
  | zero => cases h
  | succ room ih =>
    rw [copyAt, Except.bind_eq_ok_iff] at h
    obtain ⟨s, hs, h⟩ := h
    cases s with
    | scalar w flat =>
      rw [Except.pure_eq_ok_iff] at h
      exact h ▸ .scalar hs
    | array items =>
      simp only [Except.bind_eq_ok_iff, Except.pure_eq_ok_iff] at h
      obtain ⟨vs, hvs, rfl⟩ := h
      have hitems := (Except.mapM_eq_ok_iff.mp hvs).imp fun _ _ hi => ih hi
      exact .array hs (unfoldsItems_of_forall₂ hitems)
    | object members =>
      simp only [Except.bind_eq_ok_iff, Except.pure_eq_ok_iff] at h
      obtain ⟨ms, hms, rfl⟩ := h
      refine .object hs (unfoldsMembers_of_forall₂ ?_)
      apply (Except.mapM_eq_ok_iff.mp hms).imp
      intro m m' hm
      simp only [Except.bind_eq_ok_iff, Except.pure_eq_ok_iff] at hm
      obtain ⟨v, hv, rfl⟩ := hm
      exact ⟨rfl, ih hv⟩

/-- A container is copied if all of its parts are. -/
theorem exists_copyAt_succ_iff {room : Nat} {g : ρ} {s : Shape ρ} (hs : look g = .ok s) :
    (∃ v, look.copyAt (room + 1) g = .ok v) ↔ ∀ x ∈ s.parts, ∃ v, look.copyAt room x = .ok v := by
  rw [copyAt, hs, Except.ok_bind]
  cases s with
  | scalar v flat => simp [Shape.parts]
  | array items =>
    have hitems := Except.exists_mapM_eq_ok_iff (f := look.copyAt room) (l := items)
    simp only [Except.bind_eq_ok_iff, Except.pure_eq_ok_iff, Shape.parts, ← hitems]
    constructor
    · rintro ⟨v, vs, hvs, -⟩
      exact ⟨vs, hvs⟩
    · rintro ⟨vs, hvs⟩
      exact ⟨_, vs, hvs, rfl⟩
  | object members =>
    have hmember : ∀ m : String × ρ, (∃ e, (do return (m.1, ← look.copyAt room m.2)) =
        (.ok e : Except BridgeError (String × Value))) ↔ ∃ v, look.copyAt room m.2 = .ok v := by
      intro m
      simp only [Except.bind_eq_ok_iff, Except.pure_eq_ok_iff]
      constructor
      · rintro ⟨e, v, hv, -⟩
        exact ⟨v, hv⟩
      · rintro ⟨v, hv⟩
        exact ⟨_, v, hv, rfl⟩
    have hmembers := Except.exists_mapM_eq_ok_iff (l := members)
      (f := fun m => do return (m.1, ← look.copyAt room m.2))
    simp only [hmember] at hmembers
    rw [Shape.parts, List.forall_mem_map, ← hmembers]
    constructor
    · rintro ⟨v, hv⟩
      obtain ⟨ms, hms, -⟩ := Except.bind_eq_ok_iff.mp hv
      exact ⟨ms, hms⟩
    · rintro ⟨ms, hms⟩
      exact ⟨_, Except.bind_eq_ok_iff.mpr ⟨ms, hms, rfl⟩⟩

theorem exists_path_succ_iff {n : Nat} {g : ρ} {s : Shape ρ} (hs : look g = .ok s) :
    (∃ g', look.Path (n + 1) g g') ↔ ∃ x ∈ s.parts, ∃ g', look.Path n x g' := by
  constructor
  · rintro ⟨g', _ | ⟨⟨s', hs', hx⟩, hpath⟩⟩
    have hsame : s' = s := Except.ok.inj (hs'.symm.trans hs)
    exact ⟨_, hsame ▸ hx, g', hpath⟩
  · rintro ⟨x, hx, g', hpath⟩
    exact ⟨g', .step ⟨s, hs, hx⟩ hpath⟩

/-- Where every reference leads somewhere, only a long path is in the way of a copy. -/
theorem exists_copyAt_iff {P : ρ → Prop} (hclosed : look.ClosedOn P) {room : Nat} {g : ρ} (hg : P g) :
    (∃ v, look.copyAt room g = .ok v) ↔ ¬∃ g', look.Path room g g' := by
  induction room generalizing g with
  | zero =>
    have hpath : ∃ g', look.Path 0 g g' := ⟨g, .here g⟩
    simp [copyAt, hpath]
  | succ room ih =>
    obtain ⟨s, hs, hparts⟩ := hclosed g hg
    rw [exists_copyAt_succ_iff hs, exists_path_succ_iff hs]
    push Not
    refine forall₂_congr fun x hx => ?_
    rw [ih (hparts x hx), not_exists]

/-- Every path can be broken off earlier. -/
theorem Path.shorten {n m : Nat} {g g' : ρ} (h : look.Path n g g') (hm : m ≤ n) :
    ∃ x, look.Path m g x := by
  induction h generalizing m with
  | here g =>
    obtain rfl : m = 0 := by omega
    exact ⟨g, .here g⟩
  | @step n g g' g'' hchild _ ih =>
    cases m with
    | zero => exact ⟨g, .here g⟩
    | succ m =>
      obtain ⟨x, hx⟩ := ih (by omega : m ≤ n)
      exact ⟨x, .step hchild hx⟩

theorem Path.append {n m : Nat} {g g' g'' : ρ} (h : look.Path n g g') (h' : look.Path m g' g'') :
    look.Path (n + m) g g'' := by
  induction h with
  | here g => simpa using h'
  | @step n _ _ _ hchild _ ih =>
    have hpath := Path.step hchild (ih h')
    rwa [Nat.add_right_comm] at hpath

/-- Round a cycle there are paths of every length. -/
theorem Path.round {m : Nat} {x : ρ} (h : look.Path (m + 1) x x) (n : Nat) :
    look.Path (n * (m + 1)) x x := by
  induction n with
  | zero => simpa using Path.here x
  | succ n ih =>
    rw [Nat.succ_mul]
    exact ih.append h

/-- From where a cycle can be reached, paths of every length start. -/
theorem Path.exists_of_cycle {n m : Nat} {g x : ρ} (h : look.Path n g x)
    (hcycle : look.Path (m + 1) x x) (length : Nat) : ∃ g', look.Path length g g' := by
  have hlong := h.append (hcycle.round length)
  have hlength : length ≤ n + length * (m + 1) := by
    have hround : length ≤ length * (m + 1) := Nat.le_mul_of_pos_right length (Nat.succ_pos m)
    omega
  exact hlong.shorten hlength

end Look

/-- What a reading of `g` comes to: a path of more edges than may be makes it fail, as every cycle does,
and otherwise it is the tree to which the graph unfolds. -/
structure ReadsTree {ρ : Type} (look : Look ρ) (g : ρ) (r : Except BridgeError Value) : Prop where
  settled : r = .error .tooDeep ∨ ∃ v, r = .ok v
  tooDeep_iff : r = .error .tooDeep ↔ ∃ g', look.Path (maxDepth + 1) g g'
  ok_iff : ∀ v, r = .ok v ↔ look.Unfolds g v ∧ ¬∃ g', look.Path (maxDepth + 1) g g'
  cyclic : ∀ {n m x}, look.Path n g x → look.Path (m + 1) x x → r = .error .tooDeep

theorem Look.ClosedOn.readsTree {ρ : Type} {look : Look ρ} {P : ρ → Prop} (hclosed : look.ClosedOn P)
    {g : ρ} (hg : P g) : ReadsTree look g (look.copyAt (maxDepth + 1) g) := by
  have hcopy : (∃ v, look.copyAt (maxDepth + 1) g = .ok v) ↔ ¬∃ g', look.Path (maxDepth + 1) g g' :=
    exists_copyAt_iff hclosed hg
  have hsettled : look.copyAt (maxDepth + 1) g = .error .tooDeep ∨
      ∃ v, look.copyAt (maxDepth + 1) g = .ok v := by
    rcases hr : look.copyAt (maxDepth + 1) g with e | v
    · exact .inl (congrArg Except.error (copyAt_error hclosed hg hr))
    · exact .inr ⟨v, rfl⟩
  have htooDeep : look.copyAt (maxDepth + 1) g = .error .tooDeep ↔
      ∃ g', look.Path (maxDepth + 1) g g' := by
    rw [← not_iff_not, ← hcopy]
    constructor
    · exact hsettled.resolve_left
    · rintro ⟨v, hv⟩ herr
      rw [hv] at herr
      cases herr
  refine ⟨hsettled, htooDeep, fun v => ⟨fun hv => ⟨unfolds_of_copyAt hv, hcopy.mp ⟨v, hv⟩⟩, ?_⟩, ?_⟩
  · rintro ⟨hunfolds, hshort⟩
    obtain ⟨w, hw⟩ := hcopy.mpr hshort
    rw [hw, hunfolds.unique (unfolds_of_copyAt hw)]
  · intro n m x hpath hcycle
    exact htooDeep.mpr (hpath.exists_of_cycle hcycle (maxDepth + 1))

/-- Under both encodings, whatever graph a program has built, what a reference leads to is read safely: as
the tree to which the graph unfolds, unless a path of more than `maxDepth` edges starts there. -/
theorem graphs_read_safely :
    (∀ (t : HandleTable) held, Reached HandleTable.Free t held →
      ∀ g, t.Valid g → ReadsTree t.look g (t.read g)) ∧
    ∀ (b : NodeHeap) held, Reached NodeHeap.Free b held →
      ∀ n, b.Present n → ReadsTree b.look n (b.read (.node n)) := by
  constructor
  · intro t held h g hg
    have hclosed := (HandleTable.closed_of_reached h).1
    rw [HandleTable.read, HandleTable.readAt_eq_copyAt]
    exact hclosed.closedOn.readsTree hg
  · intro b held h n hn
    have hclosed := (NodeHeap.closed_of_reached h).1
    rw [NodeHeap.read_node]
    exact hclosed.closedOn.readsTree hn

/-- Whatever is asked of a table with whatever handles, its program can bring about. -/
theorem HandleTable.reached_run {t : HandleTable} {held : List Handle} (h : Reached Free t held)
    (es : List (Exchange Handle)) : ∃ held', Reached Free (Exchange.run t es).2 held' := by
  induction es generalizing t held with
  | nil => exact ⟨held, h⟩
  | cons e rest ih => exact ih (h.step e fun _ _ => .inr trivial)

/-- Makes an array whose two items are one object. -/
def diamond : List (Exchange Handle) :=
  [.newArray 2, .newObject, .objectSet 3 "k" 1, .arraySet 2 0 3, .arraySet 2 1 3]

/-- An object that is two items is copied for each, and an array that is its own item is not copied. -/
theorem diamond_unfolds_ring_fails :
    let t := (Exchange.run ({} : HandleTable) diamond).2
    let b := (Exchange.run ({} : NodeHeap) (ring (.node (.array 0)))).2
    ((∃ held, Reached HandleTable.Free t held) ∧ t.Valid 2 ∧
        t.look.Unfolds 2 (.array [.object [("k", .null)], .object [("k", .null)]])) ∧
      (∃ held, Reached NodeHeap.Free b held) ∧ b.Present (.array 0) ∧
        b.read (.node (.array 0)) = .error .tooDeep := by
  intro t b
  obtain ⟨htable, hheap⟩ := graphs_read_safely
  constructor
  · obtain ⟨held, hreached⟩ := HandleTable.reached_run .start diamond
    have hvalid : t.Valid 2 := ⟨.array #[3, 3], rfl⟩
    have hread : t.read 2 = .ok (.array [.object [("k", .null)], .object [("k", .null)]]) := rfl
    exact ⟨⟨held, hreached⟩, hvalid, (((htable t held hreached 2 hvalid).ok_iff _).mp hread).1⟩
  · obtain ⟨held, hreached⟩ : ∃ held, Reached NodeHeap.Free b held :=
      reached_ring (List.mem_singleton_self _)
    have hpresent : b.Present (.array 0) := Nat.zero_lt_one
    have hedge : b.look.Child (.array 0) (.array 0) := ⟨.array [.array 0], rfl, List.mem_singleton_self _⟩
    have hcycle : b.look.Path 1 (.array 0) (.array 0) := .step hedge (.here _)
    exact ⟨⟨held, hreached⟩, hpresent, (hheap b held hreached _ hpresent).cyclic (.here _) hcycle⟩

end GuestHost
