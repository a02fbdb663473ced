import GuestHost.Proofs.Bridge.Reading
import GuestHost.Proofs.Json.Normal
import Mathlib
/-!
Structural equality. It looks each member on the left up on the right and compares the numbers of members; as
no name stands twice in an object, that tells apart no more and no less than comparing the sorted members.
-/
namespace GuestHost

namespace Members

variable {α β γ : Type}

/-- The same names in both, bound to related things. -/
structure Agree (R : α → β → Prop) (m : Members α) (m' : Members β) : Prop where
  names : (keys m).Perm (keys m')
  bound : ∀ k a b, (k, a) ∈ m → (k, b) ∈ m' → R a b

theorem exists_mem_of_mem_keys {k : String} {m : Members α} (h : k ∈ keys m) : ∃ a, (k, a) ∈ m := by
  obtain ⟨⟨k', a⟩, hmem, rfl⟩ := List.mem_map.mp h
  exact ⟨a, hmem⟩

theorem mem_keys_of_mem {k : String} {a : α} {m : Members α} (h : (k, a) ∈ m) : k ∈ keys m :=
  List.mem_map_of_mem h

theorem eq_of_mem_of_mem {k : String} {a b : α} {m : Members α} (hnodup : (keys m).Nodup)
    (ha : (k, a) ∈ m) (hb : (k, b) ∈ m) : a = b := by
  have hget := get?_of_mem hnodup ha
  rw [get?_of_mem hnodup hb] at hget
  exact (Option.some.inj hget).symm

namespace Agree

variable {R : α → β → Prop} {S : β → γ → Prop} {T : α → γ → Prop}
variable {m : Members α} {m' : Members β} {m'' : Members γ}

theorem flip {R' : β → α → Prop} (h : Agree R m m')
    (hflip : ∀ k a b, (k, a) ∈ m → (k, b) ∈ m' → R a b → R' b a) : Agree R' m' m where
  names := h.names.symm
  bound k b a hb ha := hflip k a b ha hb (h.bound k a b ha hb)

theorem trans (h : Agree R m m') (h' : Agree S m' m'')
    (htrans : ∀ k a b c, (k, a) ∈ m → (k, b) ∈ m' → (k, c) ∈ m'' → R a b → S b c → T a c) :
    Agree T m m'' where
  names := h.names.trans h'.names
  bound k a c ha hc := by
    obtain ⟨b, hb⟩ := exists_mem_of_mem_keys (h.names.mem_iff.mp (mem_keys_of_mem ha))
    exact htrans k a b c ha hb hc (h.bound k a b ha hb) (h'.bound k b c hb hc)

/-- A map with no name twice agrees with any order of itself if what it binds is related to itself. -/
theorem of_perm {R : α → α → Prop} {m m' : Members α} (hnodup : (keys m).Nodup) (hperm : m.Perm m')
    (hself : ∀ k a, (k, a) ∈ m → R a a) : Agree R m m' where
  names := hperm.map Prod.fst
  bound k a b ha hb := by
    obtain rfl := eq_of_mem_of_mem hnodup ha (hperm.mem_iff.mpr hb)
    exact hself k a ha

/-- Binding one name to something related keeps the agreement. -/
theorem of_replace {R : α → α → Prop} {before after : Members α} {key : String} {c d : α}
    (hnodup : (keys (before ++ (key, c) :: after)).Nodup) (hself : ∀ a, R a a) (hcd : R c d) :
    Agree R (before ++ (key, c) :: after) (before ++ (key, d) :: after) where
  names := by simp [keys]
  bound k a b ha hb := by
    have hmem : (k, b) = (key, d) ∨ (k, b) ∈ before ++ (key, c) :: after := by
      simp only [List.mem_append, List.mem_cons] at hb ⊢
      tauto
    rcases hmem with hnew | hold
    · cases hnew
      obtain rfl := eq_of_mem_of_mem hnodup ha (b := c) (by simp)
      exact hcd
    · obtain rfl := eq_of_mem_of_mem hnodup ha hold
      exact hself a

end Agree

/-- Maps with no name twice that bind the same differ in order only. -/
theorem agree_eq_iff_perm {m m' : Members α} (hnodup : (keys m).Nodup) (hnodup' : (keys m').Nodup) :
    Agree (· = ·) m m' ↔ m.Perm m' := by
  refine ⟨fun h => ?_, fun h => .of_perm hnodup h fun _ _ _ => rfl⟩
  have hentries : m.Nodup := List.Nodup.of_map Prod.fst hnodup
  have hentries' : m'.Nodup := List.Nodup.of_map Prod.fst hnodup'
  rw [List.perm_ext_iff_of_nodup hentries hentries']
  rintro ⟨k, a⟩
  constructor
  · intro ha
    obtain ⟨b, hb⟩ := exists_mem_of_mem_keys (h.names.mem_iff.mp (mem_keys_of_mem ha))
    exact (h.bound k a b ha hb) ▸ hb
  · intro hb
    obtain ⟨a', ha⟩ := exists_mem_of_mem_keys (h.names.mem_iff.mpr (mem_keys_of_mem hb))
    exact (h.bound k a' a ha hb) ▸ ha

/-- Sorting undoes all that differs in order only. -/
theorem sorted_eq_sorted_iff {m m' : Members α} (hnodup : (keys m).Nodup) :
    sorted m = sorted m' ↔ m.Perm m' := by
  constructor
  · intro h
    exact (sorted_perm m).symm.trans (h ▸ sorted_perm m')
  · intro h
    have hperm := (sorted_perm m).trans (h.trans (sorted_perm m').symm)
    refine hperm.eq_of_pairwise (fun x y hx hy hxy hyx => ?_) (pairwise_sorted m) (pairwise_sorted m')
    obtain ⟨k, a⟩ := x
    obtain ⟨k', b⟩ := y
    obtain rfl : k = k' := Std.le_antisymm hxy hyx
    rw [eq_of_mem_of_mem (nodup_keys_sorted hnodup) hx (hperm.mem_iff.mpr hy)]

end Members

theorem forall₂_flip {α β : Type} {R : α → β → Prop} {S : β → α → Prop} {xs : List α} {ys : List β}
    (h : List.Forall₂ R xs ys) (hflip : ∀ x ∈ xs, ∀ y ∈ ys, R x y → S y x) : List.Forall₂ S ys xs := by
  induction h with
  | nil => exact .nil
  | cons hxy _ ih =>
    constructor
    · exact hflip _ (by simp) _ (by simp) hxy
    · exact ih fun x hx y hy => hflip x (by simp [hx]) y (by simp [hy])

theorem forall₂_trans {α β γ : Type} {R : α → β → Prop} {S : β → γ → Prop} {T : α → γ → Prop}
    {xs : List α} {ys : List β} {zs : List γ} (h : List.Forall₂ R xs ys) (h' : List.Forall₂ S ys zs)
    (htrans : ∀ x ∈ xs, ∀ y ∈ ys, ∀ z ∈ zs, R x y → S y z → T x z) : List.Forall₂ T xs zs := by
  induction h generalizing zs with
  | nil =>
    cases h'
    exact .nil
  | cons hxy _ ih =>
    cases h' with
    | cons hyz hrest =>
      constructor
      · exact htrans _ (by simp) _ (by simp) _ (by simp) hxy hyz
      · exact ih hrest fun x hx y hy z hz => htrans x (by simp [hx]) y (by simp [hy]) z (by simp [hz])

namespace Value

open Members (Agree)

variable {a b c v w x : Value}

theorem WellFormed.part (hv : v.WellFormed) (h : v.PartAt 1 x) : x.WellFormed := by
  obtain ⟨items, rfl, hmem⟩ | ⟨members, k, rfl, hmem⟩ := h.one_cases
  · exact wellFormedItems_iff.mp hv x hmem
  · exact wellFormedMembers_iff.mp hv.2 (k, x) hmem

theorem floatFreeItems_iff {vs : List Value} : FloatFreeItems vs ↔ ∀ v ∈ vs, v.FloatFree := by
  induction vs with
  | nil => simp [FloatFreeItems]
  | cons v rest ih => simp [FloatFreeItems, ih]

theorem floatFreeMembers_iff {ms : List (String × Value)} :
    FloatFreeMembers ms ↔ ∀ m ∈ ms, m.2.FloatFree := by
  induction ms with
  | nil => simp [FloatFreeMembers]
  | cons m rest ih => simp [FloatFreeMembers, ih]

theorem FloatFree.part (hv : v.FloatFree) (h : v.PartAt 1 x) : x.FloatFree := by
  obtain ⟨items, rfl, hmem⟩ | ⟨members, k, rfl, hmem⟩ := h.one_cases
  · exact floatFreeItems_iff.mp hv x hmem
  · exact floatFreeMembers_iff.mp hv (k, x) hmem

/-- Two values of one kind: scalars that compare equal, arrays item by item and objects name by name. -/
inductive Alike (R : Value → Value → Prop) : Value → Value → Prop where
  | undefined : Alike R .undefined .undefined
  | null : Alike R .null .null
  | boolean (p : Bool) : Alike R (.boolean p) (.boolean p)
  | integer (n : Int64) : Alike R (.integer n) (.integer n)
  | float {x y : Float} (h : (x == y) = true) : Alike R (.float x) (.float y)
  | string (s : String) : Alike R (.string s) (.string s)
  | array {xs ys : List Value} (h : List.Forall₂ R xs ys) : Alike R (.array xs) (.array ys)
  | object {xs ys : List (String × Value)} (h : Agree R xs ys) : Alike R (.object xs) (.object ys)

namespace Alike

variable {R S T : Value → Value → Prop}

theorem flip (h : Alike R a b)
    (hflip : ∀ x y, a.PartAt 1 x → b.PartAt 1 y → R x y → S y x) : Alike S b a := by
  cases h with
  | float h => exact .float (BEq.symm h)
  | array h =>
    exact .array (forall₂_flip h fun x hx y hy => hflip x y (.item hx (.self x)) (.item hy (.self y)))
  | object h =>
    exact .object (h.flip fun k x y hx hy => hflip x y (.member hx (.self x)) (.member hy (.self y)))
  | _ => constructor

theorem imp (h : Alike R a b)
    (himp : ∀ x y, a.PartAt 1 x → b.PartAt 1 y → R x y → S x y) : Alike S a b :=
  -- There and back: only the first turn changes the relation.
  (h.flip (S := fun y x => S x y) himp).flip fun _ _ _ _ hxy => hxy

theorem trans (h : Alike R a b) (h' : Alike S b c)
    (htrans : ∀ x y z, a.PartAt 1 x → b.PartAt 1 y → c.PartAt 1 z → R x y → S y z → T x z) :
    Alike T a c := by
  cases h with
  | float h =>
    cases h' with
    | float h' => exact .float (BEq.trans h h')
  | array h =>
    cases h' with
    | array h' =>
      exact .array (forall₂_trans h h' fun x hx y hy z hz =>
        htrans x y z (.item hx (.self x)) (.item hy (.self y)) (.item hz (.self z)))
  | object h =>
    cases h' with
    | object h' =>
      exact .object (h.trans h' fun k x y z hx hy hz =>
        htrans x y z (.member hx (.self x)) (.member hy (.self y)) (.member hz (.self z)))
  | _ =>
    cases h'
    constructor

/-- Of scalars, NaN alone is not like itself. -/
theorem self_iff (ha : a.WellFormed) :
    Alike R a a ↔ (∀ x, a = .float x → x.isNaN = false) ∧ ∀ x, a.PartAt 1 x → R x x := by
  constructor
  · intro h
    cases h with
    | @float x _ h =>
      refine ⟨?_, nofun⟩
      rintro _ ⟨⟩
      simpa using h
    | array h =>
      refine ⟨nofun, fun x hx => ?_⟩
      obtain ⟨_, ⟨⟩, hmem⟩ | ⟨_, _, ⟨⟩, -⟩ := hx.one_cases
      exact List.forall₂_same.mp h x hmem
    | object h =>
      refine ⟨nofun, fun x hx => ?_⟩
      obtain ⟨_, ⟨⟩, -⟩ | ⟨_, k, ⟨⟩, hmem⟩ := hx.one_cases
      exact h.bound k x x hmem hmem
    | _ => exact ⟨nofun, nofun⟩
  · rintro ⟨hnan, hparts⟩
    cases a with
    | float x =>
      have hnumber : x ≠ Float.nan := by simpa using hnan x rfl
      exact .float (Float.beq_self_iff.mpr hnumber)
    | array items => exact .array (List.forall₂_same.mpr fun x hx => hparts x (.item hx (.self x)))
    | object members =>
      exact .object (.of_perm ha.1 (.refl _) fun k x hx => hparts x (.member hx (.self x)))
    | _ => constructor

end Alike

theorem equalItems_iff {xs ys : List Value} :
    equalItems xs ys = true ↔ List.Forall₂ (fun x y => x.equal y = true) xs ys := by
  induction xs generalizing ys with
  | nil => cases ys <;> simp [equalItems]
  | cons x xs ih => cases ys <;> simp [equalItems, ih]

theorem equalMembers_iff {xs ys : List (String × Value)} :
    equalMembers xs ys = true ↔
      ∀ e ∈ xs, ∃ y, Members.get? e.1 ys = some y ∧ e.2.equal y = true := by
  induction xs with
  | nil => simp [equalMembers]
  | cons e xs ih =>
    obtain ⟨k, x⟩ := e
    rw [equalMembers, Bool.and_eq_true, ih, List.forall_mem_cons]
    cases Members.get? k ys <;> simp

/-- With no name twice, looking up one way is enough if the numbers are the same. -/
theorem equal_object_iff {xs ys : List (String × Value)} (hxs : (Members.keys xs).Nodup)
    (hys : (Members.keys ys).Nodup) :
    (object xs).equal (object ys) = true ↔ Agree (fun x y => x.equal y = true) xs ys := by
  have hunfold : (object xs).equal (object ys) = true ↔
      xs.length = ys.length ∧ equalMembers xs ys = true := by simp [equal]
  rw [hunfold, equalMembers_iff]
  constructor
  · rintro ⟨hlength, hfound⟩
    have hsubset : Members.keys xs ⊆ Members.keys ys := by
      intro k hk
      obtain ⟨x, hx⟩ := Members.exists_mem_of_mem_keys hk
      obtain ⟨y, hy, -⟩ := hfound _ hx
      exact Members.mem_keys_of_mem (Members.mem_of_get? hy)
    have hcount : (Members.keys ys).length ≤ (Members.keys xs).length := by
      simp [Members.keys, hlength]
    constructor
    · exact (List.subperm_of_subset hxs hsubset).perm_of_length_le hcount
    · intro k x y hx hy
      obtain ⟨y', hy', hequal⟩ := hfound _ hx
      rw [Members.get?_of_mem hys hy] at hy'
      cases hy'
      exact hequal
  · intro h
    constructor
    · simpa [Members.keys] using h.names.length_eq
    · rintro ⟨k, x⟩ hx
      obtain ⟨y, hy⟩ := Members.exists_mem_of_mem_keys (h.names.mem_iff.mp (Members.mem_keys_of_mem hx))
      exact ⟨y, Members.get?_of_mem hys hy, h.bound k x y hx hy⟩

/-- What equality compares: kinds, scalars, items in order and members by name. -/
theorem equal_iff (ha : a.WellFormed) (hb : b.WellFormed) :
    a.equal b = true ↔ Alike (fun x y => x.equal y = true) a b := by
  cases a with
  | array xs =>
    cases b with
    | array ys => exact ⟨fun h => .array (equalItems_iff.mp h), fun | .array h => equalItems_iff.mpr h⟩
    | _ => exact ⟨nofun, nofun⟩
  | object xs =>
    cases b with
    | object ys =>
      have hiff := equal_object_iff ha.1 hb.1
      exact ⟨fun h => .object (hiff.mp h), fun | .object h => hiff.mpr h⟩
    | _ => exact ⟨nofun, nofun⟩
  | float x =>
    cases b with
    | float y => exact ⟨.float, fun | .float h => h⟩
    | _ => exact ⟨nofun, nofun⟩
  | _ =>
    constructor
    · intro h
      cases b <;> simp [equal] at h
      all_goals
        subst_vars
        constructor
    · rintro ⟨⟩
      simp [equal]

/-- Equality goes both ways. -/
theorem equal_symm (ha : a.WellFormed) (hb : b.WellFormed) (h : a.equal b = true) :
    b.equal a = true := by
  induction a using part_induction generalizing b with
  | step a ih =>
    rw [equal_iff ha hb] at h
    rw [equal_iff hb ha]
    exact h.flip fun x y hx hy hxy => ih x hx (ha.part hx) (hb.part hy) hxy

theorem equal_comm (ha : a.WellFormed) (hb : b.WellFormed) : a.equal b = b.equal a :=
  Bool.eq_iff_iff.mpr ⟨equal_symm ha hb, equal_symm hb ha⟩

theorem equal_trans (ha : a.WellFormed) (hb : b.WellFormed) (hc : c.WellFormed)
    (hab : a.equal b = true) (hbc : b.equal c = true) : a.equal c = true := by
  induction a using part_induction generalizing b c with
  | step a ih =>
    rw [equal_iff ha hb] at hab
    rw [equal_iff hb hc] at hbc
    rw [equal_iff ha hc]
    exact hab.trans hbc fun x y z hx hy hz hxy hyz =>
      ih x hx (ha.part hx) (hb.part hy) (hc.part hz) hxy hyz

/-- A float in a value is the value itself or lies in one of its items or members. -/
theorem forall_float_iff {P : Float → Prop} :
    (∀ n x, a.PartAt n (.float x) → P x) ↔
      (∀ x, a = .float x → P x) ∧ ∀ v, a.PartAt 1 v → ∀ n x, v.PartAt n (.float x) → P x := by
  constructor
  · intro h
    constructor
    · rintro x rfl
      exact h 0 x (.self _)
    · intro v hv n x hx
      exact h (n + 1) x (hv.under hx)
  · rintro ⟨hself, hparts⟩ n x hx
    cases hx with
    | self => exact hself x rfl
    | item hmem hx => exact hparts _ (.item hmem (.self _)) _ x hx
    | member hmem hx => exact hparts _ (.member hmem (.self _)) _ x hx

/-- A value equals itself unless NaN lies somewhere in it. -/
theorem equal_self_iff (ha : a.WellFormed) :
    a.equal a = true ↔ ∀ n x, a.PartAt n (.float x) → x.isNaN = false := by
  induction a using part_induction with
  | step a ih =>
    rw [equal_iff ha ha, Alike.self_iff ha, forall_float_iff]
    have hparts : ∀ v, a.PartAt 1 v → (v.equal v = true ↔ ∀ n x, v.PartAt n (.float x) → x.isNaN = false) :=
      fun v hv => ih v hv (ha.part hv)
    exact and_congr_right fun _ => forall₂_congr hparts

/-- The members of one object, anywhere in a value, come in another order. -/
inductive Reorder : Value → Value → Prop where
  | here {xs ys : List (String × Value)} (h : xs.Perm ys) : Reorder (.object xs) (.object ys)
  | item (before after : List Value) {v w : Value} (h : Reorder v w) :
    Reorder (.array (before ++ v :: after)) (.array (before ++ w :: after))
  | member (before after : List (String × Value)) {k : String} {v w : Value} (h : Reorder v w) :
    Reorder (.object (before ++ (k, v) :: after)) (.object (before ++ (k, w) :: after))

/-- Whatever one equals the other equals too. Every value stands in this to itself, also one with NaN in it,
which is not equal to itself; so it passes from one item to an array with the other items kept. -/
def Interchangeable (v w : Value) : Prop := ∀ b, b.WellFormed → v.equal b = w.equal b

theorem Interchangeable.refl (v : Value) : v.Interchangeable v := fun _ _ => rfl

theorem interchangeable_of_alike (ha : a.WellFormed) (hb : b.WellFormed)
    (h : Alike Interchangeable a b) : a.Interchangeable b := by
  intro c hc
  rw [Bool.eq_iff_iff, equal_iff ha hc, equal_iff hb hc]
  constructor
  · intro hac
    have hba := h.flip (S := fun y x => Interchangeable x y) fun _ _ _ _ hxy => hxy
    refine hba.trans hac fun x y z hx hy hz hyx hyz => ?_
    exact (hyx z (hc.part hz)).symm.trans hyz
  · intro hbc
    refine h.trans hbc fun x y z hx hy hz hxy hyz => ?_
    exact (hxy z (hc.part hz)).trans hyz

namespace Reorder

theorem wellFormed (h : Reorder a b) (ha : a.WellFormed) : b.WellFormed := by
  induction h with
  | here h =>
    obtain ⟨hnodup, hms⟩ := wellFormed_object.mp ha
    apply wellFormed_object.mpr
    constructor
    · exact (h.map Prod.fst).nodup_iff.mp hnodup
    · exact fun m hm => hms m (h.mem_iff.mpr hm)
  | item _ _ _ ih =>
    simp only [wellFormed_array, List.forall_mem_append, List.forall_mem_cons] at ha ⊢
    exact ⟨ha.1, ih ha.2.1, ha.2.2⟩
  | member _ _ _ ih =>
    simp only [wellFormed_object, Members.keys, List.map_append, List.map_cons, List.forall_mem_append,
      List.forall_mem_cons] at ha ⊢
    exact ⟨ha.1, ha.2.1, ih ha.2.2.1, ha.2.2.2⟩

/-- One object reordered shows in no comparison. -/
theorem interchangeable (h : Reorder a b) (ha : a.WellFormed) : a.Interchangeable b := by
  apply interchangeable_of_alike ha (h.wellFormed ha)
  induction h with
  | here h => exact .object (.of_perm ha.1 h fun _ x _ => .refl x)
  | @item before after v _ h ih =>
    have hv : v.WellFormed := wellFormed_array.mp ha v (by simp)
    have hvw := interchangeable_of_alike hv (h.wellFormed hv) (ih hv)
    have hsame : ∀ vs : List Value, List.Forall₂ Interchangeable vs vs :=
      fun vs => List.forall₂_same.mpr fun x _ => .refl x
    exact .array (List.rel_append (hsame before) (.cons hvw (hsame after)))
  | @member _ _ k v _ h ih =>
    obtain ⟨hnodup, hms⟩ := wellFormed_object.mp ha
    have hv : v.WellFormed := hms (k, v) (by simp)
    have hvw := interchangeable_of_alike hv (h.wellFormed hv) (ih hv)
    exact .object (.of_replace hnodup .refl hvw)

theorem run (h : Relation.ReflTransGen Reorder a b) (ha : a.WellFormed) :
    b.WellFormed ∧ a.Interchangeable b := by
  induction h with
  | refl => exact ⟨ha, .refl a⟩
  | tail _ hstep ih =>
    obtain ⟨hb, hab⟩ := ih
    refine ⟨hstep.wellFormed hb, fun v hv => ?_⟩
    rw [hab v hv, hstep.interchangeable hb v hv]

end Reorder

mutual

/-- The value with the members of every object in it by ascending name. -/
def sortKeys : Value → Value
  | array items => array (sortKeysOfItems items)
  | object members => object (Members.sorted (sortKeysOfMembers members))
  | v => v

def sortKeysOfItems : List Value → List Value
  | [] => []
  | v :: rest => v.sortKeys :: sortKeysOfItems rest

def sortKeysOfMembers : List (String × Value) → List (String × Value)
  | [] => []
  | (k, v) :: rest => (k, v.sortKeys) :: sortKeysOfMembers rest

end

theorem sortKeysOfItems_eq_iff {xs ys : List Value} :
    sortKeysOfItems xs = sortKeysOfItems ys ↔ List.Forall₂ (fun x y => x.sortKeys = y.sortKeys) xs ys := by
  induction xs generalizing ys with
  | nil => cases ys <;> simp [sortKeysOfItems]
  | cons x xs ih => cases ys <;> simp [sortKeysOfItems, ih]

theorem sortKeysOfMembers_eq_map (ms : List (String × Value)) :
    sortKeysOfMembers ms = ms.map fun m => (m.1, m.2.sortKeys) := by
  induction ms with
  | nil => rfl
  | cons m rest ih => rw [sortKeysOfMembers, ih, List.map_cons]

theorem keys_sortKeysOfMembers (ms : List (String × Value)) :
    Members.keys (sortKeysOfMembers ms) = Members.keys ms := by
  simp [sortKeysOfMembers_eq_map, Members.keys]

theorem agree_sortKeysOfMembers_iff {R : Value → Value → Prop} {xs ys : List (String × Value)} :
    Agree R (sortKeysOfMembers xs) (sortKeysOfMembers ys) ↔
      Agree (fun x y => R x.sortKeys y.sortKeys) xs ys := by
  have hmem : ∀ {k v ms}, (k, v) ∈ sortKeysOfMembers ms ↔ ∃ w, (k, w) ∈ ms ∧ w.sortKeys = v := by
    simp [sortKeysOfMembers_eq_map]
  constructor
  · rintro ⟨hnames, hbound⟩
    rw [keys_sortKeysOfMembers, keys_sortKeysOfMembers] at hnames
    exact ⟨hnames, fun k x y hx hy => hbound k _ _ (hmem.mpr ⟨x, hx, rfl⟩) (hmem.mpr ⟨y, hy, rfl⟩)⟩
  · rintro ⟨hnames, hbound⟩
    rw [← keys_sortKeysOfMembers xs, ← keys_sortKeysOfMembers ys] at hnames
    refine ⟨hnames, fun k x y hx hy => ?_⟩
    obtain ⟨v, hv, rfl⟩ := hmem.mp hx
    obtain ⟨w, hw, rfl⟩ := hmem.mp hy
    exact hbound k v w hv hw

theorem sortKeys_object_eq_iff {xs ys : List (String × Value)} (hxs : (Members.keys xs).Nodup)
    (hys : (Members.keys ys).Nodup) :
    (object xs).sortKeys = (object ys).sortKeys ↔ Agree (fun x y => x.sortKeys = y.sortKeys) xs ys := by
  rw [← keys_sortKeysOfMembers] at hxs hys
  rw [← agree_sortKeysOfMembers_iff (R := (· = ·)), Members.agree_eq_iff_perm hxs hys,
    ← Members.sorted_eq_sorted_iff hxs]
  simp only [sortKeys, object.injEq]

/-- Sorting the members tells apart what equality does, floats left aside. -/
theorem sortKeys_eq_iff (ha : a.WellFormed) (hb : b.WellFormed) (hfree : a.FloatFree) :
    a.sortKeys = b.sortKeys ↔ Alike (fun x y => x.sortKeys = y.sortKeys) a b := by
  cases a with
  | array xs =>
    cases b with
    | array ys =>
      simp only [sortKeys, array.injEq, sortKeysOfItems_eq_iff]
      exact ⟨.array, fun | .array h => h⟩
    | _ => exact ⟨nofun, nofun⟩
  | object xs =>
    cases b with
    | object ys =>
      have hiff := sortKeys_object_eq_iff ha.1 hb.1
      exact ⟨fun h => .object (hiff.mp h), fun | .object h => hiff.mpr h⟩
    | _ => exact ⟨nofun, nofun⟩
  | float x => cases hfree
  | _ =>
    constructor
    · intro h
      cases b <;> cases h
      constructor
    · rintro ⟨⟩
      rfl

theorem equal_iff_sortKeys_eq (ha : a.WellFormed) (hb : b.WellFormed) (hfree : a.FloatFree) :
    a.equal b = true ↔ a.sortKeys = b.sortKeys := by
  induction a using part_induction generalizing b with
  | step a ih =>
    rw [equal_iff ha hb, sortKeys_eq_iff ha hb hfree]
    have hparts : ∀ x y, a.PartAt 1 x → b.PartAt 1 y → (x.equal y = true ↔ x.sortKeys = y.sortKeys) :=
      fun x y hx hy => ih x hx (ha.part hx) (hb.part hy) (hfree.part hx)
    constructor
    · exact fun h => h.imp fun x y hx hy => (hparts x y hx hy).mp
    · exact fun h => h.imp fun x y hx hy => (hparts x y hx hy).mpr

/-- Equality is symmetric and transitive, and every value without NaN equals itself. The order of members,
on whichever side and however deep, makes no difference; and among values without floats those are equal that
become the same once the members of all objects are sorted. -/
theorem equality_up_to_order {a b c : Value} (ha : a.WellFormed) (hb : b.WellFormed) (hc : c.WellFormed) :
    a.equal b = b.equal a ∧
      (a.equal b = true → b.equal c = true → a.equal c = true) ∧
      (a.equal a = true ↔ ∀ n x, a.PartAt n (.float x) → x.isNaN = false) ∧
      (∀ a' b', Relation.ReflTransGen Reorder a a' → Relation.ReflTransGen Reorder b b' →
        a'.equal b' = a.equal b) ∧
      (a.FloatFree → b.FloatFree → (a.equal b = true ↔ a.sortKeys = b.sortKeys)) := by
  refine ⟨equal_comm ha hb, equal_trans ha hb hc, equal_self_iff ha, fun a' b' haa' hbb' => ?_,
    fun hfree _ => equal_iff_sortKeys_eq ha hb hfree⟩
  obtain ⟨ha', hsame⟩ := Reorder.run haa' ha
  obtain ⟨-, hsame'⟩ := Reorder.run hbb' hb
  calc a'.equal b' = b'.equal a' := equal_comm ha' (Reorder.run hbb' hb).1
    _ = b.equal a' := (hsame' a' ha').symm
    _ = a'.equal b := equal_comm hb ha'
    _ = a.equal b := (hsame b hb).symm

/-- Objects in another order at two depths are equal, and an array that holds NaN is not equal to itself. -/
theorem equal_through_reordering :
    let xy : Value := .object [("x", .null), ("y", .string "s")]
    let yx : Value := .object [("y", .string "s"), ("x", .null)]
    let v : Value := .object [("n", .integer 1), ("list", .array [xy, .undefined])]
    let w : Value := .object [("list", .array [yx, .undefined]), ("n", .integer 1)]
    let u : Value := .array [.float (Float.ofBits 0x7FF8000000000000)]
    v.equal w = true ∧ w.equal v = true ∧ v.sortKeys = w.sortKeys ∧ u.equal u = false := by
  intro xy yx v w u
  have hv : v.WellFormed := by simp [v, xy, Members.keys]
  have hu : u.WellFormed := by simp [u]
  have hreorder : Relation.ReflTransGen Reorder v w := by
    have hinner : Reorder xy yx := .here (.swap ..)
    have hlist : Reorder (.array [xy, .undefined]) (.array [yx, .undefined]) :=
      .item [] [.undefined] hinner
    have hfirst : Reorder v (.object [("n", .integer 1), ("list", .array [yx, .undefined])]) :=
      .member [("n", .integer 1)] [] hlist
    exact (Relation.ReflTransGen.single hfirst).tail (.here (.swap ..))
  have hw : w.WellFormed := (Reorder.run hreorder hv).1
  obtain ⟨hsymm, -, -, -, hsorted⟩ := equality_up_to_order hv hw hu
  obtain ⟨-, -, -, hsame, -⟩ := equality_up_to_order hv hv hu
  obtain ⟨-, -, hself, -, -⟩ := equality_up_to_order hu hu hu
  have hvw : v.equal w = true := (hsame v w .refl hreorder).trans (by decide)
  refine ⟨hvw, hsymm ▸ hvw, (hsorted ?_ ?_).mp hvw, ?_⟩
  · simp [v, xy, FloatFree, FloatFreeMembers, FloatFreeItems]
  · simp [w, yx, FloatFree, FloatFreeMembers, FloatFreeItems]
  · apply Bool.eq_false_iff.mpr
    intro h
    have hnumber := hself.mp h 1 _ (.item (List.mem_singleton_self _) (.self _))
    exact absurd hnumber (by decide)

end Value
end GuestHost
