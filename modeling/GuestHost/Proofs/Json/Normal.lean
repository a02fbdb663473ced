import GuestHost.Json.Read
import GuestHost.Proofs.Text.ByteOrder
import GuestHost.Proofs.Value.Listing
import GuestHost.Proofs.Value.WellFormed
/-!
The values that JSON text tells apart, and what it makes of the others: undefined is null or, as a member
of an object, left out; and the members of every object stand by the bytes of their names.
-/
namespace GuestHost

namespace Members

variable {α : Type}

/-- The members by ascending bytes of their names. -/
def byBytes (m : Members α) : Members α :=
  m.mergeSort fun a b => decide (Text.encode a.1 ≤ Text.encode b.1)

theorem byBytes_eq_sorted (m : Members α) : byBytes m = sorted m := by
  have horder : (fun a b : String × α => decide (Text.encode a.1 ≤ Text.encode b.1)) =
      fun a b => decide (a.1 ≤ b.1) := by
    funext a b
    exact decide_eq_decide.mpr Text.encode_le_iff
  unfold byBytes sorted
  rw [horder]

theorem pairwise_sorted (m : Members α) : (sorted m).Pairwise fun a b => a.1 ≤ b.1 := by
  have hpairwise : (sorted m).Pairwise fun a b => decide (a.1 ≤ b.1) = true := by
    refine List.pairwise_mergeSort (fun a b c hab hbc => ?_) (fun a b => ?_) m
    · exact decide_eq_true (Std.le_trans (of_decide_eq_true hab) (of_decide_eq_true hbc))
    · rw [Bool.or_eq_true]
      exact (Std.le_total (a := a.1) (b := b.1)).imp decide_eq_true decide_eq_true
  exact hpairwise.imp fun h => of_decide_eq_true h

theorem sorted_sorted (m : Members α) : sorted (sorted m) = sorted m :=
  List.mergeSort_of_pairwise ((pairwise_sorted m).imp fun h => decide_eq_true h)

theorem ofPairs_of_nodup {m : Members α} (h : (keys m).Nodup) : ofPairs m = m := by
  rw [ofPairs_eq_listing, listing_of_nodup h]

end Members

namespace Value

mutual

/-- No float anywhere in the value. -/
def FloatFree : Value → Prop
  | float _ => False
  | array items => FloatFreeItems items
  | object members => FloatFreeMembers members
  | _ => True

def FloatFreeItems : List Value → Prop
  | [] => True
  | v :: rest => v.FloatFree ∧ FloatFreeItems rest

def FloatFreeMembers : List (String × Value) → Prop
  | [] => True
  | (_, v) :: rest => v.FloatFree ∧ FloatFreeMembers rest

end

mutual

/-- Nothing undefined anywhere in the value. -/
def Defined : Value → Prop
  | undefined => False
  | array items => DefinedItems items
  | object members => DefinedMembers members
  | _ => True

def DefinedItems : List Value → Prop
  | [] => True
  | v :: rest => v.Defined ∧ DefinedItems rest

def DefinedMembers : List (String × Value) → Prop
  | [] => True
  | (_, v) :: rest => v.Defined ∧ DefinedMembers rest

end

theorem definedItems_iff {vs : List Value} : DefinedItems vs ↔ ∀ v ∈ vs, v.Defined := by
  induction vs with
  | nil => simp [DefinedItems]
  | cons v rest ih => simp [DefinedItems, ih]

theorem definedMembers_iff {ms : List (String × Value)} :
    DefinedMembers ms ↔ ∀ m ∈ ms, m.2.Defined := by
  induction ms with
  | nil => simp [DefinedMembers]
  | cons m rest ih => simp [DefinedMembers, ih]

theorem Defined.isUndefined {v : Value} (h : v.Defined) : v.isUndefined = false := by
  cases v with
  | undefined => cases h
  | _ => rfl

mutual

/-- The value that is left of a value in JSON text. -/
def normal : Value → Value
  | undefined => null
  | array items => array (normalItems items)
  | object members => object (Members.byBytes (normalMembers members))
  | v => v

def normalItems : List Value → List Value
  | [] => []
  | v :: rest => v.normal :: normalItems rest

def normalMembers : List (String × Value) → List (String × Value)
  | [] => []
  | (k, v) :: rest => if v.isUndefined then normalMembers rest else (k, v.normal) :: normalMembers rest

end

theorem depthOfItems_le_iff {vs : List Value} {n : Nat} :
    depthOfItems vs ≤ n ↔ ∀ v ∈ vs, v.depth ≤ n := by
  induction vs with
  | nil => exact ⟨fun _ => nofun, fun _ => Nat.zero_le n⟩
  | cons v rest ih => rw [depthOfItems, Nat.max_le, ih, List.forall_mem_cons]

theorem depthOfMembers_le_iff {ms : List (String × Value)} {n : Nat} :
    depthOfMembers ms ≤ n ↔ ∀ m ∈ ms, m.2.depth ≤ n := by
  induction ms with
  | nil => exact ⟨fun _ => nofun, fun _ => Nat.zero_le n⟩
  | cons m rest ih => rw [depthOfMembers, Nat.max_le, ih, List.forall_mem_cons]

theorem keys_normalMembers_sublist (ms : List (String × Value)) :
    (Members.keys (normalMembers ms)).Sublist (Members.keys ms) := by
  induction ms with
  | nil => exact List.Sublist.slnil
  | cons m rest ih =>
    obtain ⟨k, v⟩ := m
    rw [normalMembers]
    split
    · exact List.Sublist.cons k ih
    · exact List.Sublist.cons_cons k ih

theorem normalItems_of_fixed {vs : List Value} (h : ∀ v ∈ vs, v.normal = v) : normalItems vs = vs := by
  induction vs with
  | nil => rfl
  | cons v rest ih =>
    obtain ⟨hv, hrest⟩ := List.forall_mem_cons.mp h
    rw [normalItems, hv, ih hrest]

theorem isUndefined_of_fixed {v : Value} (h : v.normal = v) : v.isUndefined = false := by
  cases v with
  | undefined => cases h
  | _ => rfl

theorem normalMembers_of_fixed {ms : List (String × Value)} (h : ∀ m ∈ ms, m.2.normal = m.2) :
    normalMembers ms = ms := by
  induction ms with
  | nil => rfl
  | cons m rest ih =>
    obtain ⟨k, v⟩ := m
    obtain ⟨hv, hrest⟩ := List.forall_mem_cons.mp h
    rw [normalMembers, isUndefined_of_fixed hv, if_neg Bool.false_ne_true, hv, ih hrest]

end Value

namespace Json.Document

open Value

theorem compositional_normal : Compositional fun v => v.normal = v where
  null := rfl
  boolean _ := rfl
  integer _ := rfl
  float _ := rfl
  string _ := rfl
  array hvs := by rw [normal, normalItems_of_fixed hvs]
  object hms := by
    rw [normal, normalMembers_of_fixed hms, Members.byBytes_eq_sorted, Members.sorted_sorted]

/-- JSON text loses nothing of what a document stands for. -/
theorem normal_toValue (d : Document) : d.toValue.normal = d.toValue :=
  toValue_has compositional_normal d

theorem compositional_defined : Compositional Defined where
  null := trivial
  boolean _ := trivial
  integer _ := trivial
  float _ := trivial
  string _ := trivial
  array := definedItems_iff.mpr
  object := definedMembers_iff.mpr

theorem defined_toValue (d : Document) : d.toValue.Defined := toValue_has compositional_defined d

end Json.Document
end GuestHost
