import GuestHost.Proofs.Json.RoundTrip
/-!
The order of the members of what is read. Whatever a text lists in which order, and however often, the
objects of its value have every name once, by ascending bytes.
-/
namespace GuestHost

theorem Members.ascending_keys_sorted {α : Type} {m : Members α} (h : (keys m).Nodup) :
    (keys (sorted m)).Pairwise fun a b => Text.encode a < Text.encode b := by
  have hle : (keys (sorted m)).Pairwise (· ≤ ·) := List.pairwise_map.mpr (pairwise_sorted m)
  have hne : (keys (sorted m)).Pairwise (· ≠ ·) := nodup_keys_sorted h
  exact hle.imp₂ (fun a b hab hne => Text.encode_lt (Std.lt_of_le_of_ne hab hne)) hne

namespace Value

mutual

/-- In every object of the value the names ascend strictly by their bytes. -/
def Ascending : Value → Prop
  | array items => AscendingItems items
  | object members =>
    ((Members.keys members).Pairwise fun a b => Text.encode a < Text.encode b) ∧
      AscendingMembers members
  | _ => True

def AscendingItems : List Value → Prop
  | [] => True
  | v :: rest => v.Ascending ∧ AscendingItems rest

def AscendingMembers : List (String × Value) → Prop
  | [] => True
  | (_, v) :: rest => v.Ascending ∧ AscendingMembers rest

end

theorem ascendingItems_iff {vs : List Value} : AscendingItems vs ↔ ∀ v ∈ vs, v.Ascending := by
  induction vs with
  | nil => simp [AscendingItems]
  | cons v rest ih => simp [AscendingItems, ih]

theorem ascendingMembers_iff {ms : List (String × Value)} :
    AscendingMembers ms ↔ ∀ m ∈ ms, m.2.Ascending := by
  induction ms with
  | nil => simp [AscendingMembers]
  | cons m rest ih => simp [AscendingMembers, ih]

end Value

namespace Json.Document

open Value

theorem compositional_ascending : Compositional Ascending where
  null := trivial
  boolean _ := trivial
  integer _ := trivial
  float _ := trivial
  string _ := trivial
  array := ascendingItems_iff.mpr
  object hms :=
    ⟨Members.ascending_keys_sorted (Members.nodup_keys_ofPairs _), ascendingMembers_iff.mpr hms⟩

theorem ascending_toValue (d : Document) : d.toValue.Ascending := toValue_has compositional_ascending d

end Json.Document

theorem Json.ascending_parse {text : String} {v : Value} (h : Json.parse text = .ok v) :
    v.Ascending := by
  obtain ⟨d, r, -, rfl⟩ := exists_document_of_parse h
  exact d.ascending_toValue

end GuestHost
