import GuestHost.Proofs.Json.RoundTrip
import GuestHost.Proofs.Schema.Buffered
/-!
Fitting a value to a schema never makes it deeper: parts take another form or are left out, but none is
put into a further container. So what is decoded from a text is no deeper than what can be read.
-/
namespace GuestHost.Schema

open Value

theorem depth_le_depthOfItems (vs : List Value) : ∀ v ∈ vs, v.depth ≤ depthOfItems vs :=
  depthOfItems_le_iff.mp (Nat.le_refl _)

theorem depth_le_depthOfMembers (ms : List (String × Value)) :
    ∀ m ∈ ms, m.2.depth ≤ depthOfMembers ms := depthOfMembers_le_iff.mp (Nat.le_refl _)

/-- A bound on the depth of a container is one on that of its parts, which lie one level deeper. -/
theorem inherited_depth : Inherited fun (n : Nat) v => v.depth ≤ n where
  scalar n v harray hobject := by
    cases v with
    | array vs => exact absurd rfl (harray vs)
    | object ms => exact absurd rfl (hobject ms)
    | _ => exact Nat.zero_le n
  array {n vs} h := by
    refine ⟨depthOfItems vs, depth_le_depthOfItems vs, fun hws => ?_⟩
    exact Nat.le_trans (Nat.succ_le_succ (depthOfItems_le_iff.mpr hws)) h
  object {n ms} h := by
    refine ⟨depthOfMembers ms, depth_le_depthOfMembers ms, fun hout => ?_⟩
    exact Nat.le_trans (Nat.succ_le_succ (depthOfMembers_le_iff.mpr hout.2)) h

theorem depth_fit (s : Schema) {v w : Value} (h : fit s v = .ok w) : w.depth ≤ v.depth :=
  keeps_fit inherited_depth s v.depth (Nat.le_refl _) h

/-- The value that stands for a failure is an object of texts. -/
theorem depth_error (message : String) (path : Option String) : (error message path).depth = 1 := by
  cases path <;> rfl

theorem depth_decode (s : Schema) (text : String) : (s.decode text).depth ≤ Json.nestingLimit := by
  rw [decode_eq]
  split
  · rw [depth_error]
    decide
  · next v hv =>
    split
    · next w hw => exact Nat.le_trans (depth_fit s hw) (Json.depth_parse hv)
    · rw [Rejection.toValue, depth_error]
      decide

end GuestHost.Schema
