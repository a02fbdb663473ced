import GuestHost.Route.Pattern
import Mathlib.Data.List.Forall2
/-!
Which paths a pattern fits. A pattern fits segment by segment, and binds its parameters just then; one
without parameters fits the path that it is itself, and no other.
-/
namespace GuestHost.Route

/-- A literal takes itself, a parameter whatever is not empty. -/
def Segment.Takes : Segment → String → Prop
  | .literal text, piece => text = piece
  | .param _, piece => piece ≠ ""

/-- The pattern has a segment for each piece of the path, and takes it. -/
def Fits (pattern path : String) : Prop :=
  List.Forall₂ Segment.Takes (segments pattern) (pieces path)

/-- The names of the parameters among some segments, with the pieces in their places. -/
def boundPairs (ss : List Segment) (ps : List String) : List (String × String) :=
  (ss.zip ps).filterMap fun
    | (.param name, piece) => some (name, piece)
    | (.literal _, _) => none

/-- What a pattern binds when it fits a path. -/
def bindings (pattern path : String) : List (String × String) :=
  boundPairs (segments pattern) (pieces path)

theorem bindPieces_eq_some_iff {ss : List Segment} {ps : List String} {out : List (String × String)} :
    bindPieces ss ps = some out ↔ List.Forall₂ Segment.Takes ss ps ∧ out = boundPairs ss ps := by
  induction ss generalizing ps out with
  | nil =>
    cases ps with
    | nil => simp [bindPieces, boundPairs, eq_comm]
    | cons p ps => simp [bindPieces]
  | cons s ss ih =>
    cases ps with
    | nil => cases s <;> simp [bindPieces]
    | cons p ps =>
      cases s with
      | literal text =>
        by_cases h : text = p
        · simp [bindPieces, h, ih, Segment.Takes, boundPairs]
        · simp [bindPieces, h, Segment.Takes]
      | param name =>
        by_cases h : p = ""
        · simp [bindPieces, h, Segment.Takes]
        · simp only [bindPieces, h, if_false, Option.map_eq_some_iff, ih, List.forall₂_cons,
            Segment.Takes, ne_eq, not_false_eq_true, true_and]
          constructor
          · rintro ⟨rest, ⟨hrest, rfl⟩, rfl⟩
            exact ⟨hrest, rfl⟩
          · rintro ⟨hrest, rfl⟩
            exact ⟨_, ⟨hrest, rfl⟩, rfl⟩

/-- A pattern binds just where it fits. -/
theorem bind_eq_some_iff {pattern path : String} {out : List (String × String)} :
    bind pattern path = some out ↔ Fits pattern path ∧ out = bindings pattern path :=
  bindPieces_eq_some_iff

namespace Segment

/-- A segment takes the piece that it is written as. -/
theorem takes_ofPiece (piece : String) : (ofPiece piece).Takes piece := by
  unfold ofPiece
  split
  · next c cs h =>
    rintro rfl
    simp at h
  · rfl

/-- A literal is written as the only piece that it takes. -/
theorem eq_of_takes {piece other : String} (h : (ofPiece piece).isLiteral = true)
    (htakes : (ofPiece piece).Takes other) : piece = other := by
  unfold ofPiece at h htakes
  split at h
  · cases h
  · next hc =>
    split at htakes
    · next c cs hcs => exact absurd hcs (hc c cs)
    · exact htakes

end Segment

theorem fits_self (pattern : String) : Fits pattern pattern := by
  unfold Fits segments
  rw [List.forall₂_map_left_iff, List.forall₂_same]
  exact fun piece _ => Segment.takes_ofPiece piece

/-- The characters come back from the pieces between the slashes. -/
theorem splitSlash_ne_nil (cs : List Char) : splitSlash cs ≠ [] := by
  cases cs with
  | nil => exact List.cons_ne_nil _ _
  | cons c cs =>
    rw [splitSlash]
    split
    · exact List.cons_ne_nil _ _
    · split <;> exact List.cons_ne_nil _ _

theorem intercalate_splitSlash (cs : List Char) : ['/'].intercalate (splitSlash cs) = cs := by
  induction cs with
  | nil => rfl
  | cons c cs ih =>
    rw [splitSlash]
    rcases hs : splitSlash cs with _ | ⟨s, ss⟩
    · exact absurd hs (splitSlash_ne_nil cs)
    rw [hs] at ih
    split
    · next hc =>
      subst hc
      simp [List.intercalate_cons_cons, ih]
    · cases ss with
      | nil => simpa using ih
      | cons t ts => simpa [List.intercalate_cons_cons] using ih

/-- Paths of the same pieces are the same. -/
theorem pieces_injective : Function.Injective pieces := by
  intro a b h
  have hinjective : Function.Injective String.ofList := fun _ _ => String.ofList_injective
  have hsplit : splitSlash a.toList = splitSlash b.toList := List.map_injective_iff.mpr hinjective h
  rw [← String.toList_inj, ← intercalate_splitSlash a.toList, hsplit, intercalate_splitSlash]

/-- Without parameters a pattern fits itself only. -/
theorem eq_of_fits {pattern path : String} (h : hasParams pattern = false) (hfits : Fits pattern path) :
    pattern = path := by
  apply pieces_injective
  unfold hasParams at h
  rw [List.any_eq_false] at h
  unfold Fits segments at hfits
  rw [List.forall₂_map_left_iff] at hfits
  have hliteral : ∀ piece ∈ pieces pattern, (Segment.ofPiece piece).isLiteral = true := by
    intro piece hpiece
    simpa using h _ (List.mem_map_of_mem hpiece)
  rw [← List.forall₂_eq_eq_eq]
  generalize pieces pattern = ps, pieces path = qs at hfits hliteral
  induction hfits with
  | nil => exact .nil
  | cons hhead _ ih =>
    obtain ⟨hp, hps⟩ := List.forall_mem_cons.mp hliteral
    exact .cons (Segment.eq_of_takes hp hhead) (ih hps)

end GuestHost.Route
