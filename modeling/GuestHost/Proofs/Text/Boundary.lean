import GuestHost.Text.Utf8
/-!
Cutting a text to a number of bytes. The search for a boundary between characters goes back byte by byte
and stops before the first character at the latest; it passes over no boundary, so what it cuts off is the
longest beginning of the text that fits. The bytes of a text read back as that text.
-/
namespace GuestHost.Text

open String (Pos.Raw.IsValid)

variable {s w : String} {room i j : Nat}

/-- The search for a boundary goes from byte `i` back to byte `j`. It steps back from within a character
only, so never from byte 0. -/
inductive SearchesBack (s : String) : Nat → Nat → Prop
  | found {i : Nat} (h : Pos.Raw.IsValid s ⟨i⟩) : SearchesBack s i i
  | back {i j : Nat} (h : ¬Pos.Raw.IsValid s ⟨i + 1⟩) (rest : SearchesBack s i j) :
      SearchesBack s (i + 1) j

theorem searchesBack_boundaryUpTo (s : String) (i : Nat) :
    SearchesBack s i (boundaryUpTo s i).offset.byteIdx := by
  induction i with
  | zero => exact .found String.Pos.Raw.isValid_zero
  | succ i ih =>
    rw [boundaryUpTo]
    split
    · next h => exact .found h
    · next h => exact .back h ih

namespace SearchesBack

theorem le (h : SearchesBack s i j) : j ≤ i := by
  induction h with
  | found _ => exact Nat.le_refl _
  | back _ _ ih => exact Nat.le_succ_of_le ih

/-- No boundary is passed over. -/
theorem le_of_isValid (h : SearchesBack s i j) {k : Nat} (hk : Pos.Raw.IsValid s ⟨k⟩) (hki : k ≤ i) :
    k ≤ j := by
  induction h with
  | found _ => exact hki
  | @back i _ hinside _ ih =>
    have hne : k ≠ i + 1 := by
      rintro rfl
      exact hinside hk
    exact ih (by omega)

end SearchesBack

/-- Of the beginnings of a text that fit into some bytes, the one that all others begin. Being texts, all of
them end between two characters. -/
structure LongestWithin (s : String) (room : Nat) (w : String) : Prop where
  begins : ∃ rest, s = w ++ rest
  fits : w.utf8ByteSize ≤ room
  longest : ∀ u, (∃ rest, s = u ++ rest) → u.utf8ByteSize ≤ room → ∃ more, w = u ++ more

/-- A text that fits is not cut. -/
theorem LongestWithin.eq_self (h : LongestWithin s room w) (hfits : s.utf8ByteSize ≤ room) : w = s := by
  obtain ⟨rest, hrest⟩ := h.begins
  obtain ⟨more, hmore⟩ := h.longest s ⟨"", String.append_empty.symm⟩ hfits
  have hsizes := congrArg String.utf8ByteSize hmore
  have hsizes' := congrArg String.utf8ByteSize hrest
  rw [String.utf8ByteSize_append] at hsizes hsizes'
  have hnothing : more = "" := String.utf8ByteSize_eq_zero_iff.mp (by omega)
  rw [hmore, hnothing, String.append_empty]

theorem longestWithin_self (h : s.utf8ByteSize ≤ room) : LongestWithin s room s :=
  ⟨⟨"", String.append_empty.symm⟩, h, fun _ hu _ => hu⟩

/-- The bytes before a position are those of the text before it. -/
theorem utf8ByteSize_sliceTo (p : s.Pos) : (s.sliceTo p).copy.utf8ByteSize = p.offset.byteIdx :=
  (congrArg String.Pos.Raw.byteIdx p.splits.offset_eq_rawEndPos).symm

theorem SearchesBack.longestWithin {p : s.Pos} (h : SearchesBack s room p.offset.byteIdx) :
    LongestWithin s room (s.sliceTo p).copy := by
  refine ⟨⟨_, p.splits.eq_append⟩, ?_, ?_⟩
  · rw [utf8ByteSize_sliceTo]
    exact h.le
  · rintro u ⟨rest, hs⟩ hu
    have hvalid : Pos.Raw.IsValid s u.rawEndPos :=
      String.Pos.Raw.isValid_iff_exists_append.mpr ⟨u, rest, hs, rfl⟩
    have hsplits : (s.pos u.rawEndPos hvalid).Splits u rest := by
      subst hs
      exact String.Pos.splits_append_rawEndPos
    have hle : s.pos u.rawEndPos hvalid ≤ p := String.Pos.Raw.le_iff.mpr (h.le_of_isValid hvalid hu)
    obtain ⟨more, hmore, -⟩ := (hsplits.le_iff_exists_eq_append p.splits).mp hle
    exact ⟨more, hmore⟩

theorem longestWithin_utf8Prefix (s : String) (room : Int) :
    LongestWithin s room.toNat (utf8Prefix s room) := by
  unfold utf8Prefix
  split
  · next h => exact longestWithin_self h
  · exact (searchesBack_boundaryUpTo s room.toNat).longestWithin

/-- A text that does not fit is cut where the search ends. -/
theorem searchesBack_utf8Prefix {room : Int} (h : room.toNat < s.utf8ByteSize) :
    SearchesBack s room.toNat (utf8Prefix s room).utf8ByteSize := by
  rw [utf8Prefix, if_neg (Nat.not_le_of_lt h), utf8ByteSize_sliceTo]
  exact searchesBack_boundaryUpTo s room.toNat

theorem length_encode (s : String) : (encode s).length = s.utf8ByteSize := String.size_toByteArray

theorem decode?_encode (s : String) : decode? (encode s) = some s := by
  have hvalid : ByteArray.IsValidUTF8 s.toByteArray := s.isValidUTF8
  exact dif_pos hvalid

end GuestHost.Text
