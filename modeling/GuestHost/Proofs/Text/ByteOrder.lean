import GuestHost.Text.Utf8
/-!
Texts in the order of their characters are texts in the order of their bytes: of two characters the larger
one is encoded by the larger bytes, whatever stands behind them.
-/
namespace GuestHost.Text

/-- What is left of a number without its last `k` digits of six bits. -/
def leading : Nat → Nat → Nat
  | 0, v => v
  | k + 1, v => leading k v / 64

/-- The bytes that follow the first one of a character, `k` of them. -/
def continuation : Nat → Nat → List UInt8
  | 0, _ => []
  | k + 1, v => UInt8.ofNat (leading k v % 64 + 0x80) :: continuation k v

/-- How a character is spelled: the number of bytes behind the first, and what that one adds to the
leading bits of the character. -/
inductive Spelling (v : Nat) : Nat → Nat → Prop where
  | one (h : v < 0x80) : Spelling v 0 0
  | two (h : 0x80 ≤ v) (h' : v < 0x800) : Spelling v 1 0xC0
  | three (h : 0x800 ≤ v) (h' : v < 0x10000) : Spelling v 2 0xE0
  | four (h : 0x10000 ≤ v) (h' : v < 0x110000) : Spelling v 3 0xF0

theorem toNat_lt (c : Char) : c.toNat < 0x110000 := by
  rcases c.valid with h | ⟨-, h⟩
  · exact Nat.lt_of_lt_of_le h (by decide)
  · exact h

theorem exists_spelling (c : Char) : ∃ k lead, Spelling c.toNat k lead ∧
    String.utf8EncodeChar c =
      UInt8.ofNat (leading k c.toNat + lead) :: continuation k c.toNat := by
  have hbound := toNat_lt c
  have hval : c.val.toNat = c.toNat := rfl
  unfold String.utf8EncodeChar
  simp only [hval]
  split
  · exact ⟨0, 0, .one (by omega), rfl⟩
  · split
    · refine ⟨1, 0xC0, .two (by omega) (by omega), ?_⟩
      have hlead : c.toNat / 64 % 0x20 = c.toNat / 64 := Nat.mod_eq_of_lt (by omega)
      simp only [continuation, leading, hlead]
    · split
      · refine ⟨2, 0xE0, .three (by omega) (by omega), ?_⟩
        have hlead : c.toNat / 4096 % 0x10 = c.toNat / 64 / 64 := by omega
        simp only [continuation, leading, hlead]
      · refine ⟨3, 0xF0, .four (by omega) hbound, ?_⟩
        have hlead : c.toNat / 262144 % 0x08 = c.toNat / 64 / 64 / 64 := by omega
        have hsecond : c.toNat / 4096 % 0x40 = c.toNat / 64 / 64 % 64 := by omega
        simp only [continuation, leading, hlead, hsecond]

theorem leading_mono {v w : Nat} (h : v ≤ w) (k : Nat) : leading k v ≤ leading k w := by
  induction k with
  | zero => exact h
  | succ k ih => exact Nat.div_le_div_right ih

theorem ofNat_cons_lt {a b : Nat} (h : a < b) (hb : b < 256) (xs ys : List UInt8) :
    UInt8.ofNat a :: xs < UInt8.ofNat b :: ys := by
  refine List.cons_lt_cons_iff.mpr (.inl ?_)
  rw [UInt8.lt_iff_toNat_lt, UInt8.toNat_ofNat_of_lt' (by exact Nat.lt_trans h hb),
    UInt8.toNat_ofNat_of_lt' hb]
  exact h

/-- Among characters with the same leading bits the following bytes decide. -/
theorem continuation_lt {k v w : Nat} (h : v < w) (hlead : leading k v = leading k w)
    (xs ys : List UInt8) : continuation k v ++ xs < continuation k w ++ ys := by
  induction k with
  | zero =>
    rw [leading, leading] at hlead
    omega
  | succ k ih =>
    rw [leading, leading] at hlead
    have hle := leading_mono (Nat.le_of_lt h) k
    rw [continuation, continuation, List.cons_append, List.cons_append]
    rcases Nat.lt_or_eq_of_le hle with hlt | heq
    · exact ofNat_cons_lt (by omega) (by omega) _ _
    · rw [heq]
      exact List.cons_lt_cons_iff.mpr (.inr ⟨rfl, ih heq⟩)

/-- A first byte tells how many follow: the more, the larger it is. -/
theorem Spelling.compare {v w k k' lead lead' : Nat} (h : v < w) (hv : Spelling v k lead)
    (hw : Spelling w k' lead') :
    (k = k' ∧ lead = lead') ∨ leading k v + lead < leading k' w + lead' := by
  cases hv <;> cases hw
  all_goals first
    | exact .inl ⟨rfl, rfl⟩
    | (right
       simp only [leading]
       omega)

theorem Spelling.first_lt {v k lead : Nat} (h : Spelling v k lead) : leading k v + lead < 256 := by
  cases h <;> simp only [leading] <;> omega

theorem spelled_lt {k v w lead : Nat} (h : v < w) (hbound : leading k w + lead < 256)
    (xs ys : List UInt8) :
    UInt8.ofNat (leading k v + lead) :: continuation k v ++ xs <
      UInt8.ofNat (leading k w + lead) :: continuation k w ++ ys := by
  have hle := leading_mono (Nat.le_of_lt h) k
  rw [List.cons_append, List.cons_append]
  rcases Nat.lt_or_eq_of_le hle with hlt | heq
  · exact ofNat_cons_lt (by omega) hbound _ _
  · rw [heq]
    exact List.cons_lt_cons_iff.mpr (.inr ⟨rfl, continuation_lt h heq xs ys⟩)

/-- The smaller character has the smaller bytes, whatever stands behind them. -/
theorem utf8EncodeChar_lt {c d : Char} (h : c < d) (xs ys : List UInt8) :
    String.utf8EncodeChar c ++ xs < String.utf8EncodeChar d ++ ys := by
  have hlt : c.toNat < d.toNat := h
  obtain ⟨k, lead, hspell, hc⟩ := exists_spelling c
  obtain ⟨k', lead', hspell', hd⟩ := exists_spelling d
  rw [hc, hd]
  rcases hspell.compare hlt hspell' with ⟨rfl, rfl⟩ | hfirst
  · exact spelled_lt hlt hspell'.first_lt xs ys
  · exact ofNat_cons_lt hfirst hspell'.first_lt _ _

theorem flatMap_lt {cs ds : List Char} (h : cs < ds) :
    cs.flatMap String.utf8EncodeChar < ds.flatMap String.utf8EncodeChar := by
  induction ds generalizing cs with
  | nil => exact absurd h (List.not_lt_nil cs)
  | cons d ds ih =>
    cases cs with
    | nil =>
      rw [List.flatMap_nil, List.flatMap_cons]
      cases hd : String.utf8EncodeChar d with
      | nil => exact absurd hd String.utf8EncodeChar_ne_nil
      | cons b bs => exact List.nil_lt_cons b _
    | cons c cs =>
      rw [List.flatMap_cons, List.flatMap_cons]
      rcases List.cons_lt_cons_iff.mp h with hlt | ⟨rfl, hlt⟩
      · exact utf8EncodeChar_lt hlt _ _
      · exact List.append_left_lt (ih hlt)

theorem encode_eq (s : String) : encode s = s.toList.flatMap String.utf8EncodeChar := by
  unfold encode
  rw [← String.utf8Encode_toList]
  exact List.toList_data_toByteArray

theorem encode_lt {s t : String} (h : s < t) : encode s < encode t := by
  rw [encode_eq, encode_eq]
  exact flatMap_lt h

/-- The order of texts is that of their bytes. -/
theorem encode_le_iff {s t : String} : encode s ≤ encode t ↔ s ≤ t := by
  refine ⟨fun h hlt => h (encode_lt hlt), fun h hlt => ?_⟩
  rcases Std.lt_trichotomy s t with hst | rfl | hts
  · exact List.lt_asymm hlt (encode_lt hst)
  · exact List.lt_irrefl _ hlt
  · exact h hts

end GuestHost.Text
