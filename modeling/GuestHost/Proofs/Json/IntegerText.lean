import GuestHost.Json.Read
/-!
Integers read back as they were written. The digits of a number that fits a machine word are gathered
without dropping any, and what follows them is left unread if it cannot belong to a number.
-/
namespace GuestHost.Json

/-- No number goes on with this text. -/
def EndsNumber (cs : List Char) : Prop :=
  ∀ c r, cs = c :: r → Text.digitValue? c = none ∧ c ≠ '.' ∧ c ≠ 'e' ∧ c ≠ 'E'

theorem endsNumber_nil : EndsNumber [] := nofun

theorem endsNumber_cons {c : Char} {r : List Char}
    (h : Text.digitValue? c = none ∧ c ≠ '.' ∧ c ≠ 'e' ∧ c ≠ 'E') : EndsNumber (c :: r) := by
  rintro _ _ ⟨⟩
  exact h

theorem digitValue?_of_isDigit {c : Char} (h : c.isDigit = true) :
    Text.digitValue? c = some (c.toNat - '0'.toNat) := by
  obtain ⟨hlow, hhigh⟩ := Char.isDigit_iff_toNat.mp h
  exact if_pos ⟨hlow, hhigh⟩

theorem le_ofDigitChars (cs : List Char) (n : Nat) : n ≤ Nat.ofDigitChars 10 cs n := by
  rw [Nat.ofDigitChars_eq_ofDigitChars_zero]
  have hpow : 1 * n ≤ 10 ^ cs.length * n := Nat.mul_le_mul_right n (Nat.pow_pos (by decide))
  omega

/-- Digits whose number fits a machine word are all gathered. -/
theorem integerDigits_append {ds after : List Char} {n : Nat} (hds : ∀ c ∈ ds, c.isDigit = true)
    (hbound : Nat.ofDigitChars 10 ds n < significandBound) (hafter : EndsNumber after) :
    integerDigits n 0 (ds ++ after) = (Nat.ofDigitChars 10 ds n, 0, after) := by
  induction ds generalizing n with
  | nil =>
    rw [Nat.ofDigitChars_nil, List.nil_append]
    cases after with
    | nil => rfl
    | cons c rest =>
      rw [integerDigits, (hafter c rest rfl).1]
  | cons d rest ih =>
    obtain ⟨hd, hrest⟩ := List.forall_mem_cons.mp hds
    rw [Nat.ofDigitChars_cons] at hbound ⊢
    have hfits : 10 * n + (d.toNat - '0'.toNat) < significandBound :=
      Nat.lt_of_le_of_lt (le_ofDigitChars rest _) hbound
    rw [List.cons_append, integerDigits, digitValue?_of_isDigit hd]
    simp only
    rw [if_pos ⟨trivial, hfits⟩]
    exact ih hrest hbound

theorem readTail_of_endsNumber (negative : Bool) (n : Nat) {after : List Char}
    (h : EndsNumber after) :
    readTail negative n 0 after = .ok (wholeNumber negative n, after) := by
  cases after with
  | nil => rfl
  | cons c rest =>
    obtain ⟨-, hpoint, he, hE⟩ := h c rest rfl
    unfold readTail
    split
    · next heq => exact absurd (List.cons.inj heq).1 hpoint
    · next heq => exact absurd (List.cons.inj heq).1 he
    · next heq => exact absurd (List.cons.inj heq).1 hE
    · rfl

theorem startsWithDigit_of_endsNumber {after : List Char} (h : EndsNumber after) :
    startsWithDigit after = false := by
  cases after with
  | nil => rfl
  | cons c rest => rw [startsWithDigit, (h c rest rfl).1, Option.isSome_none]

theorem toDigits_head {n : Nat} (h : 0 < n) :
    ∃ d ds, Nat.toDigits 10 n = d :: ds ∧ d ≠ '0' := by
  induction n using Nat.strongRecOn with
  | ind n ih =>
    by_cases hlt : n < 10
    · refine ⟨n.digitChar, [], Nat.toDigits_of_lt_base hlt, ?_⟩
      rw [ne_eq, Nat.digitChar_eq_zero]
      omega
    · obtain ⟨d, ds, hds, hd⟩ := ih (n / 10) (by omega) (by omega)
      refine ⟨d, ds ++ [Nat.digitChar (n % 10)], ?_, hd⟩
      rw [Nat.toDigits_of_base_le (by decide) (by omega), hds, List.cons_append]

/-- The digits of an integer, without a needless zero in front. -/
structure Whole (ds : List Char) : Prop where
  ne_nil : ds ≠ []
  digits : ∀ c ∈ ds, c.isDigit = true
  leading : ∀ rest, ds = '0' :: rest → rest = []

/-- The first of several digits is no zero. -/
theorem Whole.eq_zero_or {ds : List Char} (h : Whole ds) :
    ds = ['0'] ∨ ∃ d rest, ds = d :: rest ∧ d ≠ '0' := by
  cases ds with
  | nil => exact absurd rfl h.ne_nil
  | cons d rest =>
    by_cases hd : d = '0'
    · subst hd
      rw [h.leading rest rfl]
      exact .inl rfl
    · exact .inr ⟨d, rest, rfl, hd⟩

theorem whole_toDigits (n : Nat) : Whole (Nat.toDigits 10 n) := by
  refine ⟨Nat.toDigits_ne_nil, fun c hc => Nat.isDigit_of_mem_toDigits (by decide) (by decide) hc, ?_⟩
  intro rest hrest
  rcases Nat.eq_zero_or_pos n with rfl | hpos
  · have hzero : Nat.toDigits 10 0 = ['0'] := Nat.toDigits_zero 10
    rw [hzero] at hrest
    cases hrest
    rfl
  · obtain ⟨d, ds, hds, hd⟩ := toDigits_head hpos
    rw [hds] at hrest
    cases hrest
    exact absurd rfl hd

/-- The number that several digits stand for, from the first one on. -/
theorem ofDigitChars_head {d : Char} {ds : List Char} :
    Nat.ofDigitChars 10 (d :: ds) 0 = Nat.ofDigitChars 10 ds (d.toNat - '0'.toNat) := by
  rw [Nat.ofDigitChars_cons, Nat.mul_zero, Nat.zero_add]

/-- Behind its sign, a number that fits a machine word is read from its digits. -/
theorem readMagnitude_whole (negative : Bool) {ds : List Char} (hds : Whole ds)
    (hbound : Nat.ofDigitChars 10 ds 0 < significandBound) {after : List Char} (h : EndsNumber after) :
    readMagnitude negative (ds ++ after) =
      .ok (wholeNumber negative (Nat.ofDigitChars 10 ds 0), after) := by
  rcases hds.eq_zero_or with rfl | ⟨d, rest, rfl, hd⟩
  · rw [List.singleton_append, readMagnitude, if_pos rfl, startsWithDigit_of_endsNumber h,
      if_neg Bool.false_ne_true]
    exact readTail_of_endsNumber negative 0 h
  · obtain ⟨hdigit, hrest⟩ := List.forall_mem_cons.mp hds.digits
    rw [ofDigitChars_head] at hbound ⊢
    have hgather := integerDigits_append hrest hbound h
    rw [List.cons_append, readMagnitude, if_neg hd, digitValue?_of_isDigit hdigit]
    simp only
    rw [hgather]
    exact readTail_of_endsNumber negative _ h

theorem readMagnitude_toDigits (negative : Bool) {n : Nat} (hn : n < significandBound)
    {after : List Char} (h : EndsNumber after) :
    readMagnitude negative (Nat.toDigits 10 n ++ after) = .ok (wholeNumber negative n, after) := by
  have hten : Nat.ofDigitChars 10 (Nat.toDigits 10 n) 0 = n := Nat.ofDigitChars_ten_toDigits
  have hread := readMagnitude_whole negative (whole_toDigits n) (by rwa [hten]) h
  rwa [hten] at hread

/-- What no reader takes for an integer of a machine word is out of these bounds. -/
def FitsWord (n : Int) : Prop := -0x8000000000000000 ≤ n ∧ n < 0x10000000000000000

theorem fitsWord_toInt (n : Int64) : FitsWord n.toInt := by
  have hlow := n.minValue_le_toInt
  have hhigh := n.toInt_le
  have hmin : Int64.minValue.toInt = -9223372036854775808 := rfl
  have hmax : Int64.maxValue.toInt = 9223372036854775807 := rfl
  constructor <;> omega

theorem Document.valueOfNumber_eq_integer_iff {n : Number} {k : Int64} :
    valueOfNumber n = .integer k ↔ n = .integer k.toInt := by
  cases n with
  | real x => simp [valueOfNumber]
  | integer m =>
    have hmin : Int64.minValue.toInt = -9223372036854775808 := rfl
    have hmax : Int64.maxValue.toInt = 9223372036854775807 := rfl
    simp only [valueOfNumber, Number.integer.injEq]
    split
    · next hfits =>
      rw [Value.integer.injEq]
      constructor
      · rintro rfl
        exact (Int64.toInt_ofInt_of_le (by omega) (by omega)).symm
      · rintro rfl
        exact Int64.ofInt_toInt k
    · next hfits =>
      simp only [reduceCtorEq, false_iff]
      rintro rfl
      exact hfits ⟨k.minValue_le_toInt, k.toInt_le⟩

theorem toDigits_ne_minus (n : Nat) (after : List Char) (cs : List Char) :
    Nat.toDigits 10 n ++ after ≠ '-' :: cs := by
  intro h
  cases hds : Nat.toDigits 10 n with
  | nil => exact Nat.toDigits_ne_nil hds
  | cons d ds =>
    rw [hds, List.cons_append] at h
    have hdigit := Nat.isDigit_of_mem_toDigits (by decide) (by decide) (hds ▸ List.mem_cons_self)
    rw [(List.cons.inj h).1] at hdigit
    revert hdigit
    decide

/-- An integer of a machine word is read back from its text. -/
theorem readNumber_integerText {n : Int} (hn : FitsWord n) {after : List Char}
    (h : EndsNumber after) :
    readNumber (integerText n ++ after) = .ok (.integer n, after) := by
  obtain ⟨hlow, hhigh⟩ := hn
  have hbound : n.natAbs < significandBound := by
    unfold significandBound
    have hsize : UInt64.size = 18446744073709551616 := rfl
    omega
  unfold integerText
  split
  · next hneg =>
    have hwhole : wholeNumber true n.natAbs = .integer n := by
      have hin : ¬(n.natAbs = 0 ∨ 0x8000000000000000 < n.natAbs) := by omega
      have habs : -(n.natAbs : Int) = n := by omega
      unfold wholeNumber
      rw [if_pos rfl, if_neg hin, habs]
    rw [List.cons_append, readNumber, readMagnitude_toDigits true hbound h, hwhole]
  · next hpos =>
    have hwhole : wholeNumber false n.natAbs = .integer n := by
      have habs : (n.natAbs : Int) = n := by omega
      unfold wholeNumber
      rw [if_neg Bool.false_ne_true, habs]
    have hsign := toDigits_ne_minus n.natAbs after
    rw [readNumber, readMagnitude_toDigits false hbound h, hwhole]
    exact hsign

end GuestHost.Json
