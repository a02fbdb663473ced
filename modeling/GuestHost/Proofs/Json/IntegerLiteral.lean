import GuestHost.Proofs.Json.Nesting
import GuestHost.Proofs.Json.NumberText
/-!
Integers in JSON text. An integer literal of any length is read as the integer that it spells if a signed
word holds it, and as no integer otherwise. The digits are gathered in an unsigned word, so the literals fall
into those that fit a signed word, those that fit only the unsigned one, and those that overflow it and are
read as floats.
-/
namespace GuestHost.Json

/-- An integer as JSON writes it. -/
structure IntegerLiteral where
  negative : Bool
  digits : List Char
  whole : Whole digits

namespace IntegerLiteral

variable (l : IntegerLiteral)

def magnitude : Nat := Nat.ofDigitChars 10 l.digits 0

/-- The integer that the literal spells. -/
def value : Int := if l.negative then -l.magnitude else l.magnitude

def text : List Char := if l.negative then '-' :: l.digits else l.digits

/-- The one literal of an integer that stands for a float. -/
def IsNegativeZero : Prop := l.negative = true ∧ l.digits = ['0']

theorem magnitude_eq_zero_iff : l.magnitude = 0 ↔ l.digits = ['0'] := by
  unfold magnitude
  rcases l.whole.eq_zero_or with h | ⟨d, rest, h, hd⟩
  · simp [h, Nat.ofDigitChars]
  · have hdigit : d.isDigit = true := l.whole.digits d (by simp [h])
    have hlow := (Char.isDigit_iff_toNat.mp hdigit).1
    have hne : d.toNat ≠ '0'.toNat := fun heq => hd (Char.toNat_inj.mp heq)
    have hle := le_ofDigitChars rest (d.toNat - '0'.toNat)
    have hzero : '0'.toNat = 48 := rfl
    rw [h, ofDigitChars_head]
    simp only [List.cons.injEq, hd, false_and, iff_false]
    omega

theorem head_text : ∃ c r, l.text = c :: r ∧ (c = '-' ∨ c.isDigit = true) := by
  unfold text
  split
  · exact ⟨_, _, rfl, .inl rfl⟩
  · cases hds : l.digits with
    | nil => exact absurd hds l.whole.ne_nil
    | cons d rest => exact ⟨d, rest, rfl, .inr (l.whole.digits d (by simp [hds]))⟩

theorem readNumber_text (after : List Char) :
    readNumber (l.text ++ after) = readMagnitude l.negative (l.digits ++ after) := by
  unfold text
  cases hsign : l.negative with
  | true => rfl
  | false =>
    have hminus : ∀ rest, l.digits ++ after = '-' :: rest → False := by
      intro rest hrest
      cases hds : l.digits with
      | nil => exact l.whole.ne_nil hds
      | cons d ds =>
        rw [hds, List.cons_append] at hrest
        cases hrest
        have hdigit : '-'.isDigit = true := l.whole.digits '-' (by simp [hds])
        revert hdigit
        decide
    exact readNumber.eq_2 _ hminus

end IntegerLiteral

/-! ## Digits that overflow the word -/

theorem integerDigits_of_dropped {ds after : List Char} (hds : ∀ c ∈ ds, c.isDigit = true)
    (hafter : EndsNumber after) (s k : Nat) :
    integerDigits s (k + 1) (ds ++ after) = (s, k + 1 + ds.length, after) := by
  induction ds generalizing k with
  | nil =>
    cases after with
    | nil => rfl
    | cons c rest => simp [integerDigits, (hafter c rest rfl).1]
  | cons d rest ih =>
    obtain ⟨hd, hrest⟩ := List.forall_mem_cons.mp hds
    simp only [List.cons_append, integerDigits, digitValue?_of_isDigit hd, Nat.add_eq_zero_iff,
      Nat.one_ne_zero, and_false, false_and, if_false]
    rw [ih hrest (k + 1), List.length_cons]
    congr 2
    omega

/-- Once digits have been dropped the number is no integer any more. -/
theorem integerDigits_overflow {ds after : List Char} {n : Nat} (hds : ∀ c ∈ ds, c.isDigit = true)
    (hn : n < significandBound) (hbound : significandBound ≤ Nat.ofDigitChars 10 ds n)
    (hafter : EndsNumber after) : ∃ s k, integerDigits n 0 (ds ++ after) = (s, k + 1, after) := by
  induction ds generalizing n with
  | nil =>
    rw [Nat.ofDigitChars_nil] at hbound
    omega
  | cons d rest ih =>
    obtain ⟨hd, hrest⟩ := List.forall_mem_cons.mp hds
    rw [Nat.ofDigitChars_cons] at hbound
    rw [List.cons_append, integerDigits, digitValue?_of_isDigit hd]
    simp only [true_and]
    split
    · next hfits => exact ih hrest hfits hbound
    · refine ⟨n, rest.length, ?_⟩
      rw [integerDigits_of_dropped hrest hafter n 0, Nat.zero_add, Nat.add_comm]

theorem readTail_of_dropped (negative : Bool) (s k : Nat) {after : List Char} (h : EndsNumber after) :
    readTail negative s (k + 1) after = realNumber negative s ((k + 1 : Nat) : Int) after := by
  cases after with
  | nil => rfl
  | cons c rest =>
    obtain ⟨-, hpoint, he, hE⟩ := h c rest rfl
    unfold readTail
    split
    · next heq => exact absurd (List.cons.inj heq).1 hpoint
    · next heq => exact absurd (List.cons.inj heq).1 he
    · next heq => exact absurd (List.cons.inj heq).1 hE
    · rfl

theorem readMagnitude_overflow (negative : Bool) {ds : List Char} (hds : Whole ds)
    (hbound : significandBound ≤ Nat.ofDigitChars 10 ds 0) {after : List Char} (h : EndsNumber after)
    {n : Number} {r : List Char} (hread : readMagnitude negative (ds ++ after) = .ok (n, r)) :
    ∃ x, n = .real x := by
  rcases hds.eq_zero_or with rfl | ⟨d, rest, rfl, hd⟩
  · have hzero : Nat.ofDigitChars 10 ['0'] 0 < significandBound := by decide
    omega
  · obtain ⟨hdigit, hrest⟩ := List.forall_mem_cons.mp hds.digits
    have hsmall : d.toNat - '0'.toNat < significandBound := by
      have hhigh := (Char.isDigit_iff_toNat.mp hdigit).2
      have hnine : '9'.toNat = 57 := rfl
      have hsize : significandBound = 18446744073709551616 := rfl
      omega
    rw [ofDigitChars_head] at hbound
    obtain ⟨s, k, hgather⟩ := integerDigits_overflow hrest hsmall hbound h
    rw [List.cons_append, readMagnitude, if_neg hd, digitValue?_of_isDigit hdigit] at hread
    simp only [hgather, readTail_of_dropped negative s k h] at hread
    exact (readsReal_realNumber hread).real

/-! ## Literals -/

theorem wholeNumber_eq_integer_iff {negative : Bool} {m : Nat} {n : Int} :
    wholeNumber negative m = .integer n ↔
      n = (if negative then -(m : Int) else m) ∧
        (negative = true → m ≠ 0 ∧ m ≤ 0x8000000000000000) := by
  cases negative with
  | false => simp [wholeNumber, eq_comm]
  | true =>
    by_cases hout : m = 0 ∨ 0x8000000000000000 < m
    · have hnot : ¬(m ≠ 0 ∧ m ≤ 0x8000000000000000) := by omega
      simp [wholeNumber, hout, hnot]
    · have hin : m ≠ 0 ∧ m ≤ 0x8000000000000000 := by omega
      simp only [wholeNumber, if_true, if_neg hout]
      simp [hin, eq_comm]

/-- Apart from negative zero, a literal is read as an integer if it fits a word, signed if it is negative. -/
theorem IntegerLiteral.readNumber_eq_ok_iff {l : IntegerLiteral} (hzero : ¬l.IsNegativeZero)
    {after : List Char} (h : EndsNumber after) {n : Int} {r : List Char} :
    readNumber (l.text ++ after) = .ok (.integer n, r) ↔ n = l.value ∧ FitsWord l.value ∧ r = after := by
  have hpos : l.negative = true → l.magnitude ≠ 0 := by
    intro hsign hmag
    exact hzero ⟨hsign, l.magnitude_eq_zero_iff.mp hmag⟩
  have hsize : significandBound = 18446744073709551616 := rfl
  have hvalue : l.value = if l.negative then -(l.magnitude : Int) else l.magnitude := rfl
  rw [readNumber_text]
  by_cases hbound : l.magnitude < significandBound
  · have hread := readMagnitude_whole l.negative l.whole hbound h
    change readMagnitude _ _ = .ok (wholeNumber _ l.magnitude, _) at hread
    rw [hread, Except.ok.injEq, Prod.mk.injEq, wholeNumber_eq_integer_iff, ← hvalue, and_assoc,
      eq_comm (a := after)]
    refine and_congr_right fun _ => and_congr_left fun _ => ?_
    unfold FitsWord
    cases hsign : l.negative with
    | false =>
      simp only [hsign, Bool.false_eq_true, if_false] at hvalue
      simp only [Bool.false_eq_true, false_implies, true_iff]
      omega
    | true =>
      have hne := hpos hsign
      simp only [hsign, if_true] at hvalue
      simp only [true_implies]
      omega
  · have hout : ¬FitsWord l.value := by
      unfold FitsWord
      cases hsign : l.negative <;> simp only [hsign, if_true, Bool.false_eq_true, if_false] at hvalue <;>
        omega
    constructor
    · intro hread
      obtain ⟨x, hx⟩ := readMagnitude_overflow l.negative l.whole (Nat.le_of_not_lt hbound) h hread
      cases hx
    · rintro ⟨-, hfits, -⟩
      exact absurd hfits hout

/-- A text that is a number, blanks aside. -/
theorem parse_number_iff {before cs : List Char} {c : Char} (hbefore : Blanks before)
    (hc : c = '-' ∨ c.isDigit = true) {v : Value} :
    parse (String.ofList (before ++ c :: cs)) = .ok v ↔
      ∃ n r, readNumber (c :: cs) = .ok (n, r) ∧ Blanks r ∧ Document.valueOfNumber n = v := by
  rw [parse_eq_ok_iff, String.toList_ofList, readDocument_blanks_append _ hbefore,
    Document.readDocument_number _ hc]
  constructor
  · rintro ⟨d, r, hread, hblank, hvalue⟩
    obtain ⟨⟨n, r'⟩, hn, heq⟩ := Except.map_eq_ok_iff.mp hread
    cases heq
    exact ⟨n, r', hn, hblank, hvalue⟩
  · rintro ⟨n, r, hn, hblank, hvalue⟩
    rw [hn]
    exact ⟨.number n, r, rfl, hblank, hvalue⟩

theorem IntegerLiteral.parse_iff {l : IntegerLiteral} (hzero : ¬l.IsNegativeZero)
    {before after : List Char} (hbefore : Blanks before) (hafter : Blanks after) {k : Int64} :
    parse (String.ofList (before ++ l.text ++ after)) = .ok (.integer k) ↔ k.toInt = l.value := by
  obtain ⟨c, r, htext, hc⟩ := l.head_text
  have hread := fun n r => readNumber_eq_ok_iff hzero (endsNumber_of_blanks hafter) (n := n) (r := r)
  rw [htext, List.cons_append] at hread
  rw [htext, List.append_assoc, List.cons_append, parse_number_iff hbefore hc]
  simp only [Document.valueOfNumber_eq_integer_iff]
  constructor
  · rintro ⟨_, r', hn, -, rfl⟩
    exact ((hread _ _).mp hn).1
  · intro hk
    refine ⟨_, after, (hread _ _).mpr ⟨hk, ?_, rfl⟩, hafter, rfl⟩
    exact hk ▸ fitsWord_toInt k

theorem Document.eq_number_of_toValue {d : Document} {k : Int64} (h : d.toValue = .integer k) :
    d = number (.integer k.toInt) := by
  cases d with
  | number n =>
    rw [toValue, valueOfNumber_eq_integer_iff] at h
    rw [h]
  | _ => cases h

/-- The marks of fraction and exponent stand in no text whose value is an integer. -/
theorem notMem_of_parse_integer {text : String} {k : Int64} (h : parse text = .ok (.integer k)) {c : Char}
    (hc : c ∈ ['.', 'e', 'E']) : c ∉ text.toList := by
  obtain ⟨hspace, hspelled⟩ : isSpace c = false ∧ ¬(Number.integer k.toInt).Spelled c := by
    simp only [List.mem_cons, List.not_mem_nil, or_false] at hc
    rcases hc with rfl | rfl | rfl <;> exact ⟨by decide, by simp [Number.Spelled, IsDigit]; decide⟩
  obtain ⟨d, r, hread, hblank, hvalue⟩ := parse_eq_ok_iff.mp h
  obtain rfl := Document.eq_number_of_toValue hvalue
  have hreads := reads_of_readDocument hread
  intro hmem
  have hmem := mem_skipSpace hmem hspace
  generalize skipSpace text.toList = cs at hreads hmem
  cases hreads with
  | number _ hn =>
    rcases readNumber_takes hn c hmem with hr | hc
    · rw [hblank c hr] at hspace
      cases hspace
    · exact hspelled hc

/-- Apart from negative zero, an integer literal is parsed as an integer exactly if a signed word holds what it
spells, and then as that integer; and no text with the mark of a fraction or an exponent is parsed as an
integer. -/
theorem integers_read_exactly :
    (∀ l : IntegerLiteral, ¬l.IsNegativeZero → ∀ before after, Blanks before → Blanks after →
      ∀ k : Int64, parse (String.ofList (before ++ l.text ++ after)) = .ok (.integer k) ↔
        (-0x8000000000000000 ≤ l.value ∧ l.value < 0x8000000000000000) ∧ k.toInt = l.value) ∧
      ∀ (text : String) c, c ∈ ['.', 'e', 'E'] → c ∈ text.toList → ∀ k, parse text ≠ .ok (.integer k) := by
  refine ⟨fun l hzero before after hbefore hafter k => ?_, fun text c hc hmem k h => ?_⟩
  · rw [IntegerLiteral.parse_iff hzero hbefore hafter, iff_and_self]
    intro hk
    have hlow := k.minValue_le_toInt
    have hhigh := k.toInt_le
    have hmin : Int64.minValue.toInt = -9223372036854775808 := rfl
    have hmax : Int64.maxValue.toInt = 9223372036854775807 := rfl
    omega
  · exact notMem_of_parse_integer h hc hmem

theorem whole_extremeDigits : Whole "9223372036854775808".toList :=
  ⟨by decide, List.all_eq_true.mp (by decide), by rintro rest ⟨⟩⟩

/-- The least integer of a signed word; without its sign it is one too large. -/
def extremeLiteral (negative : Bool) : IntegerLiteral :=
  ⟨negative, "9223372036854775808".toList, whole_extremeDigits⟩

theorem extremes_read_exactly :
    parse " -9223372036854775808\n" = .ok (.integer Int64.minValue) ∧
      (∀ k, parse "9223372036854775808" ≠ .ok (.integer k)) ∧ ∀ k, parse "1E0" ≠ .ok (.integer k) := by
  obtain ⟨hliterals, hmarks⟩ := integers_read_exactly
  have hzero : ∀ negative, ¬(extremeLiteral negative).IsNegativeZero := by
    intro negative h
    exact absurd h.2 (show "9223372036854775808".toList ≠ ['0'] by decide)
  refine ⟨?_, fun k hk => ?_, hmarks "1E0" 'E' (by decide) (by decide)⟩
  · exact (hliterals (extremeLiteral true) (hzero true) [' '] ['\n'] (by decide) (by decide)
      Int64.minValue).mpr (by decide)
  · have hrange := (hliterals (extremeLiteral false) (hzero false) [] [] blanks_nil blanks_nil k).mp hk
    have hvalue : (extremeLiteral false).value = 9223372036854775808 := by decide
    rw [hvalue] at hrange
    omega

end GuestHost.Json
