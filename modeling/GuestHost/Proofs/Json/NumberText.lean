import GuestHost.Proofs.Json.IntegerText
import GuestHost.Proofs.Outcome
import Mathlib.Data.List.TakeWhile
/-!
What a number takes off a text. A number ends before a character that cannot go on with it, so more text
behind that character makes no difference, nor does a text that starts with such a one; and all that is
taken are digits, a minus sign, and for a number that is no integer the marks of fraction and exponent.
-/
namespace GuestHost.Json

variable {cs r u : List Char}

/-! ## More text behind a number

Where the number is all of the text, what comes behind has to end it. -/

theorem EndsNumber.ne_cons (h : EndsNumber u) {m : Char} (hm : m ∈ ['.', 'e', 'E']) (rest : List Char) :
    u ≠ m :: rest := by
  intro hu
  obtain ⟨-, hpoint, he, hE⟩ := h m rest hu
  simp only [List.mem_cons, List.not_mem_nil, or_false] at hm
  exact hm.elim hpoint fun hm => hm.elim he hE

theorem integerDigits_extends {s k s' k' : Nat} (h : integerDigits s k cs = (s', k', r))
    (hr : r = [] → EndsNumber u) : integerDigits s k (cs ++ u) = (s', k', r ++ u) := by
  fun_induction integerDigits s k cs with
  | case1 s k =>
    cases h
    cases u with
    | nil => rfl
    | cons c rest => simp [integerDigits, (hr rfl c rest rfl).1]
  | case2 s k c rest hc =>
    cases h
    simp [integerDigits, hc]
  | case3 s k c rest d hc hfits ih =>
    simp only [List.cons_append, integerDigits, hc, hfits]
    exact ih h
  | case4 s k c rest d hc hfits ih =>
    simp only [List.cons_append, integerDigits, hc, hfits, if_false]
    exact ih h

theorem fractionDigits_extends {full : Bool} {s k s' k' : Nat}
    (h : fractionDigits full s k cs = (s', k', r)) (hr : r = [] → EndsNumber u) :
    fractionDigits full s k (cs ++ u) = (s', k', r ++ u) := by
  fun_induction fractionDigits full s k cs with
  | case1 full s k =>
    cases h
    cases u with
    | nil => rfl
    | cons c rest => simp [fractionDigits, (hr rfl c rest rfl).1]
  | case2 full s k c rest hc =>
    cases h
    simp [fractionDigits, hc]
  | case3 full s k c rest d hc hfits ih =>
    simp only [List.cons_append, fractionDigits, hc, hfits]
    exact ih h
  | case4 full s k c rest d hc hfits ih =>
    simp only [List.cons_append, fractionDigits, hc, hfits, if_false]
    exact ih h

/-- Digits of an exponent end before another character, or with the one that makes it too large. -/
theorem exponentDigits_extends {k : Nat} {k' : Option Nat} (h : exponentDigits k cs = (k', r))
    (hr : r = [] → EndsNumber u) : exponentDigits k (cs ++ u) = (k', r ++ u) := by
  fun_induction exponentDigits k cs with
  | case1 k =>
    cases h
    cases u with
    | nil => rfl
    | cons c rest => simp [exponentDigits, (hr rfl c rest rfl).1]
  | case2 k c rest hc =>
    cases h
    simp [exponentDigits, hc]
  | case3 k c rest d hc hfits ih =>
    simp only [List.cons_append, exponentDigits, hc, hfits]
    exact ih h
  | case4 k c rest d hc hfits =>
    cases h
    simp only [List.cons_append, exponentDigits, hc, hfits, if_false]

theorem skipDigits_extends (h : skipDigits cs = [] → EndsNumber u) :
    skipDigits (cs ++ u) = skipDigits cs ++ u := by
  induction cs with
  | nil =>
    cases u with
    | nil => rfl
    | cons c rest => simp [skipDigits, (h rfl c rest rfl).1]
  | cons c rest ih =>
    unfold skipDigits at *
    rw [List.cons_append, List.dropWhile_cons, List.dropWhile_cons] at *
    split
    · next hc =>
      rw [if_pos hc] at h
      exact ih h
    · rfl

theorem realNumber_extends {negative : Bool} {s : Nat} {e : Int} {n : Number}
    (h : realNumber negative s e cs = .ok (n, r)) (u : List Char) :
    realNumber negative s e (cs ++ u) = .ok (n, r ++ u) := by
  unfold realNumber at *
  split at h
  · cases h
    rfl
  · cases h

theorem rest_of_realNumber {negative : Bool} {s : Nat} {e : Int} {n : Number}
    (h : realNumber negative s e cs = .ok (n, r)) : r = cs := by
  unfold realNumber at h
  split at h <;> cases h
  rfl

/-- Whether an exponent is negative, and what follows its sign. -/
def exponentSign : List Char → Bool × List Char
  | '+' :: r => (false, r)
  | '-' :: r => (true, r)
  | r => (false, r)

/-- An exponent behind its sign. -/
def readExponentDigits (negative : Bool) (s : Nat) (e : Int) (down : Bool) : Reader Number
  | [] => .error (.before .endInValue [])
  | c :: rest =>
    match Text.digitValue? c with
    | none => .error (.on .badNumber (c :: rest))
    | some d =>
      match exponentDigits d rest with
      | (some k, r) => realNumber negative s (if down then e - k else e + k) r
      | (none, r) =>
        if s ≠ 0 ∧ !down then .error (.before .numberTooLarge r)
        else .ok (.real (signed negative 0), skipDigits r)

theorem readExponent_eq (negative : Bool) (s : Nat) (e : Int) (cs : List Char) :
    readExponent negative s e cs =
      readExponentDigits negative s e (exponentSign cs).1 (exponentSign cs).2 := rfl

/-- A text that does not start with a character does not do so with more text behind it. -/
theorem not_cons_append {m : Char} (h : ∀ rest, cs = m :: rest → False)
    (hu : cs = [] → ∀ rest, u ≠ m :: rest) : ∀ rest, cs ++ u = m :: rest → False := by
  intro rest heq
  cases cs with
  | nil => exact hu rfl rest heq
  | cons c tail =>
    rw [List.cons_append] at heq
    cases heq
    exact h tail rfl

theorem exponentSign_extends {down : Bool} (h : exponentSign cs = (down, r)) (hr : r ≠ [])
    (u : List Char) : exponentSign (cs ++ u) = (down, r ++ u) := by
  unfold exponentSign at h ⊢
  split at h
  · cases h
    rfl
  · cases h
    rfl
  · next hplus hminus =>
    cases h
    split
    · next heq => exact (not_cons_append hplus (absurd · hr) _ heq).elim
    · next heq => exact (not_cons_append hminus (absurd · hr) _ heq).elim
    · rfl

theorem readExponentDigits_extends {negative down : Bool} {s : Nat} {e : Int} {n : Number}
    (h : readExponentDigits negative s e down cs = .ok (n, r)) (hr : r = [] → EndsNumber u) :
    readExponentDigits negative s e down (cs ++ u) = .ok (n, r ++ u) := by
  cases cs with
  | nil => cases h
  | cons c rest =>
    simp only [List.cons_append, readExponentDigits] at h ⊢
    cases hd : Text.digitValue? c with
    | none =>
      rw [hd] at h
      cases h
    | some d =>
      simp only [hd] at h ⊢
      rcases hk : exponentDigits d rest with ⟨_ | k, r'⟩
      · simp only [hk] at h
        split at h
        · cases h
        · next hs =>
          cases h
          have hr' : r' = [] → EndsNumber u := by
            rintro rfl
            exact hr rfl
          simp only [exponentDigits_extends hk hr']
          rw [if_neg hs, skipDigits_extends hr]
      · simp only [hk] at h
        obtain rfl := rest_of_realNumber h
        simp only [exponentDigits_extends hk hr, realNumber_extends h]

theorem readExponent_extends {negative : Bool} {s : Nat} {e : Int} {n : Number}
    (h : readExponent negative s e cs = .ok (n, r)) (hr : r = [] → EndsNumber u) :
    readExponent negative s e (cs ++ u) = .ok (n, r ++ u) := by
  rw [readExponent_eq] at h ⊢
  rcases hsign : exponentSign cs with ⟨down, digits⟩
  rw [hsign] at h
  have hdigits : digits ≠ [] := by
    rintro rfl
    cases h
  rw [exponentSign_extends hsign hdigits]
  exact readExponentDigits_extends h hr

theorem startsWithDigit_append (h : cs = [] → EndsNumber u) :
    startsWithDigit (cs ++ u) = startsWithDigit cs := by
  cases cs with
  | nil => exact startsWithDigit_of_endsNumber (h rfl)
  | cons c rest => rfl

theorem readFraction_extends {negative : Bool} {s : Nat} {e : Int} {n : Number}
    (h : readFraction negative s e cs = .ok (n, r)) (hr : r = [] → EndsNumber u) :
    readFraction negative s e (cs ++ u) = .ok (n, r ++ u) := by
  unfold readFraction at h ⊢
  split at h
  · next hstarts =>
    have hne : cs ≠ [] := by
      rintro rfl
      cases hstarts
    rw [startsWithDigit_append (absurd · hne), if_pos hstarts]
    rcases hs : fractionDigits false s 0 cs with ⟨s', used, rest⟩
    simp only [hs] at h
    have hrest : rest = [] → EndsNumber u := by
      rintro rfl
      exact hr (rest_of_realNumber h)
    simp only [fractionDigits_extends hs hrest]
    split at h
    · exact readExponent_extends h hr
    · exact readExponent_extends h hr
    · next he hE =>
      split
      · next heq =>
        exact (not_cons_append he (fun hnil => (hrest hnil).ne_cons (by decide)) _ heq).elim
      · next heq =>
        exact (not_cons_append hE (fun hnil => (hrest hnil).ne_cons (by decide)) _ heq).elim
      · exact realNumber_extends h u
  · split at h <;> cases h

theorem rest_of_readTail_nil {negative : Bool} {s k : Nat} {n : Number}
    (h : readTail negative s k [] = .ok (n, r)) : r = [] := by
  simp only [readTail] at h
  split at h
  · cases h
    rfl
  · exact rest_of_realNumber h

theorem readTail_extends {negative : Bool} {s k : Nat} {n : Number}
    (h : readTail negative s k cs = .ok (n, r)) (hr : r = [] → EndsNumber u) :
    readTail negative s k (cs ++ u) = .ok (n, r ++ u) := by
  unfold readTail at h ⊢
  split at h
  · exact readFraction_extends h hr
  · exact readExponent_extends h hr
  · exact readExponent_extends h hr
  · next hpoint he hE =>
    have hrest : (if k = 0 then .ok (wholeNumber negative s, cs ++ u)
        else realNumber negative s k (cs ++ u)) = .ok (n, r ++ u) ∧ (cs = [] → EndsNumber u) := by
      split at h
      · next hk =>
        cases h
        exact ⟨if_pos hk, hr⟩
      · next hk =>
        obtain rfl := rest_of_realNumber h
        exact ⟨(if_neg hk).trans (realNumber_extends h u), hr⟩
    obtain ⟨hread, hends⟩ := hrest
    split
    · next heq =>
      exact (not_cons_append hpoint (fun hnil => (hends hnil).ne_cons (by decide)) _ heq).elim
    · next heq =>
      exact (not_cons_append he (fun hnil => (hends hnil).ne_cons (by decide)) _ heq).elim
    · next heq =>
      exact (not_cons_append hE (fun hnil => (hends hnil).ne_cons (by decide)) _ heq).elim
    · exact hread

theorem readMagnitude_extends {negative : Bool} {n : Number}
    (h : readMagnitude negative cs = .ok (n, r)) (hr : r = [] → EndsNumber u) :
    readMagnitude negative (cs ++ u) = .ok (n, r ++ u) := by
  cases cs with
  | nil => cases h
  | cons c rest =>
    simp only [List.cons_append, readMagnitude] at h ⊢
    split
    · next hzero =>
      rw [if_pos hzero] at h
      split at h
      · cases h
      · next hdigit =>
        have hrest : rest = [] → EndsNumber u := by
          rintro rfl
          exact hr (rest_of_readTail_nil h)
        rw [startsWithDigit_append hrest, if_neg hdigit]
        exact readTail_extends h hr
    · next hzero =>
      rw [if_neg hzero] at h
      cases hd : Text.digitValue? c with
      | none =>
        rw [hd] at h
        cases h
      | some d =>
        simp only [hd] at h ⊢
        rcases hs : integerDigits d 0 rest with ⟨s, k, tail⟩
        simp only [hs] at h
        have htail : tail = [] → EndsNumber u := by
          rintro rfl
          exact hr (rest_of_readTail_nil h)
        simp only [integerDigits_extends hs htail]
        exact readTail_extends h hr

theorem readNumber_extends {n : Number} (h : readNumber cs = .ok (n, r)) (hr : r = [] → EndsNumber u) :
    readNumber (cs ++ u) = .ok (n, r ++ u) := by
  unfold readNumber at h ⊢
  split at h
  · exact readMagnitude_extends h hr
  · next hminus =>
    have hne : cs ≠ [] := by
      rintro rfl
      cases h
    split
    · next heq => exact (not_cons_append hminus (absurd · hne) _ heq).elim
    · exact readMagnitude_extends h hr

/-! ## The characters of a number -/

/-- Every character of the first text is left over in the second one, or is of a kind. -/
def Takes (P : Char → Prop) (cs r : List Char) : Prop := ∀ c ∈ cs, c ∈ r ∨ P c

namespace Takes

variable {P Q : Char → Prop} {rest : List Char} {c : Char}

theorem refl (cs : List Char) : Takes P cs cs := fun _ => Or.inl

theorem trans (h : Takes P cs rest) (h' : Takes P rest r) : Takes P cs r := by
  intro c hc
  rcases h c hc with hc | hc
  · exact h' c hc
  · exact .inr hc

theorem cons (hc : P c) (h : Takes P rest r) : Takes P (c :: rest) r :=
  List.forall_mem_cons.mpr ⟨.inr hc, h⟩

theorem imp (hPQ : ∀ c, P c → Q c) (h : Takes P cs r) : Takes Q cs r :=
  fun c hc => (h c hc).imp_right (hPQ c)

end Takes

def IsDigit (c : Char) : Prop := (Text.digitValue? c).isSome

/-- The characters that numbers are written with. -/
def IsNumeral (c : Char) : Prop := IsDigit c ∨ c ∈ ['-', '+', '.', 'e', 'E']

/-- The characters that a number of this kind is written with. -/
def Number.Spelled : Number → Char → Prop
  | .integer _, c => IsDigit c ∨ c = '-'
  | .real _, c => IsNumeral c

theorem isDigit_of_eq_some {c : Char} {d : Nat} (h : Text.digitValue? c = some d) : IsDigit c := by
  simp [IsDigit, h]

theorem Number.spelled_of_isDigit (n : Number) {c : Char} (h : IsDigit c) : n.Spelled c := by
  cases n <;> exact .inl h

theorem Number.isNumeral_of_spelled {n : Number} {c : Char} (h : n.Spelled c) : IsNumeral c := by
  cases n with
  | integer k => exact h.imp_right fun hc => by simp [hc]
  | real x => exact h

theorem integerDigits_takes {s k s' k' : Nat} (h : integerDigits s k cs = (s', k', r)) :
    Takes IsDigit cs r := by
  fun_induction integerDigits s k cs with
  | case1 s k =>
    cases h
    exact .refl []
  | case2 s k c rest hc =>
    cases h
    exact .refl _
  | case3 s k c rest d hc hfits ih => exact .cons (isDigit_of_eq_some hc) (ih h)
  | case4 s k c rest d hc hfits ih => exact .cons (isDigit_of_eq_some hc) (ih h)

theorem fractionDigits_takes {full : Bool} {s k s' k' : Nat}
    (h : fractionDigits full s k cs = (s', k', r)) : Takes IsDigit cs r := by
  fun_induction fractionDigits full s k cs with
  | case1 full s k =>
    cases h
    exact .refl []
  | case2 full s k c rest hc =>
    cases h
    exact .refl _
  | case3 full s k c rest d hc hfits ih => exact .cons (isDigit_of_eq_some hc) (ih h)
  | case4 full s k c rest d hc hfits ih => exact .cons (isDigit_of_eq_some hc) (ih h)

theorem exponentDigits_takes {k : Nat} {k' : Option Nat} (h : exponentDigits k cs = (k', r)) :
    Takes IsDigit cs r := by
  fun_induction exponentDigits k cs with
  | case1 k =>
    cases h
    exact .refl []
  | case2 k c rest hc =>
    cases h
    exact .refl _
  | case3 k c rest d hc hfits ih => exact .cons (isDigit_of_eq_some hc) (ih h)
  | case4 k c rest d hc hfits =>
    cases h
    exact .cons (isDigit_of_eq_some hc) (.refl _)

theorem skipDigits_takes (cs : List Char) : Takes IsDigit cs (skipDigits cs) := by
  intro c hc
  rw [← List.takeWhile_append_dropWhile (p := fun c => (Text.digitValue? c).isSome) (l := cs),
    List.mem_append] at hc
  rcases hc with hc | hc
  · have hdigit := List.mem_takeWhile_imp hc
    exact .inr hdigit
  · exact .inl hc

/-- What has a fraction or an exponent, or is too large, is no integer; and so it is spelled. -/
structure ReadsReal (cs : List Char) (n : Number) (r : List Char) : Prop where
  real : ∃ x, n = .real x
  takes : Takes IsNumeral cs r

theorem ReadsReal.cons {c : Char} {rest : List Char} {n : Number} (hc : c ∈ ['-', '+', '.', 'e', 'E'])
    (h : ReadsReal rest n r) : ReadsReal (c :: rest) n r :=
  ⟨h.real, h.takes.cons (.inr hc)⟩

theorem ReadsReal.behind {rest : List Char} {n : Number} (h : Takes IsDigit cs rest)
    (h' : ReadsReal rest n r) : ReadsReal cs n r :=
  ⟨h'.real, (h.imp fun _ => Or.inl).trans h'.takes⟩

theorem readsReal_realNumber {negative : Bool} {s : Nat} {e : Int} {n : Number}
    (h : realNumber negative s e cs = .ok (n, r)) : ReadsReal cs n r := by
  unfold realNumber at h
  split at h <;> cases h
  exact ⟨⟨_, rfl⟩, .refl _⟩

theorem readsReal_readExponentDigits {negative down : Bool} {s : Nat} {e : Int} {n : Number}
    (h : readExponentDigits negative s e down cs = .ok (n, r)) : ReadsReal cs n r := by
  cases cs with
  | nil => cases h
  | cons c rest =>
    simp only [readExponentDigits] at h
    cases hd : Text.digitValue? c with
    | none =>
      rw [hd] at h
      cases h
    | some d =>
      have hc : IsDigit c := isDigit_of_eq_some hd
      simp only [hd] at h
      rcases hk : exponentDigits d rest with ⟨_ | k, r'⟩
      · simp only [hk] at h
        split at h
        · cases h
        · cases h
          refine .behind ((exponentDigits_takes hk).cons hc) ⟨⟨_, rfl⟩, ?_⟩
          exact (skipDigits_takes r').imp fun _ => Or.inl
      · simp only [hk] at h
        exact .behind ((exponentDigits_takes hk).cons hc) (readsReal_realNumber h)

theorem readsReal_readExponent {negative : Bool} {s : Nat} {e : Int} {n : Number}
    (h : readExponent negative s e cs = .ok (n, r)) : ReadsReal cs n r := by
  rw [readExponent_eq] at h
  unfold exponentSign at h
  split at h
  · exact .cons (by decide) (readsReal_readExponentDigits h)
  · exact .cons (by decide) (readsReal_readExponentDigits h)
  · exact readsReal_readExponentDigits h

theorem readsReal_readFraction {negative : Bool} {s : Nat} {e : Int} {n : Number}
    (h : readFraction negative s e cs = .ok (n, r)) : ReadsReal cs n r := by
  unfold readFraction at h
  split at h
  · rcases hs : fractionDigits false s 0 cs with ⟨s', used, rest⟩
    simp only [hs] at h
    refine .behind (fractionDigits_takes hs) ?_
    split at h
    · exact .cons (by decide) (readsReal_readExponent h)
    · exact .cons (by decide) (readsReal_readExponent h)
    · exact readsReal_realNumber h
  · split at h <;> cases h

theorem ReadsReal.spelled {n : Number} (h : ReadsReal cs n r) : Takes n.Spelled cs r := by
  obtain ⟨x, rfl⟩ := h.real
  exact h.takes

theorem readTail_takes {negative : Bool} {s k : Nat} {n : Number}
    (h : readTail negative s k cs = .ok (n, r)) : Takes n.Spelled cs r := by
  unfold readTail at h
  split at h
  · exact (ReadsReal.cons (by decide) (readsReal_readFraction h)).spelled
  · exact (ReadsReal.cons (by decide) (readsReal_readExponent h)).spelled
  · exact (ReadsReal.cons (by decide) (readsReal_readExponent h)).spelled
  · split at h
    · cases h
      exact .refl _
    · exact (readsReal_realNumber h).spelled

theorem readMagnitude_takes {negative : Bool} {n : Number}
    (h : readMagnitude negative cs = .ok (n, r)) : Takes n.Spelled cs r := by
  cases cs with
  | nil => cases h
  | cons c rest =>
    simp only [readMagnitude] at h
    split at h
    · next hzero =>
      split at h
      · cases h
      · exact .cons (n.spelled_of_isDigit (hzero ▸ rfl)) (readTail_takes h)
    · cases hd : Text.digitValue? c with
      | none =>
        rw [hd] at h
        cases h
      | some d =>
        simp only [hd] at h
        have hdigits : Takes IsDigit (c :: rest) (integerDigits d 0 rest).2.2 :=
          (integerDigits_takes rfl).cons (isDigit_of_eq_some hd)
        exact (hdigits.imp fun _ => n.spelled_of_isDigit).trans (readTail_takes h)

/-- What is taken of a text for a number is what such a number is written with. -/
theorem readNumber_takes {n : Number} (h : readNumber cs = .ok (n, r)) : Takes n.Spelled cs r := by
  unfold readNumber at h
  split at h
  · refine .cons ?_ (readMagnitude_takes h)
    cases n with
    | integer k => exact .inr rfl
    | real x => exact .inr (by decide)
  · exact readMagnitude_takes h

end GuestHost.Json
