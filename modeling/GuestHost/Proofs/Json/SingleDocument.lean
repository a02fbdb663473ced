import GuestHost.Proofs.Json.Nesting
import GuestHost.Proofs.Json.NumberText
/-!
One document in a text. What a reader takes off a text it also takes off a longer one, unless the text breaks
off in a number, which may go on. So a text that ends with a closed document tells what may follow it:
blanks, and nothing else.
-/
namespace GuestHost.Json

variable {α : Type}

/-- What is read of a text is read of a longer one. -/
def Local (read : Reader α) : Prop :=
  ∀ {cs r a}, read cs = .ok (a, r) → ∀ u, read (cs ++ u) = .ok (a, r ++ u)

/-- What is read of a text and ends within it is read of a longer one. -/
def LocalWithin (read : Reader α) : Prop :=
  ∀ {cs r a}, read cs = .ok (a, r) → r ≠ [] → ∀ u, read (cs ++ u) = .ok (a, r ++ u)

theorem Local.within {read : Reader α} (h : Local read) : LocalWithin read := fun hread _ => h hread

theorem readWord_append {ws cs r : List Char} (h : readWord ws cs = .ok r) (u : List Char) :
    readWord ws (cs ++ u) = .ok (r ++ u) := by
  induction ws generalizing cs with
  | nil =>
    cases h
    rfl
  | cons w ws ih =>
    cases cs with
    | nil => cases h
    | cons c cs =>
      simp only [List.cons_append, readWord] at h ⊢
      split at h
      · next hc =>
        rw [if_pos hc]
        exact ih h
      · cases h

/-! ## Strings -/

theorem exists_of_readHex {cs r : List Char} {n : Nat} (h : readHex cs = .ok (n, r)) :
    ∃ digits, HexDigits n digits ∧ cs = digits ++ r := by
  match cs, h with
  | [], h | [_], h | [_, _], h | [_, _, _], h => cases h
  | a :: b :: c :: d :: rest, h =>
    simp only [readHex] at h
    split at h
    · next w x y z hw hx hy hz =>
      cases h
      exact ⟨[a, b, c, d], ⟨a, b, c, d, w, x, y, z, rfl, hw, hx, hy, hz, rfl⟩, rfl⟩
    · cases h

theorem local_readHex : Local readHex := by
  intro cs r n h u
  obtain ⟨digits, hdigits, rfl⟩ := exists_of_readHex h
  rw [List.append_assoc]
  exact hdigits.read (r ++ u)

theorem local_readLowHalf (high : Nat) : Local (readLowHalf high) := by
  intro cs r c h u
  unfold readLowHalf at h
  split at h
  · cases h
  · cases h
  · next cs =>
    obtain ⟨⟨low, rest⟩, hlow, h⟩ := Except.bind_eq_ok_iff.mp h
    simp only [List.cons_append, readLowHalf, local_readHex hlow u, Except.ok_bind]
    simp only at h
    split at h
    · next hrange =>
      obtain ⟨rfl, rfl⟩ := Prod.mk.inj (Except.pure_eq_ok_iff.mp h)
      rw [if_pos hrange, Except.pure_eq_ok_iff]
    · cases h
  · cases h
  · cases h

theorem local_readEscape : Local readEscape := by
  intro cs r c h u
  cases cs with
  | nil => cases h
  | cons e cs =>
    rw [List.cons_append]
    simp only [readEscape] at h ⊢
    split at h
    case h_9 =>
      obtain ⟨⟨n, rest⟩, hn, h⟩ := Except.bind_eq_ok_iff.mp h
      simp only [local_readHex hn u, Except.ok_bind]
      simp only at h
      split at h
      · cases h
      · next hlow =>
        rw [if_neg hlow]
        split at h
        · next hhigh =>
          rw [if_pos hhigh]
          exact local_readLowHalf n h u
        · next hhigh =>
          rw [if_neg hhigh]
          cases h
          rfl
    case h_10 => cases h
    all_goals
      cases h
      rfl

theorem readChars_append {bound acc cs r s : List Char} (h : readChars bound acc cs = .ok (s, r))
    (more u : List Char) : readChars (bound ++ more) acc (cs ++ u) = .ok (s, r ++ u) := by
  induction bound generalizing acc cs with
  | nil => cases h
  | cons b bound ih =>
    cases cs with
    | nil => cases h
    | cons c rest =>
      simp only [List.cons_append, readChars] at h ⊢
      split at h
      · next hquote =>
        rw [if_pos hquote]
        cases h
        rfl
      · next hquote =>
        rw [if_neg hquote]
        split at h
        · next hslash =>
          rw [if_pos hslash]
          obtain ⟨⟨d, r'⟩, hescape, h⟩ := Except.bind_eq_ok_iff.mp h
          rw [local_readEscape hescape u, Except.ok_bind]
          exact ih h
        · next hslash =>
          rw [if_neg hslash]
          split at h
          · cases h
          · next hcontrol =>
            rw [if_neg hcontrol]
            exact ih h

theorem local_readString : Local readString := by
  intro cs r s h u
  obtain ⟨⟨chars, r'⟩, hchars, h⟩ := Except.bind_eq_ok_iff.mp h
  cases h
  unfold readString
  rw [← List.cons_append, readChars_append hchars u u]
  rfl

/-! ## Lists and objects -/

/-- More text behind the place where the reader goes on. -/
def Next.append (u : List Char) : Next → Next
  | closed rest => closed (rest ++ u)
  | more rest => more (rest ++ u)

theorem nextItem_append {first : Bool} {cs : List Char} {next : Next} (h : nextItem first cs = .ok next)
    (u : List Char) : nextItem first (cs ++ u) = .ok (next.append u) := by
  unfold nextItem at h ⊢
  cases hcs : skipSpace cs with
  | nil =>
    rw [hcs] at h
    cases h
  | cons c r =>
    simp only [hcs, skipSpace_append hcs u] at h ⊢
    split at h
    · next hclose =>
      rw [if_pos hclose]
      cases h
      rfl
    · next hclose =>
      rw [if_neg hclose]
      split at h
      · next hfirst =>
        rw [if_pos hfirst]
        cases h
        rfl
      · next hfirst =>
        rw [if_neg hfirst]
        split at h
        · next hcomma =>
          rw [if_pos hcomma]
          cases hr : skipSpace r with
          | nil =>
            rw [hr] at h
            cases h
          | cons d s =>
            simp only [hr, skipSpace_append hr u] at h ⊢
            split at h
            · cases h
            · next hd =>
              rw [if_neg hd]
              cases h
              rfl
        · cases h

theorem nextKey_append {first : Bool} {cs : List Char} {next : Next} (h : nextKey first cs = .ok next)
    (u : List Char) : nextKey first (cs ++ u) = .ok (next.append u) := by
  unfold nextKey at h ⊢
  cases hcs : skipSpace cs with
  | nil =>
    rw [hcs] at h
    cases h
  | cons c r =>
    simp only [hcs, skipSpace_append hcs u] at h ⊢
    split at h
    · next hclose =>
      rw [if_pos hclose]
      cases h
      rfl
    · next hclose =>
      rw [if_neg hclose]
      split at h
      · next hfirst =>
        rw [if_pos hfirst]
        split at h
        · next hquote =>
          rw [if_pos hquote]
          cases h
          rfl
        · cases h
      · next hfirst =>
        rw [if_neg hfirst]
        split at h
        · next hcomma =>
          rw [if_pos hcomma]
          cases hr : skipSpace r with
          | nil =>
            rw [hr] at h
            cases h
          | cons d s =>
            simp only [hr, skipSpace_append hr u] at h ⊢
            split at h
            · next hquote =>
              rw [if_pos hquote]
              cases h
              rfl
            · split at h <;> cases h
        · cases h

theorem readColon_append {cs r : List Char} (h : readColon cs = .ok r) (u : List Char) :
    readColon (cs ++ u) = .ok (r ++ u) := by
  unfold readColon at h ⊢
  cases hcs : skipSpace cs with
  | nil =>
    rw [hcs] at h
    cases h
  | cons c rest =>
    simp only [hcs, skipSpace_append hcs u] at h ⊢
    split at h
    · next hcolon =>
      rw [if_pos hcolon]
      cases h
      rfl
    · cases h

theorem foldItemsFrom_ne_nil {σ : Type} {item : σ → Reader σ} {bound cs r : List Char} {first : Bool}
    {acc out : σ} (h : foldItemsFrom item bound first acc cs = .ok (out, r)) : cs ≠ [] := by
  rintro rfl
  cases bound <;> cases h

theorem foldMembersFrom_ne_nil {σ : Type} {member : σ → String → Reader σ} {bound cs r : List Char}
    {first : Bool} {acc out : σ} (h : foldMembersFrom member bound first acc cs = .ok (out, r)) :
    cs ≠ [] := by
  rintro rfl
  cases bound <;> cases h

/-- An item is followed by more of its list, so it ends within the text. -/
theorem foldItemsFrom_append {σ : Type} {item : σ → Reader σ} (hitem : ∀ acc, LocalWithin (item acc))
    {bound cs r : List Char} {first : Bool} {acc out : σ}
    (h : foldItemsFrom item bound first acc cs = .ok (out, r)) (more u : List Char) :
    foldItemsFrom item (bound ++ more) first acc (cs ++ u) = .ok (out, r ++ u) := by
  induction bound generalizing first acc cs with
  | nil => cases h
  | cons b bound ih =>
    rw [foldItemsFrom, Except.bind_eq_ok_iff] at h
    obtain ⟨next, hnext, h⟩ := h
    rw [List.cons_append, foldItemsFrom, nextItem_append hnext u, Except.ok_bind]
    cases next with
    | closed rest =>
      cases h
      rfl
    | more rest =>
      obtain ⟨⟨acc', r'⟩, hread, h⟩ := Except.bind_eq_ok_iff.mp h
      simp only [Next.append, hitem acc hread (foldItemsFrom_ne_nil h) u, Except.ok_bind]
      exact ih h

theorem foldMembersFrom_append {σ : Type} {member : σ → String → Reader σ}
    (hmember : ∀ acc key, LocalWithin (member acc key)) {bound cs r : List Char} {first : Bool}
    {acc out : σ} (h : foldMembersFrom member bound first acc cs = .ok (out, r)) (more u : List Char) :
    foldMembersFrom member (bound ++ more) first acc (cs ++ u) = .ok (out, r ++ u) := by
  induction bound generalizing first acc cs with
  | nil => cases h
  | cons b bound ih =>
    rw [foldMembersFrom, Except.bind_eq_ok_iff] at h
    obtain ⟨next, hnext, h⟩ := h
    rw [List.cons_append, foldMembersFrom, nextKey_append hnext u, Except.ok_bind]
    cases next with
    | closed rest =>
      cases h
      rfl
    | more rest =>
      obtain ⟨⟨key, r₁⟩, hkey, h⟩ := Except.bind_eq_ok_iff.mp h
      obtain ⟨⟨acc', r₂⟩, hread, h⟩ := Except.bind_eq_ok_iff.mp h
      simp only [Next.append, local_readString hkey u, Except.ok_bind,
        hmember acc key hread (foldMembersFrom_ne_nil h) u]
      exact ih h

theorem local_foldItems {σ : Type} {item : σ → Reader σ} (hitem : ∀ acc, LocalWithin (item acc))
    (start : σ) : Local (foldItems item start) := by
  intro cs r out h u
  unfold foldItems
  rw [← List.cons_append]
  exact foldItemsFrom_append hitem h u u

theorem local_foldMembers {σ : Type} {member : σ → String → Reader σ}
    (hmember : ∀ acc key, LocalWithin (member acc key)) (start : σ) :
    Local (foldMembers member start) := by
  intro cs r out h u
  unfold foldMembers
  rw [← List.cons_append]
  exact foldMembersFrom_append hmember h u u

/-! ## Documents -/

theorem localWithin_readItem {n : Nat} (h : LocalWithin (readDocument n)) (acc : List Document) :
    LocalWithin (Document.readItem n acc) := by
  intro cs r out hread hr u
  obtain ⟨⟨d, r'⟩, hd, hread⟩ := Except.bind_eq_ok_iff.mp hread
  cases hread
  unfold Document.readItem
  rw [h hd hr u]
  rfl

theorem localWithin_readMember {n : Nat} (h : LocalWithin (readDocument n))
    (acc : List (String × Document)) (key : String) : LocalWithin (Document.readMember n acc key) := by
  intro cs r out hread hr u
  obtain ⟨cs', hcolon, hread⟩ := Except.bind_eq_ok_iff.mp hread
  obtain ⟨⟨d, r'⟩, hd, hread⟩ := Except.bind_eq_ok_iff.mp hread
  cases hread
  unfold Document.readMember
  rw [readColon_append hcolon u, Except.ok_bind, h hd hr u]
  rfl

/-- Of all documents only a number can go on behind the text that it was read from. -/
theorem Reads.append {n : Nat} {cs r : List Char} {d : Document}
    (hwithin : ∀ m < n, LocalWithin (readDocument m)) (h : Reads n cs d r)
    (hend : (∀ k, d ≠ .number k) ∨ r ≠ []) (u : List Char) : Reads n (cs ++ u) d (r ++ u) := by
  cases h with
  | null h => exact .null (readWord_append h u)
  | true h => exact .true (readWord_append h u)
  | false h => exact .false (readWord_append h u)
  | number hc h =>
    have hr := hend.resolve_left fun hne => hne _ rfl
    exact .number hc (readNumber_extends h (absurd · hr))
  | string h => exact .string (local_readString h u)
  | @array m _ _ _ h =>
    have hitem := localWithin_readItem (hwithin m (Nat.lt_succ_self m))
    exact .array (local_foldItems hitem [] h u)
  | @object m _ _ _ h =>
    have hmember := localWithin_readMember (hwithin m (Nat.lt_succ_self m))
    exact .object (local_foldMembers hmember [] h u)

theorem readDocument_append_of_within {n : Nat} {cs r : List Char} {d : Document}
    (hwithin : ∀ m < n, LocalWithin (readDocument m)) (h : readDocument n cs = .ok (d, r))
    (hend : (∀ k, d ≠ .number k) ∨ r ≠ []) (u : List Char) :
    readDocument n (cs ++ u) = .ok (d, r ++ u) := by
  have hreads := (reads_of_readDocument h).append hwithin hend u
  obtain ⟨bs, hbs, heq⟩ := exists_blanks cs
  rw [← heq, List.append_assoc, readDocument_blanks_append n hbs]
  exact readDocument_of_reads hreads

theorem localWithin_readDocument (n : Nat) : LocalWithin (readDocument n) := by
  induction n using Nat.strongRecOn with
  | ind n ih =>
    intro cs r d h hr u
    exact readDocument_append_of_within ih h (.inr hr) u

theorem readDocument_append {n : Nat} {cs r : List Char} {d : Document}
    (h : readDocument n cs = .ok (d, r)) (hd : ∀ k, d ≠ .number k) (u : List Char) :
    readDocument n (cs ++ u) = .ok (d, r ++ u) :=
  readDocument_append_of_within (fun m _ => localWithin_readDocument m) h (.inl hd) u

/-- Blanks aside, the text ends in a closing bracket or quote. -/
def EndsClosed (cs : List Char) : Prop :=
  ∃ before c after, cs = before ++ c :: after ∧ c ∈ [']', '}', '"'] ∧ Blanks after

/-- A text with a closing bracket or quote is no number. -/
theorem ne_number_of_closed {n : Nat} {cs r : List Char} {d : Document}
    (h : readDocument n cs = .ok (d, r)) (hr : Blanks r) (hend : EndsClosed cs) (k : Number) :
    d ≠ .number k := by
  rintro rfl
  obtain ⟨before, c, after, hcs, hc, -⟩ := hend
  have hmem : c ∈ cs := by simp [hcs]
  obtain ⟨hspace, hnumeral⟩ : isSpace c = false ∧ ¬IsNumeral c := by
    simp only [List.mem_cons, List.not_mem_nil, or_false] at hc
    rcases hc with rfl | rfl | rfl <;> exact ⟨by decide, by simp [IsNumeral, IsDigit]; decide⟩
  have hreads := reads_of_readDocument h
  have hmem := mem_skipSpace hmem hspace
  generalize skipSpace cs = start at hreads hmem
  cases hreads with
  | number _ hn =>
    rcases readNumber_takes hn c hmem with hleft | hspelled
    · rw [hr c hleft] at hspace
      cases hspace
    · exact hnumeral (Number.isNumeral_of_spelled hspelled)

/-- Of a text whose value ends with a closing bracket or quote, the value is that of every longer text with
nothing but blanks behind it or in front of it; and with anything else behind it there is no value. -/
theorem closed_document_alone {t : String} {v : Value} (h : parse t = .ok v)
    (hend : EndsClosed t.toList) :
    (∀ u : String, ((∃ w, parse (t ++ u) = .ok w) ↔ Blanks u.toList) ∧
      (Blanks u.toList → parse (t ++ u) = .ok v)) ∧
      ∀ b : String, Blanks b.toList → parse (b ++ t) = .ok v := by
  obtain ⟨d, r, hread, hr, hvalue⟩ := parse_eq_ok_iff.mp h
  have hlonger := readDocument_append hread (ne_number_of_closed hread hr hend)
  have hparse : ∀ (u : String) w, parse (t ++ u) = .ok w ↔ Blanks u.toList ∧ v = w := by
    intro u w
    rw [parse_eq_ok_iff, String.toList_append, hlonger, ← hvalue]
    constructor
    · rintro ⟨d', r', heq, hr', hw⟩
      cases heq
      exact ⟨(blanks_append_iff.mp hr').2, hw⟩
    · rintro ⟨hu, hw⟩
      exact ⟨d, r ++ u.toList, rfl, blanks_append_iff.mpr ⟨hr, hu⟩, hw⟩
  refine ⟨fun u => ⟨⟨?_, fun hu => ⟨v, ?_⟩⟩, fun hu => ?_⟩, fun b hb => ?_⟩
  · rintro ⟨w, hw⟩
    exact ((hparse u w).mp hw).1
  · exact (hparse u v).mpr ⟨hu, rfl⟩
  · exact (hparse u v).mpr ⟨hu, rfl⟩
  · rw [parse_eq_ok_iff, String.toList_append, readDocument_blanks_append _ hb]
    exact ⟨d, r, hread, hr, hvalue⟩

/-- A text with closing marks in its strings. -/
def bracketText : String := "\x7b\"a]\":[null,\"\x7d\\\"\"]\x7d"

/-- What it spells. -/
def bracketDocument : Document := .object [("a]", .array [.null, .string "\x7d\""])]

theorem parse_bracketText : parse bracketText = .ok bracketDocument.toValue := by
  have hitems : ∀ d ∈ [Document.null, .string "\x7d\""], d.Readable 125 := by
    simp only [List.forall_mem_cons]
    exact ⟨.null, .string _, List.forall_mem_nil _⟩
  have hreadable : bracketDocument.Readable nestingLimit := by
    apply Document.Readable.object
    simp only [List.forall_mem_cons]
    exact ⟨.array hitems, List.forall_mem_nil _⟩
  have htext : bracketText = String.ofList bracketDocument.text := by decide
  unfold parse
  rw [htext, parseDocument_text hreadable]
  rfl

theorem brackets_in_text_alone :
    parse (bracketText ++ " \n") = .ok bracketDocument.toValue ∧
      parse ("\t" ++ bracketText) = .ok bracketDocument.toValue ∧
        (∀ w, parse (bracketText ++ "]") ≠ .ok w) ∧ ∀ w, parse (bracketText ++ "\"") ≠ .ok w := by
  have hend : EndsClosed bracketText.toList :=
    ⟨"\x7b\"a]\":[null,\"\x7d\\\"\"]".toList, '}', [], by decide, by decide, blanks_nil⟩
  obtain ⟨hbehind, hfront⟩ := closed_document_alone parse_bracketText hend
  have hother : ∀ u : String, ¬Blanks u.toList → ∀ w, parse (bracketText ++ u) ≠ .ok w :=
    fun u hu w hw => hu ((hbehind u).1.mp ⟨w, hw⟩)
  exact ⟨(hbehind _).2 (by decide), hfront _ (by decide), hother _ (by decide), hother _ (by decide)⟩

end GuestHost.Json
