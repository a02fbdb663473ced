import GuestHost.Proofs.Json.Blanks
import GuestHost.Proofs.Json.NumberText
import GuestHost.Proofs.Json.StringText
/-!
All the texts of a document. Blanks may stand between its parts, and strings may be spelled in any way.
The reader finds every item, every key and every end, so it reads each of these texts back as the document,
if no more containers lie inside one another than it allows.
-/
namespace GuestHost.Json

/-- What stands before an item or a member: blanks, with a comma among them unless it is the first one. -/
def Gap : Bool → List Char → Prop
  | true, cs => Blanks cs
  | false, cs => ∃ before after, Blanks before ∧ Blanks after ∧ cs = before ++ ',' :: after

/-- What stands between a key and its value. -/
def Colon (cs : List Char) : Prop :=
  ∃ before after, Blanks before ∧ Blanks after ∧ cs = before ++ ':' :: after

/-- An integer of a machine word has one text. What else is a number has all those that are read as it. -/
def Number.Renders : Number → List Char → Prop
  | integer n, cs => FitsWord n ∧ cs = integerText n
  | real x, cs => readNumber cs = .ok (real x, [])

namespace Document

mutual

/-- The text is one of the document's, from its first character to its last. -/
def Renders : Document → List Char → Prop
  | null, cs => cs = "null".toList
  | boolean b, cs => cs = booleanText b
  | number n, cs => n.Renders cs
  | string s, cs => Quotes s cs
  | array items, cs => ∃ body, RendersItems true items body ∧ cs = '[' :: (body ++ [']'])
  | object members, cs => ∃ body, RendersMembers true members body ∧ cs = '{' :: (body ++ ['}'])

def RendersItems (first : Bool) : List Document → List Char → Prop
  | [], cs => Blanks cs
  | d :: rest, cs => ∃ gap own more, Gap first gap ∧ Renders d own ∧ RendersItems false rest more ∧
      cs = gap ++ (own ++ more)

def RendersMembers (first : Bool) : List (String × Document) → List Char → Prop
  | [], cs => Blanks cs
  | (k, d) :: rest, cs => ∃ gap key colon own more, Gap first gap ∧ Quotes k key ∧ Colon colon ∧
      Renders d own ∧ RendersMembers false rest more ∧ cs = gap ++ (key ++ (colon ++ (own ++ more)))

end

mutual

/-- How many containers lie inside one another, the document itself included. -/
def nesting : Document → Nat
  | array items => nestingOfItems items + 1
  | object members => nestingOfMembers members + 1
  | _ => 0

def nestingOfItems : List Document → Nat
  | [] => 0
  | d :: rest => max d.nesting (nestingOfItems rest)

def nestingOfMembers : List (String × Document) → Nat
  | [] => 0
  | (_, d) :: rest => max d.nesting (nestingOfMembers rest)

end

theorem nestingOfItems_le_iff {ds : List Document} {n : Nat} :
    nestingOfItems ds ≤ n ↔ ∀ d ∈ ds, d.nesting ≤ n := by
  induction ds with
  | nil => simp [nestingOfItems]
  | cons d rest ih => rw [nestingOfItems, Nat.max_le, ih, List.forall_mem_cons]

theorem nestingOfMembers_le_iff {ms : List (String × Document)} {n : Nat} :
    nestingOfMembers ms ≤ n ↔ ∀ m ∈ ms, m.2.nesting ≤ n := by
  induction ms with
  | nil => simp [nestingOfMembers]
  | cons m rest ih => rw [nestingOfMembers, Nat.max_le, ih, List.forall_mem_cons]

end Document

/-! ### Between the parts of lists and objects -/

/-- A text that starts a value: neither blank nor the end of a list. -/
def StartsValue (cs : List Char) : Prop := ∃ c r, cs = c :: r ∧ isSpace c = false ∧ c ≠ ']'

theorem StartsValue.append {cs : List Char} (h : StartsValue cs) (after : List Char) :
    StartsValue (cs ++ after) := by
  obtain ⟨c, r, rfl, hspace, hclose⟩ := h
  exact ⟨c, r ++ after, rfl, hspace, hclose⟩

section

variable {first : Bool} {gap cs after : List Char}

theorem nextItem_gap (hgap : Gap first gap) (h : StartsValue cs) :
    nextItem first (gap ++ cs) = .ok (.more cs) := by
  obtain ⟨c, r, rfl, hspace, hclose⟩ := h
  unfold nextItem
  cases first with
  | true =>
    rw [skipSpace_blanks_append hgap, skipSpace_cons hspace]
    simp only
    rw [if_neg hclose, if_pos trivial]
  | false =>
    obtain ⟨before, behind, hbefore, hbehind, rfl⟩ := hgap
    have hother : (',' : Char) ≠ ']' := by decide
    rw [List.append_assoc, skipSpace_blanks_append hbefore, List.cons_append, skipSpace_cons (by decide)]
    simp only
    rw [if_neg hother, if_neg Bool.false_ne_true, if_pos trivial, skipSpace_blanks_append hbehind,
      skipSpace_cons hspace]
    simp only
    rw [if_neg hclose]

theorem nextItem_close (first : Bool) (hgap : Blanks gap) (after : List Char) :
    nextItem first (gap ++ ']' :: after) = .ok (.closed after) := by
  unfold nextItem
  rw [skipSpace_blanks_append hgap, skipSpace_cons (by decide)]
  exact if_pos rfl

theorem nextKey_gap (hgap : Gap first gap) (cs : List Char) :
    nextKey first (gap ++ '"' :: cs) = .ok (.more cs) := by
  have hquote : skipSpace ('"' :: cs) = '"' :: cs := skipSpace_cons (by decide) _
  unfold nextKey
  cases first with
  | true =>
    have hclose : ('"' : Char) ≠ '}' := by decide
    rw [skipSpace_blanks_append hgap, hquote]
    simp only
    rw [if_neg hclose, if_pos trivial, if_pos trivial]
  | false =>
    obtain ⟨before, behind, hbefore, hbehind, rfl⟩ := hgap
    have hother : (',' : Char) ≠ '}' := by decide
    rw [List.append_assoc, skipSpace_blanks_append hbefore, List.cons_append, skipSpace_cons (by decide)]
    simp only
    rw [if_neg hother, if_neg Bool.false_ne_true, if_pos trivial, skipSpace_blanks_append hbehind, hquote]
    exact if_pos rfl

theorem nextKey_close (first : Bool) (hgap : Blanks gap) (after : List Char) :
    nextKey first (gap ++ '}' :: after) = .ok (.closed after) := by
  unfold nextKey
  rw [skipSpace_blanks_append hgap, skipSpace_cons (by decide)]
  exact if_pos rfl

end

/-- Blanks behind the colon are left to the reader of the value. -/
theorem readColon_colon {colon : List Char} (h : Colon colon) (cs : List Char) :
    ∃ bs, Blanks bs ∧ readColon (colon ++ cs) = .ok (bs ++ cs) := by
  obtain ⟨before, behind, hbefore, hbehind, rfl⟩ := h
  refine ⟨behind, hbehind, ?_⟩
  unfold readColon
  rw [List.append_assoc, skipSpace_blanks_append hbefore, List.cons_append, skipSpace_cons (by decide)]
  exact if_pos rfl

theorem endsNumber_of_blanks {cs : List Char} (h : Blanks cs) : EndsNumber cs := by
  intro c r hcs
  have hc : isSpace c = true := h c (by simp [hcs])
  simp only [isSpace, Bool.or_eq_true, beq_iff_eq] at hc
  rcases hc with ((rfl | rfl) | rfl) | rfl <;> decide

theorem endsNumber_blanks_append {bs cs : List Char} (h : Blanks bs) (hcs : EndsNumber cs) :
    EndsNumber (bs ++ cs) := by
  cases bs with
  | nil => exact hcs
  | cons b bs => exact endsNumber_cons (endsNumber_of_blanks h b bs rfl)

/-- A comma ends a number. -/
theorem endsNumber_gap_append {gap : List Char} (h : Gap false gap) (cs : List Char) :
    EndsNumber (gap ++ cs) := by
  obtain ⟨before, behind, hbefore, -, rfl⟩ := h
  rw [List.append_assoc]
  exact endsNumber_blanks_append hbefore (endsNumber_cons (by decide))

/-! ### Where a value starts -/

theorem ne_of_isDigit {c x : Char} (h : c.isDigit = true) (hx : x.isDigit = false) : c ≠ x := by
  rintro rfl
  rw [h] at hx
  cases hx

theorem isSpace_of_isDigit {c : Char} (h : c.isDigit = true) : isSpace c = false := by
  unfold isSpace
  simp only [Bool.or_eq_false_iff, beq_eq_false_iff_ne]
  exact ⟨⟨⟨ne_of_isDigit h (by decide), ne_of_isDigit h (by decide)⟩,
    ne_of_isDigit h (by decide)⟩, ne_of_isDigit h (by decide)⟩

theorem isDigit_of_isSome {c : Char} (h : (Text.digitValue? c).isSome = true) : c.isDigit = true := by
  unfold Text.digitValue? at h
  split at h
  · next hrange => exact Char.isDigit_iff_toNat.mpr hrange
  · cases h

/-- What a number starts with: a minus sign or a digit. -/
theorem head_of_readNumber {cs r : List Char} {n : Number} (h : readNumber cs = .ok (n, r)) :
    ∃ c rest, cs = c :: rest ∧ (c = '-' ∨ c.isDigit = true) := by
  unfold readNumber at h
  split at h
  · next rest => exact ⟨'-', rest, rfl, .inl rfl⟩
  · cases cs with
    | nil => cases h
    | cons c rest =>
      refine ⟨c, rest, rfl, .inr ?_⟩
      by_cases hzero : c = '0'
      · rw [hzero]
        decide
      · cases hd : Text.digitValue? c with
        | none => simp [readMagnitude, hzero, hd] at h
        | some d => exact isDigit_of_isSome (by rw [hd]; rfl)

theorem Number.Renders.readNumber {n : Number} {cs after : List Char} (h : n.Renders cs)
    (hafter : EndsNumber after) : Json.readNumber (cs ++ after) = .ok (n, after) := by
  cases n with
  | integer k =>
    obtain ⟨hk, rfl⟩ := h
    exact readNumber_integerText hk hafter
  | real x => exact readNumber_extends h fun _ => hafter

theorem Number.Renders.head {n : Number} {cs : List Char} (h : n.Renders cs) :
    ∃ c rest, cs = c :: rest ∧ (c = '-' ∨ c.isDigit = true) := by
  have hread := h.readNumber endsNumber_nil
  rw [List.append_nil] at hread
  exact head_of_readNumber hread

namespace Document

theorem Renders.startsValue {d : Document} {cs : List Char} (h : d.Renders cs) : StartsValue cs := by
  cases d with
  | null =>
    obtain rfl := h
    exact ⟨'n', _, rfl, by decide, by decide⟩
  | boolean b =>
    obtain rfl := h
    cases b with
    | true => exact ⟨'t', _, rfl, by decide, by decide⟩
    | false => exact ⟨'f', _, rfl, by decide, by decide⟩
  | number n =>
    obtain ⟨c, rest, rfl, hc⟩ := Number.Renders.head h
    rcases hc with rfl | hc
    · exact ⟨_, _, rfl, by decide, by decide⟩
    · exact ⟨_, _, rfl, isSpace_of_isDigit hc, ne_of_isDigit hc (by decide)⟩
  | string s =>
    obtain ⟨body, -, rfl⟩ := h
    exact ⟨'"', _, rfl, by decide, by decide⟩
  | array items =>
    obtain ⟨body, -, rfl⟩ := h
    exact ⟨'[', _, rfl, by decide, by decide⟩
  | object members =>
    obtain ⟨body, -, rfl⟩ := h
    exact ⟨'{', _, rfl, by decide, by decide⟩

theorem RendersItems.endsNumber {ds : List Document} {cs : List Char} (h : RendersItems false ds cs)
    (after : List Char) : EndsNumber (cs ++ ']' :: after) := by
  cases ds with
  | nil => exact endsNumber_blanks_append h (endsNumber_cons (by decide))
  | cons d rest =>
    obtain ⟨gap, own, more, hgap, -, -, rfl⟩ := h
    rw [List.append_assoc]
    exact endsNumber_gap_append hgap _

theorem RendersMembers.endsNumber {ms : List (String × Document)} {cs : List Char}
    (h : RendersMembers false ms cs) (after : List Char) : EndsNumber (cs ++ '}' :: after) := by
  cases ms with
  | nil => exact endsNumber_blanks_append h (endsNumber_cons (by decide))
  | cons m rest =>
    obtain ⟨gap, key, colon, own, more, hgap, -, -, -, -, rfl⟩ := h
    rw [List.append_assoc]
    exact endsNumber_gap_append hgap _

/-- Reads one more item of a list. -/
def readItem (n : Nat) (acc : List Document) : Reader (List Document) := fun cs => do
  let (d, r) ← readDocument n cs
  return (d :: acc, r)

/-- Reads one more member of an object, behind its key. -/
def readMember (n : Nat) (acc : List (String × Document)) (key : String) :
    Reader (List (String × Document)) := fun cs => do
  let cs ← readColon cs
  let (d, r) ← readDocument n cs
  return ((key, d) :: acc, r)

/-! ### Reading from the first character on -/

theorem readDocument_null (n : Nat) (after : List Char) :
    readDocument n ("null".toList ++ after) = .ok (null, after) := by
  unfold readDocument
  rfl

theorem readDocument_boolean (n : Nat) (b : Bool) (after : List Char) :
    readDocument n (booleanText b ++ after) = .ok (boolean b, after) := by
  unfold readDocument
  cases b <;> rfl

theorem readDocument_number (n : Nat) {c : Char} (hc : c = '-' ∨ c.isDigit = true) (cs : List Char) :
    readDocument n (c :: cs) = (readNumber (c :: cs)).map fun p => (number p.1, p.2) := by
  have hspace : isSpace c = false := by
    rcases hc with rfl | hc
    · decide
    · exact isSpace_of_isDigit hc
  have hsign : c = '-' ∨ (Text.digitValue? c).isSome = true := by
    rcases hc with rfl | hc
    · exact .inl rfl
    · exact .inr (by rw [digitValue?_of_isDigit hc]; rfl)
  have hne : ∀ x, x.isDigit = false → x ≠ '-' → c ≠ x := by
    intro x hx hminus
    rcases hc with rfl | hc
    · exact hminus.symm
    · exact ne_of_isDigit hc hx
  unfold readDocument
  rw [skipSpace_cons hspace]
  simp only
  rw [if_neg (hne 'n' (by decide) (by decide)), if_neg (hne 't' (by decide) (by decide)),
    if_neg (hne 'f' (by decide) (by decide)), if_pos hsign]
  cases readNumber (c :: cs) <;> rfl

theorem readDocument_string (n : Nat) (cs : List Char) :
    readDocument n ('"' :: cs) = (readString cs).map fun p => (string p.1, p.2) := by
  unfold readDocument
  rw [skipSpace_cons (by decide)]
  change (readString cs >>= _ : Except Fault _) = _
  cases readString cs <;> rfl

theorem readDocument_list (n : Nat) (cs : List Char) :
    readDocument (n + 1) ('[' :: cs) =
      (foldItems (readItem n) [] cs).map fun p => (array p.1.reverse, p.2) := by
  unfold readDocument
  rw [skipSpace_cons (by decide)]
  change (foldItems (readItem n) [] cs >>= _ : Except Fault _) = _
  cases foldItems (readItem n) [] cs <;> rfl

theorem readDocument_object (n : Nat) (cs : List Char) :
    readDocument (n + 1) ('{' :: cs) =
      (foldMembers (readMember n) [] cs).map fun p => (object p.1.reverse, p.2) := by
  unfold readDocument
  rw [skipSpace_cons (by decide)]
  change (foldMembers (readMember n) [] cs >>= _ : Except Fault _) = _
  cases foldMembers (readMember n) [] cs <;> rfl

/-! ### The whole document -/

/-- Of all its texts the document is read back, whatever follows that does not go on with a number. -/
def ReadsBack (n : Nat) (d : Document) : Prop :=
  ∀ {cs}, d.Renders cs → ∀ {after}, EndsNumber after → readDocument n (cs ++ after) = .ok (d, after)

theorem readsBack_scalar {n : Nat} : ReadsBack n null ∧ (∀ b, ReadsBack n (boolean b)) ∧
    (∀ k, ReadsBack n (number k)) ∧ ∀ s, ReadsBack n (string s) := by
  refine ⟨?_, fun b => ?_, fun k => ?_, fun s => ?_⟩
  · rintro cs rfl after -
    exact readDocument_null n after
  · rintro cs rfl after -
    exact readDocument_boolean n b after
  · intro cs h after hafter
    obtain ⟨c, rest, rfl, hc⟩ := Number.Renders.head h
    have hread := Number.Renders.readNumber h hafter
    rw [List.cons_append] at hread ⊢
    rw [readDocument_number n hc, hread]
    rfl
  · rintro cs ⟨body, hbody, rfl⟩ after -
    have hread := hbody.readString after
    rw [List.cons_append, List.append_assoc, List.singleton_append, readDocument_string, hread]
    rfl

theorem foldItemsFrom_rendered {n : Nat} {ds : List Document} (hreads : ∀ d ∈ ds, ReadsBack n d)
    {first : Bool} {body bound : List Char} (h : RendersItems first ds body)
    (hbound : body.length < bound.length) (acc : List Document) (after : List Char) :
    foldItemsFrom (readItem n) bound first acc (body ++ ']' :: after) = .ok (ds.reverse ++ acc, after) := by
  induction ds generalizing first body bound acc with
  | nil =>
    cases bound with
    | nil => cases hbound
    | cons b bound =>
      rw [foldItemsFrom, nextItem_close first h]
      rfl
  | cons d rest ih =>
    obtain ⟨hd, hrest⟩ := List.forall_mem_cons.mp hreads
    obtain ⟨gap, own, more, hgap, hown, hmore, rfl⟩ := h
    have hstart := hown.startsValue
    cases bound with
    | nil => cases hbound
    | cons b bound =>
      have hlength : more.length < bound.length := by
        obtain ⟨c, r, rfl, -, -⟩ := hstart
        simp only [List.length_append, List.length_cons] at hbound
        omega
      rw [List.append_assoc, List.append_assoc, foldItemsFrom, nextItem_gap hgap (hstart.append _),
        Except.ok_bind]
      simp only [readItem, hd hown (hmore.endsNumber after), Except.ok_bind, pure, Except.pure]
      rw [ih hrest hmore hlength, List.reverse_cons, List.append_assoc, List.singleton_append]

theorem foldMembersFrom_rendered {n : Nat} {ms : List (String × Document)}
    (hreads : ∀ m ∈ ms, ReadsBack n m.2) {first : Bool} {body bound : List Char}
    (h : RendersMembers first ms body) (hbound : body.length < bound.length)
    (acc : List (String × Document)) (after : List Char) :
    foldMembersFrom (readMember n) bound first acc (body ++ '}' :: after) =
      .ok (ms.reverse ++ acc, after) := by
  induction ms generalizing first body bound acc with
  | nil =>
    cases bound with
    | nil => cases hbound
    | cons b bound =>
      rw [foldMembersFrom, nextKey_close first h]
      rfl
  | cons m rest ih =>
    obtain ⟨k, d⟩ := m
    obtain ⟨hd, hrest⟩ := List.forall_mem_cons.mp hreads
    obtain ⟨gap, key, colon, own, more, hgap, ⟨text, htext, rfl⟩, hcolon, hown, hmore, rfl⟩ := h
    cases bound with
    | nil => cases hbound
    | cons b bound =>
      have hlength : more.length < bound.length := by
        simp only [List.length_append, List.length_cons] at hbound
        omega
      obtain ⟨bs, hbs, hvalue⟩ := readColon_colon hcolon (own ++ (more ++ '}' :: after))
      have hread := hd hown (hmore.endsNumber after)
      simp only [List.append_assoc, List.cons_append, List.nil_append]
      rw [foldMembersFrom, nextKey_gap hgap, Except.ok_bind]
      simp only [htext.readString, Except.ok_bind, readMember, hvalue, readDocument_blanks_append n hbs,
        hread, pure, Except.pure]
      rw [ih hrest hmore hlength, List.reverse_cons, List.append_assoc, List.singleton_append]

theorem readsBack_array {n : Nat} {items : List Document} (h : ∀ d ∈ items, ReadsBack n d) :
    ReadsBack (n + 1) (array items) := by
  rintro cs ⟨body, hbody, rfl⟩ after -
  have hbound : body.length < ('[' :: (body ++ ']' :: after)).length := by
    rw [List.length_cons, List.length_append]
    omega
  rw [List.cons_append, List.append_assoc, List.singleton_append, readDocument_list, foldItems,
    foldItemsFrom_rendered h hbody hbound, Except.map, List.append_nil, List.reverse_reverse]

theorem readsBack_object {n : Nat} {members : List (String × Document)}
    (h : ∀ m ∈ members, ReadsBack n m.2) : ReadsBack (n + 1) (object members) := by
  rintro cs ⟨body, hbody, rfl⟩ after -
  have hbound : body.length < ('{' :: (body ++ '}' :: after)).length := by
    rw [List.length_cons, List.length_append]
    omega
  rw [List.cons_append, List.append_assoc, List.singleton_append, readDocument_object, foldMembers,
    foldMembersFrom_rendered h hbody hbound, Except.map, List.append_nil, List.reverse_reverse]

mutual

theorem readsBack : ∀ {d : Document} {n : Nat}, d.nesting ≤ n → ReadsBack n d
  | null, _, _ => readsBack_scalar.1
  | boolean b, _, _ => readsBack_scalar.2.1 b
  | number k, _, _ => readsBack_scalar.2.2.1 k
  | string s, _, _ => readsBack_scalar.2.2.2 s
  | array _, _ + 1, h => readsBack_array (readsBack_each (Nat.le_of_succ_le_succ h))
  | object _, _ + 1, h => readsBack_object (readsBack_members (Nat.le_of_succ_le_succ h))

theorem readsBack_each : ∀ {ds : List Document} {n : Nat}, nestingOfItems ds ≤ n →
    ∀ d ∈ ds, ReadsBack n d
  | [], _, _ => nofun
  | _ :: _, _, h => List.forall_mem_cons.mpr
      ⟨readsBack (Nat.le_trans (Nat.le_max_left ..) h),
        readsBack_each (Nat.le_trans (Nat.le_max_right ..) h)⟩

theorem readsBack_members : ∀ {ms : List (String × Document)} {n : Nat}, nestingOfMembers ms ≤ n →
    ∀ m ∈ ms, ReadsBack n m.2
  | [], _, _ => nofun
  | (_, _) :: _, _, h => List.forall_mem_cons.mpr
      ⟨readsBack (Nat.le_trans (Nat.le_max_left ..) h),
        readsBack_members (Nat.le_trans (Nat.le_max_right ..) h)⟩

end

/-- The whole text is the document, blanks aside. -/
def IsWritten (d : Document) (text : String) : Prop :=
  ∃ before own behind, Blanks before ∧ d.Renders own ∧ Blanks behind ∧
    text.toList = before ++ (own ++ behind)

end Document

/-- Every text of a document within the reader's limit is parsed as that document. -/
theorem parseDocument_of_isWritten {d : Document} {text : String} (h : d.IsWritten text)
    (hd : d.nesting ≤ nestingLimit) : parseDocument text = .ok d := by
  obtain ⟨before, own, behind, hbefore, hown, hbehind, htext⟩ := h
  have hread := Document.readsBack hd hown (endsNumber_of_blanks hbehind)
  unfold parseDocument readWhole
  simp only [htext, readDocument_blanks_append _ hbefore, hread, Except.ok_bind,
    readEnd_eq_ok_iff.mpr hbehind]
  rfl

end GuestHost.Json
