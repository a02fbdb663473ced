import GuestHost.Proofs.Json.DocumentText
import GuestHost.Proofs.Json.Normal
/-!
What the reader takes in. A property of what has been read so far that every item keeps is one of the whole
list; so no document that is read nests more containers than the reader allows.
-/
namespace GuestHost.Json

/-- What every item keeps holds of the whole list. -/
theorem foldItemsFrom_keeps {σ : Type} {item : σ → Reader σ} {P : σ → Prop}
    (hitem : ∀ acc cs next r, P acc → item acc cs = .ok (next, r) → P next)
    {bound cs r : List Char} {first : Bool} {acc out : σ} (hacc : P acc)
    (h : foldItemsFrom item bound first acc cs = .ok (out, r)) : P out := by
  induction bound generalizing first acc cs with
  | nil => cases h
  | cons b bound ih =>
    rw [foldItemsFrom, Except.bind_eq_ok_iff] at h
    obtain ⟨next, -, h⟩ := h
    cases next with
    | closed rest =>
      cases h
      exact hacc
    | more rest =>
      rw [Except.bind_eq_ok_iff] at h
      obtain ⟨⟨acc', r'⟩, hread, h⟩ := h
      exact ih (hitem acc rest acc' r' hacc hread) h

/-- What every member keeps holds of the whole object. -/
theorem foldMembersFrom_keeps {σ : Type} {member : σ → String → Reader σ} {P : σ → Prop}
    (hmember : ∀ acc key cs next r, P acc → member acc key cs = .ok (next, r) → P next)
    {bound cs r : List Char} {first : Bool} {acc out : σ} (hacc : P acc)
    (h : foldMembersFrom member bound first acc cs = .ok (out, r)) : P out := by
  induction bound generalizing first acc cs with
  | nil => cases h
  | cons b bound ih =>
    rw [foldMembersFrom, Except.bind_eq_ok_iff] at h
    obtain ⟨next, -, h⟩ := h
    cases next with
    | closed rest =>
      cases h
      exact hacc
    | more rest =>
      rw [Except.bind_eq_ok_iff] at h
      obtain ⟨⟨key, r₁⟩, -, h⟩ := h
      rw [Except.bind_eq_ok_iff] at h
      obtain ⟨⟨acc', r₂⟩, hread, h⟩ := h
      exact ih (hmember acc key r₁ acc' r₂ hacc hread) h

namespace Document

/-- Lists and objects. -/
def isContainer : Document → Bool
  | array _ => true
  | object _ => true
  | _ => false

theorem depth_toValue_scalar {d : Document} (h : d.isContainer = false) : d.toValue.depth = 0 := by
  cases d with
  | number k =>
    cases k with
    | integer k =>
      simp only [toValue, valueOfNumber]
      split <;> rfl
    | real x => rfl
  | array items => cases h
  | object members => cases h
  | _ => rfl

theorem depth_toValue_array {n : Nat} {items : List Document}
    (h : ∀ d ∈ items, d.toValue.depth ≤ n) : (array items).toValue.depth ≤ n + 1 := by
  have hvalues : ∀ v ∈ toValues items, v.depth ≤ n := by
    induction items with
    | nil => exact fun v hv => absurd hv List.not_mem_nil
    | cons d rest ih =>
      obtain ⟨hd, hrest⟩ := List.forall_mem_cons.mp h
      exact List.forall_mem_cons.mpr ⟨hd, ih hrest⟩
  exact Nat.succ_le_succ (Value.depthOfItems_le_iff.mpr hvalues)

theorem depth_toValue_object {n : Nat} {members : List (String × Document)}
    (h : ∀ m ∈ members, m.2.toValue.depth ≤ n) : (object members).toValue.depth ≤ n + 1 := by
  have hpairs : ∀ m ∈ toMembers members, m.2.depth ≤ n := by
    induction members with
    | nil => exact fun m hm => absurd hm List.not_mem_nil
    | cons m rest ih =>
      obtain ⟨hm, hrest⟩ := List.forall_mem_cons.mp h
      exact List.forall_mem_cons.mpr ⟨hm, ih hrest⟩
  refine Nat.succ_le_succ (Value.depthOfMembers_le_iff.mpr fun m hm => ?_)
  exact hpairs m (Members.mem_of_mem_ofPairs ((Members.sorted_perm _).mem_iff.mp hm))

end Document

/-- How a document is read, from its first character on. -/
inductive Reads : Nat → List Char → Document → List Char → Prop where
  | null {n : Nat} {cs r : List Char} (h : readWord ['u', 'l', 'l'] cs = .ok r) :
    Reads n ('n' :: cs) .null r
  | true {n : Nat} {cs r : List Char} (h : readWord ['r', 'u', 'e'] cs = .ok r) :
    Reads n ('t' :: cs) (.boolean Bool.true) r
  | false {n : Nat} {cs r : List Char} (h : readWord ['a', 'l', 's', 'e'] cs = .ok r) :
    Reads n ('f' :: cs) (.boolean Bool.false) r
  | number {n : Nat} {c : Char} {cs r : List Char} {k : Number} (hc : c = '-' ∨ c.isDigit = Bool.true)
    (h : readNumber (c :: cs) = .ok (k, r)) : Reads n (c :: cs) (.number k) r
  | string {n : Nat} {cs r : List Char} {s : String} (h : readString cs = .ok (s, r)) :
    Reads n ('"' :: cs) (.string s) r
  | array {n : Nat} {cs r : List Char} {items : List Document}
    (h : foldItems (Document.readItem n) [] cs = .ok (items, r)) :
    Reads (n + 1) ('[' :: cs) (.array items.reverse) r
  | object {n : Nat} {cs r : List Char} {members : List (String × Document)}
    (h : foldMembers (Document.readMember n) [] cs = .ok (members, r)) :
    Reads (n + 1) ('{' :: cs) (.object members.reverse) r

theorem reads_of_readDocument {n : Nat} {cs r : List Char} {d : Document}
    (h : readDocument n cs = .ok (d, r)) : Reads n (skipSpace cs) d r := by
  unfold readDocument at h
  split at h
  · cases h
  · next c rest hcs =>
    rw [hcs]
    split at h
    · next hc =>
      obtain ⟨r', hword, h⟩ := Except.bind_eq_ok_iff.mp h
      cases h
      exact hc ▸ .null hword
    split at h
    · next hc =>
      obtain ⟨r', hword, h⟩ := Except.bind_eq_ok_iff.mp h
      cases h
      exact hc ▸ .true hword
    split at h
    · next hc =>
      obtain ⟨r', hword, h⟩ := Except.bind_eq_ok_iff.mp h
      cases h
      exact hc ▸ .false hword
    split at h
    · next hc =>
      obtain ⟨⟨k, r'⟩, hnumber, h⟩ := Except.bind_eq_ok_iff.mp h
      cases h
      exact .number (hc.imp_right isDigit_of_isSome) hnumber
    split at h
    · next hc =>
      obtain ⟨⟨s, r'⟩, hstring, h⟩ := Except.bind_eq_ok_iff.mp h
      cases h
      exact hc ▸ .string hstring
    split at h
    · next hopen =>
      cases n with
      | zero => cases h
      | succ m =>
        simp only at h
        split at h
        · next hlist =>
          obtain ⟨⟨items, r'⟩, hfold, h⟩ := Except.bind_eq_ok_iff.mp h
          cases h
          exact hlist ▸ .array hfold
        · next hlist =>
          obtain ⟨⟨members, r'⟩, hfold, h⟩ := Except.bind_eq_ok_iff.mp h
          cases h
          exact hopen.resolve_left hlist ▸ .object hfold
    · cases h

theorem readDocument_of_reads {n : Nat} {cs r : List Char} {d : Document} (h : Reads n cs d r) :
    readDocument n cs = .ok (d, r) := by
  cases h with
  | null h | true h | false h =>
    unfold readDocument
    rw [skipSpace_cons (by decide)]
    simp [h]
  | number hc h =>
    rw [Document.readDocument_number _ hc, h]
    rfl
  | string h =>
    rw [Document.readDocument_string, h]
    rfl
  | array h =>
    rw [Document.readDocument_list, h]
    rfl
  | object h =>
    rw [Document.readDocument_object, h]
    rfl

/-- What is read nests no more containers than the reader allows. -/
theorem depth_readDocument {n : Nat} {cs r : List Char} {d : Document}
    (h : readDocument n cs = .ok (d, r)) : d.toValue.depth ≤ n := by
  have hreads := reads_of_readDocument h
  generalize skipSpace cs = start at hreads
  induction n generalizing cs start d r with
  | zero => cases hreads <;> exact Nat.le_of_eq (Document.depth_toValue_scalar rfl)
  | succ n ih =>
    cases hreads with
    | @array _ _ _ items hfold =>
      have hitems : ∀ d ∈ items, d.toValue.depth ≤ n := by
        refine foldItemsFrom_keeps (P := fun ds => ∀ d ∈ ds, d.toValue.depth ≤ n) ?_ nofun hfold
        intro acc cs next r' hacc hread
        obtain ⟨⟨d, r''⟩, hd, hread⟩ := Except.bind_eq_ok_iff.mp hread
        cases hread
        exact List.forall_mem_cons.mpr ⟨ih hd _ (reads_of_readDocument hd), hacc⟩
      exact Document.depth_toValue_array fun d hd => hitems d (List.mem_reverse.mp hd)
    | @object _ _ _ members hfold =>
      have hmembers : ∀ m ∈ members, m.2.toValue.depth ≤ n := by
        refine foldMembersFrom_keeps (P := fun ms => ∀ m ∈ ms, m.2.toValue.depth ≤ n) ?_ nofun hfold
        intro acc key cs next r' hacc hread
        obtain ⟨cs', -, hread⟩ := Except.bind_eq_ok_iff.mp hread
        obtain ⟨⟨d, r''⟩, hd, hread⟩ := Except.bind_eq_ok_iff.mp hread
        cases hread
        exact List.forall_mem_cons.mpr ⟨ih hd _ (reads_of_readDocument hd), hacc⟩
      exact Document.depth_toValue_object fun m hm => hmembers m (List.mem_reverse.mp hm)
    | _ =>
      rw [Document.depth_toValue_scalar rfl]
      exact Nat.zero_le _

end GuestHost.Json
