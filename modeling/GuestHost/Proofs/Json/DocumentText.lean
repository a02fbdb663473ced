import GuestHost.Proofs.Json.Rendering
/-!
Documents read back as they were written. What is written of a document is one of its texts, without blanks
between its parts.
-/
namespace GuestHost.Json

/-- A document whose numbers are integers of a machine word, and in which at most `n` containers lie
inside one another. -/
inductive Document.Readable : Nat → Document → Prop where
  | null {n : Nat} : Readable n null
  | boolean {n : Nat} (b : Bool) : Readable n (boolean b)
  | integer {n : Nat} {k : Int} (h : FitsWord k) : Readable n (number (.integer k))
  | string {n : Nat} (s : String) : Readable n (string s)
  | array {n : Nat} {items : List Document} (h : ∀ d ∈ items, Readable n d) :
    Readable (n + 1) (array items)
  | object {n : Nat} {members : List (String × Document)} (h : ∀ m ∈ members, Readable n m.2) :
    Readable (n + 1) (object members)

theorem separated_eq (first : Bool) (cs : List Char) : separated first cs = separated first [] ++ cs := by
  cases first <;> rfl

theorem gap_separated (first : Bool) : Gap first (separated first []) := by
  cases first with
  | true => exact blanks_nil
  | false => exact ⟨[], [], blanks_nil, blanks_nil, rfl⟩

namespace Document

theorem Readable.nesting_le {n : Nat} {d : Document} (h : d.Readable n) : d.nesting ≤ n := by
  induction h with
  | array _ ih => exact Nat.succ_le_succ (nestingOfItems_le_iff.mpr ih)
  | object _ ih => exact Nat.succ_le_succ (nestingOfMembers_le_iff.mpr ih)
  | _ => exact Nat.zero_le _

/-- What is written of the document is one of its texts. -/
def WritesText (d : Document) : Prop := ∀ after, ∃ cs, d.Renders cs ∧ d.textBefore after = cs ++ after

theorem rendersItems_itemsBefore {ds : List Document} (h : ∀ d ∈ ds, d.WritesText) (first : Bool)
    (after : List Char) :
    ∃ body, RendersItems first ds body ∧ itemsBefore first ds after = body ++ after := by
  induction ds generalizing first with
  | nil => exact ⟨[], blanks_nil, rfl⟩
  | cons d rest ih =>
    obtain ⟨hd, hrest⟩ := List.forall_mem_cons.mp h
    obtain ⟨more, hmore, hafter⟩ := ih hrest false
    obtain ⟨own, hown, hbefore⟩ := hd (more ++ after)
    refine ⟨_, ⟨_, own, more, gap_separated first, hown, hmore, rfl⟩, ?_⟩
    rw [itemsBefore, hafter, hbefore, separated_eq, List.append_assoc, List.append_assoc]

theorem rendersMembers_membersBefore {ms : List (String × Document)} (h : ∀ m ∈ ms, m.2.WritesText)
    (first : Bool) (after : List Char) :
    ∃ body, RendersMembers first ms body ∧ membersBefore first ms after = body ++ after := by
  induction ms generalizing first with
  | nil => exact ⟨[], blanks_nil, rfl⟩
  | cons m rest ih =>
    obtain ⟨k, d⟩ := m
    obtain ⟨hd, hrest⟩ := List.forall_mem_cons.mp h
    obtain ⟨more, hmore, hafter⟩ := ih hrest false
    obtain ⟨own, hown, hbefore⟩ := hd (more ++ after)
    have hcolon : Colon [':'] := ⟨[], [], blanks_nil, blanks_nil, rfl⟩
    refine ⟨_, ⟨_, _, _, own, more, gap_separated first, quotes_stringText k, hcolon, hown, hmore, rfl⟩, ?_⟩
    rw [membersBefore, hafter, hbefore, separated_eq]
    simp only [List.append_assoc, List.cons_append, List.nil_append]

theorem Readable.writesText {n : Nat} {d : Document} (h : d.Readable n) : d.WritesText := by
  intro after
  induction h generalizing after with
  | null => exact ⟨_, rfl, rfl⟩
  | boolean b => exact ⟨_, rfl, rfl⟩
  | integer hk => exact ⟨_, ⟨hk, rfl⟩, rfl⟩
  | string s => exact ⟨_, quotes_stringText s, rfl⟩
  | array _ ih =>
    obtain ⟨body, hbody, htext⟩ := rendersItems_itemsBefore ih true (']' :: after)
    refine ⟨_, ⟨body, hbody, rfl⟩, ?_⟩
    rw [textBefore, htext, List.cons_append, List.append_assoc, List.singleton_append]
  | object _ ih =>
    obtain ⟨body, hbody, htext⟩ := rendersMembers_membersBefore ih true ('}' :: after)
    refine ⟨_, ⟨body, hbody, rfl⟩, ?_⟩
    rw [textBefore, htext, List.cons_append, List.append_assoc, List.singleton_append]

theorem Readable.renders_text {n : Nat} {d : Document} (h : d.Readable n) : d.Renders d.text := by
  obtain ⟨cs, hcs, htext⟩ := h.writesText []
  rw [Document.text, htext, List.append_nil]
  exact hcs

/-- Whatever follows it, a readable document is read back from its text. -/
theorem Readable.readDocument_textBefore {n : Nat} {d : Document} (h : d.Readable n) {after : List Char}
    (hafter : EndsNumber after) : readDocument n (d.textBefore after) = .ok (d, after) := by
  obtain ⟨cs, hcs, htext⟩ := h.writesText after
  rw [htext]
  exact readsBack h.nesting_le hcs hafter

end Document

/-- A readable document within the reader's limit is what its whole text is parsed as. -/
theorem parseDocument_text {d : Document} (h : d.Readable nestingLimit) :
    parseDocument (String.ofList d.text) = .ok d := by
  refine parseDocument_of_isWritten ⟨[], d.text, [], blanks_nil, h.renders_text, blanks_nil, ?_⟩ h.nesting_le
  rw [String.toList_ofList, List.append_nil, List.nil_append]

end GuestHost.Json
