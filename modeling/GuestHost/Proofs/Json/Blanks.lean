import GuestHost.Json.Read
import GuestHost.Proofs.Outcome
import Mathlib.Data.List.TakeWhile
/-!
Blanks around a document. A reader looks at a text from its first character on that is no blank, and a text
is one document if a reader gets through one and leaves nothing but blanks.
-/
namespace GuestHost.Json

/-- Nothing but the white space of JSON. -/
def Blanks (cs : List Char) : Prop := ∀ c ∈ cs, isSpace c = true

instance (cs : List Char) : Decidable (Blanks cs) :=
  decidable_of_iff (cs.all isSpace = true) List.all_eq_true

theorem blanks_nil : Blanks [] := nofun

theorem blanks_append_iff {cs ds : List Char} : Blanks (cs ++ ds) ↔ Blanks cs ∧ Blanks ds :=
  List.forall_mem_append

theorem skipSpace_cons {c : Char} (h : isSpace c = false) (r : List Char) :
    skipSpace (c :: r) = c :: r := by
  simp [skipSpace, h]

theorem skipSpace_blanks_append {cs : List Char} (h : Blanks cs) (r : List Char) :
    skipSpace (cs ++ r) = skipSpace r :=
  List.dropWhile_append_of_pos h

theorem skipSpace_eq_nil_iff {cs : List Char} : skipSpace cs = [] ↔ Blanks cs :=
  List.dropWhile_eq_nil_iff

/-- What is passed over is blank. -/
theorem exists_blanks (cs : List Char) : ∃ bs, Blanks bs ∧ bs ++ skipSpace cs = cs :=
  ⟨cs.takeWhile isSpace, fun _ => List.mem_takeWhile_imp, List.takeWhile_append_dropWhile⟩

/-- What comes behind the blanks is none. -/
theorem isSpace_of_skipSpace {cs r : List Char} {c : Char} (h : skipSpace cs = c :: r) :
    isSpace c = false := by
  induction cs with
  | nil => cases h
  | cons b rest ih =>
    cases hb : isSpace b with
    | true =>
      have hskip : skipSpace (b :: rest) = skipSpace rest := by simp [skipSpace, hb]
      exact ih (hskip ▸ h)
    | false =>
      rw [skipSpace_cons hb] at h
      cases h
      exact hb

theorem mem_skipSpace {cs : List Char} {c : Char} (hc : c ∈ cs) (h : isSpace c = false) :
    c ∈ skipSpace cs := by
  obtain ⟨bs, hbs, heq⟩ := exists_blanks cs
  rw [← heq, List.mem_append] at hc
  refine hc.resolve_left fun hskipped => ?_
  rw [hbs c hskipped] at h
  cases h

/-- More text behind a text does not matter until the first character that is no blank. -/
theorem skipSpace_append {cs r : List Char} {c : Char} (h : skipSpace cs = c :: r) (u : List Char) :
    skipSpace (cs ++ u) = c :: (r ++ u) := by
  obtain ⟨bs, hbs, heq⟩ := exists_blanks cs
  rw [← heq, h, List.append_assoc, skipSpace_blanks_append hbs, List.cons_append,
    skipSpace_cons (isSpace_of_skipSpace h)]

theorem readDocument_congr (n : Nat) {cs cs' : List Char} (h : skipSpace cs = skipSpace cs') :
    readDocument n cs = readDocument n cs' := by
  unfold readDocument
  rw [h]

theorem readDocument_blanks_append (n : Nat) {bs : List Char} (h : Blanks bs) (cs : List Char) :
    readDocument n (bs ++ cs) = readDocument n cs :=
  readDocument_congr n (skipSpace_blanks_append h cs)

theorem readEnd_eq_ok_iff {cs : List Char} : readEnd cs = .ok () ↔ Blanks cs := by
  rw [← skipSpace_eq_nil_iff]
  unfold readEnd
  cases skipSpace cs <;> simp

/-- A text has a value if it is a document with nothing but blanks behind it. -/
theorem parse_eq_ok_iff {text : String} {v : Value} : parse text = .ok v ↔
    ∃ d r, readDocument nestingLimit text.toList = .ok (d, r) ∧ Blanks r ∧ d.toValue = v := by
  unfold parse parseDocument readWhole
  simp only [Except.map_eq_ok_iff, Except.mapError_eq_ok_iff, Except.bind_eq_ok_iff]
  constructor
  · rintro ⟨_, ⟨⟨d, r⟩, hread, ⟨⟩, hend, ⟨⟩⟩, hvalue⟩
    exact ⟨d, r, hread, readEnd_eq_ok_iff.mp hend, hvalue⟩
  · rintro ⟨d, r, hread, hblank, hvalue⟩
    exact ⟨d, ⟨(d, r), hread, (), readEnd_eq_ok_iff.mpr hblank, rfl⟩, hvalue⟩

end GuestHost.Json
