import GuestHost.Json.Read
import GuestHost.Proofs.Outcome
/-!
Strings read back however they are spelled. Whatever a character is spelled as, the reader takes it off the
text in one step, so the characters come back one by one up to the closing quote; and the writer spells each
of them in one of these ways.
-/
namespace GuestHost.Json

/-- Four hexadecimal digits, in either case, that say a number. -/
def HexDigits (n : Nat) (cs : List Char) : Prop :=
  ∃ a b c d w x y z, cs = [a, b, c, d] ∧ Text.hexValue? a = some w ∧ Text.hexValue? b = some x ∧
    Text.hexValue? c = some y ∧ Text.hexValue? d = some z ∧ n = ((w * 16 + x) * 16 + y) * 16 + z

/-- The letters that stand behind a backslash for one character each. -/
def shortEscapes : List (Char × Char) :=
  [('"', '"'), ('\\', '\\'), ('/', '/'), ('b', '\x08'), ('f', '\x0c'), ('n', '\n'), ('r', '\r'),
    ('t', '\t')]

/-- What can stand behind a backslash for a character. Beyond the first plane it takes two numbers, that of
the second behind a backslash of its own. -/
inductive Escapes : Char → List Char → Prop
  | short {c e : Char} (h : (e, c) ∈ shortEscapes) : Escapes c [e]
  | number {c : Char} {digits : List Char} (h : HexDigits c.toNat digits) : Escapes c ('u' :: digits)
  | pair {c : Char} {high low : List Char} (hc : 0x10000 ≤ c.toNat)
      (hhigh : HexDigits (0xD800 + (c.toNat - 0x10000) / 0x400) high)
      (hlow : HexDigits (0xDC00 + (c.toNat - 0x10000) % 0x400) low) :
      Escapes c ('u' :: (high ++ '\\' :: 'u' :: low))

/-- How a character can be spelled inside a string. -/
inductive SpellsChar : Char → List Char → Prop
  | plain {c : Char} (hquote : c ≠ '"') (hslash : c ≠ '\\') (hcontrol : ¬c.toNat < 0x20) :
      SpellsChar c [c]
  | escape {c : Char} {cs : List Char} (h : Escapes c cs) : SpellsChar c ('\\' :: cs)

/-- How the characters of a string can be spelled one after the other. -/
inductive Spells : List Char → List Char → Prop
  | nil : Spells [] []
  | cons {c : Char} {own cs more : List Char} (hc : SpellsChar c own) (hrest : Spells cs more) :
      Spells (c :: cs) (own ++ more)

/-- A string in its quotes. -/
def Quotes (s : String) (cs : List Char) : Prop :=
  ∃ body, Spells s.toList body ∧ cs = '"' :: (body ++ ['"'])

/-! ### Reading what is spelled -/

theorem HexDigits.read {n : Nat} {cs : List Char} (h : HexDigits n cs) (rest : List Char) :
    readHex (cs ++ rest) = .ok (n, rest) := by
  obtain ⟨a, b, c, d, w, x, y, z, rfl, hw, hx, hy, hz, rfl⟩ := h
  simp only [List.cons_append, List.nil_append, readHex, hw, hx, hy, hz]

/-- No character is half of a pair. -/
theorem toNat_ranges (c : Char) : c.toNat < 0xD800 ∨ 0xDFFF < c.toNat ∧ c.toNat < 0x110000 := by
  have h : c.toNat.isValidChar := c.valid
  exact h

theorem readEscape_number {n : Nat} {digits : List Char} (h : HexDigits n digits)
    (hn : n < 0xD800 ∨ 0xDFFF < n) (rest : List Char) :
    readEscape ('u' :: (digits ++ rest)) = .ok (Char.ofNat n, rest) := by
  have hlow : ¬(0xDC00 ≤ n ∧ n ≤ 0xDFFF) := by omega
  have hhigh : ¬(0xD800 ≤ n ∧ n ≤ 0xDBFF) := by omega
  unfold readEscape
  simp only [h.read, Except.ok_bind]
  rw [if_neg hlow, if_neg hhigh]
  rfl

theorem readEscape_pair {m n : Nat} {high low : List Char} (hhigh : HexDigits m high)
    (hlow : HexDigits n low) (hm : 0xD800 ≤ m ∧ m ≤ 0xDBFF) (hn : 0xDC00 ≤ n ∧ n ≤ 0xDFFF)
    (rest : List Char) :
    readEscape ('u' :: (high ++ '\\' :: 'u' :: (low ++ rest))) =
      .ok (Char.ofNat (0x10000 + (m - 0xD800) * 0x400 + (n - 0xDC00)), rest) := by
  have hfirst : ¬(0xDC00 ≤ m ∧ m ≤ 0xDFFF) := by omega
  unfold readEscape
  simp only [hhigh.read, Except.ok_bind]
  rw [if_neg hfirst, if_pos hm, readLowHalf]
  simp only [hlow.read, Except.ok_bind]
  rw [if_pos hn]
  rfl

theorem Escapes.read {c : Char} {cs : List Char} (h : Escapes c cs) (rest : List Char) :
    readEscape (cs ++ rest) = .ok (c, rest) := by
  have hvalid := toNat_ranges c
  cases h with
  | short h =>
    simp only [shortEscapes, List.mem_cons, List.not_mem_nil, or_false, Prod.mk.injEq] at h
    rcases h with ⟨rfl, rfl⟩ | ⟨rfl, rfl⟩ | ⟨rfl, rfl⟩ | ⟨rfl, rfl⟩ | ⟨rfl, rfl⟩ | ⟨rfl, rfl⟩ | ⟨rfl, rfl⟩ |
      ⟨rfl, rfl⟩ <;> rfl
  | number h =>
    rw [List.cons_append, readEscape_number h (hvalid.imp_right And.left), Char.ofNat_toNat]
  | pair hc hhigh hlow =>
    have hpair := readEscape_pair hhigh hlow (by omega) (by omega) rest
    have hsum : 0x10000 + (0xD800 + (c.toNat - 0x10000) / 0x400 - 0xD800) * 0x400 +
        (0xDC00 + (c.toNat - 0x10000) % 0x400 - 0xDC00) = c.toNat := by omega
    rw [List.cons_append, List.append_assoc]
    rw [hsum, Char.ofNat_toNat] at hpair
    exact hpair

/-- One spelled character is one step of the reader. -/
theorem SpellsChar.read {c : Char} {cs : List Char} (h : SpellsChar c cs) (b : Char)
    (bound acc rest : List Char) :
    readChars (b :: bound) acc (cs ++ rest) = readChars bound (c :: acc) rest := by
  cases h with
  | plain hquote hslash hcontrol =>
    rw [List.singleton_append, readChars]
    simp only [if_neg hquote, if_neg hslash, if_neg hcontrol]
  | escape h =>
    have hslash : ('\\' : Char) ≠ '"' := by decide
    rw [List.cons_append, readChars]
    simp only [if_neg hslash, if_true, h.read, Except.ok_bind]

theorem SpellsChar.ne_nil {c : Char} {cs : List Char} (h : SpellsChar c cs) : cs ≠ [] := by
  cases h <;> exact List.cons_ne_nil _ _

theorem Spells.length_le {cs body : List Char} (h : Spells cs body) : cs.length ≤ body.length := by
  induction h with
  | nil => exact Nat.le_refl 0
  | cons hc _ ih =>
    have hpos := List.length_pos_iff.mpr hc.ne_nil
    rw [List.length_append, List.length_cons]
    omega

theorem Spells.readChars {cs body bound : List Char} (h : Spells cs body)
    (hbound : cs.length < bound.length) (acc after : List Char) :
    Json.readChars bound acc (body ++ '"' :: after) = .ok (acc.reverse ++ cs, after) := by
  induction h generalizing bound acc with
  | nil =>
    cases bound with
    | nil => cases hbound
    | cons b bound =>
      rw [List.nil_append, List.append_nil, Json.readChars]
      simp only [if_true]
  | cons hc _ ih =>
    cases bound with
    | nil => cases hbound
    | cons b bound =>
      rw [List.append_assoc, hc.read, ih (Nat.lt_of_succ_lt_succ hbound), List.reverse_cons,
        List.append_assoc, List.singleton_append]

/-- A string is read back from its spelling, up to the closing quote. -/
theorem Spells.readString {s : String} {body : List Char} (h : Spells s.toList body) (after : List Char) :
    Json.readString (body ++ '"' :: after) = .ok (s, after) := by
  have hbound : s.toList.length < ('"' :: (body ++ '"' :: after)).length := by
    have hbody := h.length_le
    rw [List.length_cons, List.length_append]
    omega
  unfold Json.readString
  rw [h.readChars hbound [] after, Except.ok_bind, List.reverse_nil, List.nil_append]
  simp only [String.ofList_toList]
  rfl

/-! ### What the writer spells -/

theorem hexValue?_hexDigit : ∀ n < 16, Text.hexValue? (hexDigit n) = some n := by decide

theorem eq_ofNat {c : Char} {n : Nat} (h : c.toNat = n) : c = Char.ofNat n := by
  rw [← h, Char.ofNat_toNat]

/-- A control character from its four hexadecimal digits. -/
theorem hexDigits_control {c : Char} (h : c.toNat < 0x20) :
    HexDigits c.toNat ['0', '0', hexDigit (c.toNat / 16), hexDigit (c.toNat % 16)] := by
  have hhigh := hexValue?_hexDigit (c.toNat / 16) (by omega)
  have hlow := hexValue?_hexDigit (c.toNat % 16) (by omega)
  exact ⟨_, _, _, _, 0, 0, _, _, rfl, by decide, by decide, hhigh, hlow, by omega⟩

theorem spellsChar_escaped (c : Char) : SpellsChar c (escaped c) := by
  unfold escaped
  split
  · next h =>
    subst h
    exact .escape (.short (by decide))
  split
  · next h =>
    subst h
    exact .escape (.short (by decide))
  split
  · next h => exact .escape (.short (eq_ofNat h ▸ by decide))
  split
  · next h => exact .escape (.short (eq_ofNat h ▸ by decide))
  split
  · next h => exact .escape (.short (h ▸ by decide))
  split
  · next h => exact .escape (.short (h ▸ by decide))
  split
  · next h => exact .escape (.short (h ▸ by decide))
  split
  · next h => exact .escape (.number (hexDigits_control h))
  · next hquote hslash _ _ _ _ _ hcontrol => exact .plain hquote hslash hcontrol

theorem spells_flatMap_escaped (cs : List Char) : Spells cs (cs.flatMap escaped) := by
  induction cs with
  | nil => exact .nil
  | cons c rest ih => exact .cons (spellsChar_escaped c) ih

theorem quotes_stringText (s : String) : Quotes s (stringText s) :=
  ⟨_, spells_flatMap_escaped s.toList, rfl⟩

end GuestHost.Json
