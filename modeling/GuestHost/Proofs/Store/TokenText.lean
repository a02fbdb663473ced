import GuestHost.Proofs.Store.Creating
import GuestHost.Proofs.Text.Boundary
import GuestHost.Proofs.Text.ByteOrder
/-!
Pieces of a text and their tokens. Where a piece stands between others that cannot go on with it, the scanner
takes just that piece: a name with its quotes, whatever is in it, a word, a bracket or a comma. The part of the
text between the offsets of a token is its piece again.
-/
namespace GuestHost.Store

namespace Token

/-! ## Offsets -/

theorem bytesOf_eq_length (cs : List Char) : bytesOf cs = (cs.flatMap String.utf8EncodeChar).length := by
  have hfold : ∀ (cs : List Char) n, cs.foldl (fun n c => n + c.utf8Size) n =
      n + (cs.flatMap String.utf8EncodeChar).length := by
    intro cs
    induction cs with
    | nil => exact fun n => rfl
    | cons c rest ih =>
      intro n
      rw [List.foldl_cons, ih, List.flatMap_cons, List.length_append, String.length_utf8EncodeChar,
        Nat.add_assoc]
  rw [bytesOf, hfold, Nat.zero_add]

theorem bytesOf_append (cs ds : List Char) : bytesOf (cs ++ ds) = bytesOf cs + bytesOf ds := by
  simp only [bytesOf_eq_length, List.flatMap_append, List.length_append]

/-- Every character takes a byte at least. -/
theorem length_le_bytesOf (cs : List Char) : cs.length ≤ bytesOf cs := by
  rw [bytesOf_eq_length]
  induction cs with
  | nil => exact Nat.le_refl 0
  | cons c rest ih =>
    have hsize := c.utf8Size_pos
    rw [List.flatMap_cons, List.length_append, String.length_utf8EncodeChar, List.length_cons]
    omega

theorem bytesOf_toList (s : String) : bytesOf s.toList = s.utf8ByteSize := by
  rw [bytesOf_eq_length, ← Text.encode_eq, Text.length_encode]

/-! ## Scanning a piece -/

theorem scan_piece {kind : TokenKind} {piece rest : List Char} (hne : piece ≠ [])
    (hblank : blankSize (piece ++ rest) = 0) (hone : scanOne (piece ++ rest) = (kind, piece.length))
    (fuel at_ : Nat) : scan (fuel + 1) at_ (piece ++ rest) =
      ⟨kind, String.ofList piece, at_, at_ + bytesOf piece⟩ :: scan fuel (at_ + bytesOf piece) rest := by
  cases piece with
  | nil => exact absurd rfl hne
  | cons c cs =>
    rw [List.cons_append] at hblank hone ⊢
    have htake : (c :: (cs ++ rest)).take (c :: cs).length = c :: cs := List.take_left
    have hdrop : (c :: (cs ++ rest)).drop (c :: cs).length = rest := List.drop_left
    rw [scan]
    simp only [hblank, hone, htake, hdrop, Nat.lt_irrefl, if_false]

/-- A blank in front of anything but a blank. -/
theorem scan_space {cs : List Char} (hcs : ∀ c r, cs = c :: r → isSqlSpace c = false) (fuel at_ : Nat) :
    scan (fuel + 1) at_ (' ' :: cs) = scan fuel (at_ + bytesOf [' ']) cs := by
  have hrun : cs.takeWhile isSqlSpace = [] := by
    cases cs with
    | nil => rfl
    | cons c r => rw [List.takeWhile_cons, hcs c r rfl, if_neg Bool.false_ne_true]
  have hblank : blankSize (' ' :: cs) = 1 := by
    have hsize : blankSize (' ' :: cs) = (cs.takeWhile isSqlSpace).length + 1 := rfl
    rw [hsize, hrun, List.length_nil]
  rw [scan]
  simp only [hblank, Nat.lt_add_one, if_true, List.drop_one, List.tail_cons]
  rfl

theorem scan_nil (fuel at_ : Nat) : scan (fuel + 1) at_ [] = [⟨.finish, "", at_, at_⟩] := rfl

/-- A piece that the scanner takes as a token of its own, whatever follows of what may follow. -/
structure Piece (kind : TokenKind) (piece : List Char) (follows : List Char → Prop) : Prop where
  ne_nil : piece ≠ []
  visible : ∀ {rest}, follows rest → blankSize (piece ++ rest) = 0
  taken : ∀ {rest}, follows rest → scanOne (piece ++ rest) = (kind, piece.length)

theorem piece_symbol {c : Char} (hc : c ∈ ['(', ',', ')']) : Piece .symbol [c] fun _ => True := by
  simp only [List.mem_cons, List.not_mem_nil, or_false] at hc
  rcases hc with rfl | rfl | rfl <;> exact ⟨by decide, fun _ => rfl, fun _ => rfl⟩

/-! ## Names in quotes -/

theorem scanQuoted_doubled (name : List Char) {rest : List Char} (hrest : rest.head? ≠ some '"') :
    scanQuoted '"' (doubled name ++ '"' :: rest) = some (name, rest) := by
  induction name with
  | nil =>
    cases rest with
    | nil => rfl
    | cons d r =>
      have hd : d ≠ '"' := fun h => hrest (by rw [h, List.head?_cons])
      simp [doubled, scanQuoted, hd]
  | cons c cs ih =>
    have hcons : doubled (c :: cs) = (if c = '"' then ['"', '"'] else [c]) ++ doubled cs := rfl
    rw [hcons]
    by_cases hquote : c = '"'
    · subst hquote
      simp [scanQuoted, ih]
    · rw [if_neg hquote, List.singleton_append, List.cons_append, scanQuoted_cons_of_ne hquote, ih]
      rfl

theorem length_doubled (name : List Char) : (doubled name).length = name.length + name.count '"' := by
  induction name with
  | nil => rfl
  | cons c cs ih =>
    have hcons : doubled (c :: cs) = (if c = '"' then ['"', '"'] else [c]) ++ doubled cs := rfl
    rw [hcons, List.length_append, ih, List.length_cons, List.count_cons]
    by_cases hquote : c = '"'
    · simp [hquote]
      omega
    · simp [hquote]
      omega

/-- The characters of a name in its quotes. -/
def quotedText (name : List Char) : List Char := '"' :: (doubled name ++ ['"'])

theorem toList_quoteName (name : String) : (quoteName name).toList = quotedText name.toList := by
  unfold quoteName quotedText doubled
  simp only [String.toList_append, String.toList_ofList, List.append_assoc]
  rfl

/-- A quoted name is one token, with the name in it, unless a quote follows. -/
theorem piece_quotedText (name : List Char) :
    Piece (.quoted (String.ofList name) .double) (quotedText name) fun rest => rest.head? ≠ some '"' := by
  refine ⟨List.cons_ne_nil _ _, fun _ => rfl, fun {rest} hrest => ?_⟩
  have hsplit : quotedText name ++ rest = '"' :: (doubled name ++ '"' :: rest) := by
    rw [quotedText, List.cons_append, List.append_assoc, List.singleton_append]
  rw [hsplit, scanOne_quote, scanQuoted_doubled name hrest]
  simp only [quotedSize, quotedText, List.length_cons, List.length_append, length_doubled, List.length_nil]

/-! ## Words -/

/-- Letters, digits and the underscore. -/
def isPlainChar (c : Char) : Bool := c.isAlphanum || c == '_'

/-- A word of letters, digits and underscores that starts with no digit. -/
structure PlainWord (w : List Char) : Prop where
  head : ∃ c r, w = c :: r ∧ c.isDigit = false
  chars : ∀ c ∈ w, isPlainChar c = true

theorem plainWord_iff {w : List Char} :
    PlainWord w ↔ (w.head?.any (fun c => !c.isDigit) && w.all isPlainChar) = true := by
  rw [Bool.and_eq_true, List.all_eq_true, Option.any_eq_true]
  constructor
  · rintro ⟨⟨c, r, rfl, hc⟩, hchars⟩
    exact ⟨⟨c, rfl, by rw [hc]; rfl⟩, hchars⟩
  · rintro ⟨⟨c, hhead, hc⟩, hchars⟩
    obtain ⟨r, rfl⟩ := List.head?_eq_some_iff.mp hhead
    exact ⟨⟨c, r, rfl, by simpa using hc⟩, hchars⟩

instance (w : List Char) : Decidable (PlainWord w) := decidable_of_iff' _ plainWord_iff

theorem ne_of_isPlainChar {c d : Char} (h : isPlainChar c = true) (hd : isPlainChar d = false) :
    c ≠ d := by
  rintro rfl
  rw [h] at hd
  cases hd

theorem toNat_of_isPlainChar {c : Char} (h : isPlainChar c = true) : 0x30 ≤ c.toNat ∧ c.toNat < 0x80 := by
  have hnat : c.toNat = c.val.toNat := rfl
  have hfirst : '0'.val.toNat = 0x30 ∧ 'A'.val.toNat = 0x41 ∧ 'a'.val.toNat = 0x61 := by decide
  have hlast : '9'.val.toNat = 0x39 ∧ 'Z'.val.toNat = 0x5A ∧ 'z'.val.toNat = 0x7A := by decide
  unfold isPlainChar Char.isAlphanum Char.isAlpha Char.isUpper Char.isLower Char.isDigit at h
  simp only [Bool.or_eq_true, Bool.and_eq_true, decide_eq_true_eq, beq_iff_eq, ge_iff_le,
    UInt32.le_iff_toNat_le] at h
  rcases h with ((h | h) | h) | rfl
  · omega
  · omega
  · omega
  · decide

theorem isWordChar_of_isPlainChar {c : Char} (h : isPlainChar c = true) : isWordChar c = true := by
  simp only [isPlainChar, Bool.or_eq_true] at h
  rcases h with h | h <;> simp [isWordChar, h]

theorem isWordStart_of_isPlainChar {c : Char} (h : isPlainChar c = true) (hdigit : c.isDigit = false) :
    isWordStart c = true := by
  simp only [isPlainChar, Char.isAlphanum, hdigit, Bool.or_false, Bool.or_eq_true] at h
  rcases h with h | h <;> simp [isWordStart, h]

theorem isSqlSpace_of_isPlainChar {c : Char} (h : isPlainChar c = true) : isSqlSpace c = false := by
  have hne : ∀ d, isPlainChar d = false → (c == d) = false :=
    fun d hd => beq_eq_false_iff_ne.mpr (ne_of_isPlainChar h hd)
  rw [isSqlSpace, hne ' ' (by decide), hne '\t' (by decide), hne '\n' (by decide), hne '\r' (by decide),
    hne '\x0c' (by decide), hne '\x0b' (by decide)]
  rfl

/-- What ends a word: a blank, a comma or a closing bracket. -/
def EndsWord (rest : List Char) : Prop := ∃ c r, rest = c :: r ∧ c ∈ [' ', ',', ')']

theorem EndsWord.head {rest : List Char} (h : EndsWord rest) :
    ∃ c r, rest = c :: r ∧ isWordChar c = false ∧ c ≠ '\'' := by
  obtain ⟨c, r, rfl, hc⟩ := h
  simp only [List.mem_cons, List.not_mem_nil, or_false] at hc
  rcases hc with rfl | rfl | rfl <;> exact ⟨_, _, rfl, by decide, by decide⟩

theorem PlainWord.visible {w : List Char} (hw : PlainWord w) (rest : List Char) :
    blankSize (w ++ rest) = 0 := by
  obtain ⟨⟨c, r, rfl, -⟩, hchars⟩ := hw
  have hc := hchars c List.mem_cons_self
  have hmark : isMark c = false := by
    have hascii := (toNat_of_isPlainChar hc).2
    rw [isMark, beq_eq_false_iff_ne]
    omega
  have hblank : isBlankStart c = false := by
    rw [isBlankStart, isSqlSpace_of_isPlainChar hc, Bool.false_and]
  rw [List.cons_append]
  unfold blankSize
  simp only [hmark, hblank, Bool.false_eq_true, if_false]
  split
  · exact absurd rfl (ne_of_isPlainChar hc (by decide))
  · exact absurd rfl (ne_of_isPlainChar hc (by decide))
  · rfl

theorem PlainWord.takeWhile {w rest : List Char} (hw : PlainWord w) (hrest : EndsWord rest) :
    (w ++ rest).takeWhile isWordChar = w := by
  obtain ⟨d, s, rfl, hd, -⟩ := hrest.head
  rw [List.takeWhile_append_of_pos fun a ha => isWordChar_of_isPlainChar (hw.chars a ha),
    List.takeWhile_cons, hd, if_neg Bool.false_ne_true, List.append_nil]

theorem piece_word {w : List Char} (hw : PlainWord w) : Piece (.word (String.ofList w)) w EndsWord := by
  have hstart := hw.head
  obtain ⟨c, r, rfl, hdigit⟩ := hstart
  refine ⟨nofun, fun _ => hw.visible _, fun {rest} hrest => ?_⟩
  -- No blob: what follows the first letter is no quote.
  have hblob : ((r ++ rest).head? == some '\'') = false := by
    apply beq_eq_false_iff_ne.mpr
    cases r with
    | nil =>
      obtain ⟨d, s, rfl, -, hquote⟩ := hrest.head
      simpa using hquote
    | cons a r =>
      have ha : isPlainChar a = true := hw.chars a (by simp)
      simpa using ne_of_isPlainChar ha (by decide)
  have hword := isWordStart_of_isPlainChar (hw.chars c List.mem_cons_self) hdigit
  have hrun := hw.takeWhile hrest
  rw [List.cons_append] at hrun ⊢
  unfold scanOne
  simp only [hblob, Bool.and_false, Bool.false_eq_true, if_false, hword, if_true, hrun]

end Token

/-! ## Parts of a text -/

theorem decodeLossy_ascii {cs : List Char} (h : ∀ c ∈ cs, c.toNat < 0x80) :
    Text.decodeLossy (cs.flatMap String.utf8EncodeChar) = cs := by
  induction cs with
  | nil => rw [List.flatMap_nil, Text.decodeLossy]
  | cons c rest ih =>
    obtain ⟨hc, hrest⟩ := List.forall_mem_cons.mp h
    have hcode : String.utf8EncodeChar c = [UInt8.ofNat c.toNat] := by
      have hle : c.val.toNat ≤ 0x7F := Nat.le_of_lt_succ hc
      unfold String.utf8EncodeChar
      simp only [if_pos hle]
      rfl
    have hbyte : (UInt8.ofNat c.toNat).toNat = c.toNat := UInt8.toNat_ofNat_of_lt' (Nat.lt_trans hc (by decide))
    have hsmall : UInt8.ofNat c.toNat < 0x80 := by
      rw [UInt8.lt_iff_toNat_lt, hbyte]
      exact hc
    rw [List.flatMap_cons, hcode, List.singleton_append, Text.decodeLossy.eq_def]
    simp only [if_pos hsmall, hbyte, ih hrest, Char.ofNat_toNat]

/-- The part between the offsets of a piece is the piece. -/
theorem Parser.slice_run {c : Cursor} {pre mid rest : List Char} (hsplit : c.sql.toList = pre ++ (mid ++ rest))
    (hmid : ∀ a ∈ mid, a.toNat < 0x80) :
    (slice (Token.bytesOf pre) (Token.bytesOf (pre ++ mid))).run c = .ok (String.ofList mid, c) := by
  have hbytes : Text.encode c.sql = pre.flatMap String.utf8EncodeChar ++
      (mid.flatMap String.utf8EncodeChar ++ rest.flatMap String.utf8EncodeChar) := by
    rw [Text.encode_eq, hsplit, List.flatMap_append, List.flatMap_append]
  have hpart : ((Text.encode c.sql).take (Token.bytesOf (pre ++ mid))).drop (Token.bytesOf pre) =
      mid.flatMap String.utf8EncodeChar := by
    rw [hbytes, ← List.append_assoc, Token.bytesOf_eq_length (pre ++ mid), List.flatMap_append,
      List.take_left, Token.bytesOf_eq_length, List.drop_left]
  change Except.ok (Text.textLossy (((Text.encode c.sql).take _).drop _), c) = _
  rw [hpart, Text.textLossy, decodeLossy_ascii hmid]

/-- Behind the whole text there is nothing. -/
theorem Parser.slice_run_end {c : Cursor} (stop : Nat) :
    (slice (Token.bytesOf c.sql.toList) stop).run c = .ok ("", c) := by
  have hpart : ((Text.encode c.sql).take stop).drop (Token.bytesOf c.sql.toList) = [] := by
    apply List.drop_eq_nil_of_le
    rw [List.length_take, Text.encode_eq, Token.bytesOf_eq_length]
    omega
  change Except.ok (Text.textLossy (((Text.encode c.sql).take _).drop _), c) = _
  rw [hpart, Text.textLossy, Text.decodeLossy]

end GuestHost.Store
