import GuestHost.Proofs.Host.Crossing
import GuestHost.Proofs.Host.Memory
import GuestHost.Proofs.Text.Boundary
/-!
Texts on their way into the program's memory and back. A program has as much of a text written to its memory
as it makes room for. What is written there is whole characters, so it can be read as a text again; and a
write that cannot be done changes nothing.
-/
namespace GuestHost

namespace Host

open Host.Action Host.Call

theorem unsigned_natCast {n : Nat} (h : n < UInt32.size) : unsigned n = n := by
  rw [unsigned, ← Int.natCast_emod, Nat.mod_eq_of_lt h, Int.toNat_natCast]

/-- A pointer stands for the number that its bits spell without a sign. -/
theorem unsigned_toInt (pointer : Int32) : unsigned pointer.toInt = pointer.toUInt32.toNat := by
  have hword : pointer.toInt = Int.bmod pointer.toUInt32.toNat UInt32.size :=
    BitVec.toInt_eq_toNat_bmod pointer.toBitVec
  have hsame : unsigned pointer.toInt = unsigned pointer.toUInt32.toNat := by
    rw [unsigned, unsigned, hword, Int.bmod_emod]
  exact hsame.trans (unsigned_natCast pointer.toUInt32.toNat_lt)

/-- The bytes stand in memory from an address on, and no other byte is changed. -/
structure Memory.Overwritten (start : Nat) (bytes : List UInt8) (m m' : Memory) : Prop where
  size : m'.size = m.size
  range : m'.read? start bytes.length = some bytes
  others : ∀ a, a < start ∨ start + bytes.length ≤ a → m'.byte? a = m.byte? a

theorem Memory.overwritten_of_write? {m m' : Memory} {start : Nat} {bytes : List UInt8}
    (h : m.write? start bytes = some m') : Overwritten start bytes m m' := by
  obtain ⟨hsize, hrange, hothers⟩ := of_write? h
  exact ⟨hsize, hrange, hothers⟩

variable {β γ : Type} [Bridge β γ] {s s' : State β} {m m' : Memory} {text piece : String} {g : γ}

theorem runOn_memory_of_some (hm : s.memory = some m) (op : String) :
    runOn (Action.memory op) s = (.ok m, s) := by
  unfold Action.memory
  rw [runOn_bind_of_ok (runOn_get s), hm]
  rfl

theorem runOn_memory_of_none (hm : s.memory = none) (op : String) :
    runOn (Action.memory op) s = (.error (.noMemory op), s) := by
  unfold Action.memory
  rw [runOn_bind_of_ok (runOn_get s), hm]
  rfl

/-- The bytes of a text are read as that text. -/
theorem runOn_readText_of_encode {pointer n : Int} (hm : s.memory = some m)
    (h : m.read? (unsigned pointer) (unsigned n) = some (Text.encode piece)) (op : String) :
    runOn (readText op pointer n) s = (.ok piece, s) := by
  have hbytes : runOn (readBytes op pointer n) s = (.ok (Text.encode piece), s) := by
    unfold readBytes
    rw [runOn_bind_of_ok (runOn_memory_of_some hm op), h]
    rfl
  unfold readText
  rw [runOn_bind_of_ok hbytes, Text.decode?_encode]
  rfl

/-- What a call to write a text does, once the text and the memory are there. -/
theorem runOn_writeText (htext : textOf? s.bridge g = some text) (hm : s.memory = some m)
    (pointer capacity : Int) :
    runOn (Call.writeText g pointer capacity).perform s =
      match m.write? (unsigned pointer) (Text.encode (Text.utf8Prefix text capacity)) with
      | none => (.error (.writeOutside "str_write"), s)
      | some m' => (.ok (some (countWord (Text.utf8Prefix text capacity).utf8ByteSize)),
          { s with memory := some m' }) := by
  obtain ⟨-, -, hnone⟩ | ⟨text', hrun, hsome⟩ := runOn_text "str_write" g s
  · cases htext.symm.trans hnone
  · obtain rfl := Option.some.inj (htext.symm.trans hsome)
    change runOn (performText (.writeText g pointer capacity)) s = _
    rw [performText, runOn_bind_of_ok hrun, runOn_bind_of_ok (runOn_memory_of_some hm _),
      Text.length_encode]
    cases m.write? (unsigned pointer) (Text.encode (Text.utf8Prefix text capacity)) <;> rfl

/-- A call to write a text changes nothing, or it writes what fits of the text. -/
theorem runOn_writeText_cases (s : State β) (g : γ) (pointer capacity : Int) :
    (∃ t, runOn (Call.writeText g pointer capacity).perform s = (.error t, s)) ∨
      ∃ text m m', textOf? s.bridge g = some text ∧ s.memory = some m ∧
        m.write? (unsigned pointer) (Text.encode (Text.utf8Prefix text capacity)) = some m' ∧
        runOn (Call.writeText g pointer capacity).perform s =
          (.ok (some (countWord (Text.utf8Prefix text capacity).utf8ByteSize)),
            { s with memory := some m' }) := by
  obtain ⟨t, hrun, -⟩ | ⟨text, hrun, htext⟩ := runOn_text "str_write" g s
  · exact .inl ⟨t, runOn_bind_of_error hrun⟩
  · cases hm : s.memory with
    | none =>
      refine .inl ⟨.noMemory "str_write", ?_⟩
      change runOn (performText (.writeText g pointer capacity)) s = _
      rw [performText, runOn_bind_of_ok hrun, runOn_bind_of_error (runOn_memory_of_none hm _)]
    | some m =>
      have hcall := runOn_writeText htext hm pointer capacity
      cases hwrite : m.write? (unsigned pointer) (Text.encode (Text.utf8Prefix text capacity)) with
      | none => exact .inl ⟨.writeOutside "str_write", by rw [hcall, hwrite]⟩
      | some m' => exact .inr ⟨text, m, m', htext, rfl, hwrite, by rw [hcall, hwrite]⟩

/-- A call that makes a reference of a text in memory answers as copying that text in does. -/
theorem runOn_text_of_readText {pointer n : Int}
    (h : runOn (readText "str_from_utf8" pointer n) s = (.ok piece, s)) :
    runOn (Call.text pointer n : Call γ).perform s =
      match Bridge.toGuest s.bridge (.string piece) with
      | (.error e, b) => (.error (.bridge "str_from_utf8" e), { s with bridge := b })
      | (.ok g, b) => (.ok (some (.guest g)), { s with bridge := b }) := by
  change runOn (performText (.text pointer n)) s = _
  rw [performText, runOn_bind_of_ok h, runOn_bind, toGuest, runOn_made]
  rcases Bridge.toGuest s.bridge (.string piece) with ⟨e | g, b⟩ <;> rfl

/-- The program can be given one more text. -/
def TakesText (b : β) (text : String) : Prop :=
  ∃ g, (Bridge.toGuest b (.string text)).1 = .ok g ∧
    Bridge.toHost (Bridge.toGuest b (.string text)).2 g = .ok (.string text)

theorem gives_text_iff {pointer n : Int}
    (h : runOn (readText "str_from_utf8" pointer n) s = (.ok piece, s)) :
    Gives (.text pointer n) s [] (.string piece) ↔ TakesText s.bridge piece := by
  have hcall := runOn_text_of_readText h
  unfold TakesText
  rcases hr : Bridge.toGuest s.bridge (.string piece) with ⟨e | g, b⟩ <;> rw [hr] at hcall
  · refine iff_of_false ?_ nofun
    rintro ⟨g, b', hrun, -⟩
    cases hcall.symm.trans hrun
  · constructor
    · rintro ⟨g', b', hrun, hread, -⟩
      cases hcall.symm.trans hrun
      exact ⟨g, rfl, hread⟩
    · rintro ⟨g', hg, hread⟩
      cases hg
      exact ⟨g, b, hcall, hread, nofun⟩

/-- A piece of a text, `n` bytes long, has been put where the pointer points, and is read from there. The call
that makes a reference of it succeeds just if there is room for one. -/
structure Delivered (room : Prop) (piece : String) (pointer : Int32) (n : Int) (s s' : State β) :
    Prop where
  count : n = piece.utf8ByteSize
  memory : ∃ m m', s.memory = some m ∧ s' = { s with memory := some m' } ∧
    m.Overwritten pointer.toUInt32.toNat (Text.encode piece) m'
  read : runOn (readText "str_from_utf8" pointer.toInt n) s' = (.ok piece, s')
  returns : room ↔ Gives (.text pointer.toInt n) s' [] (.string piece)

theorem delivered_of_write? {room : Prop} {pointer : Int32} (hroom : room ↔ TakesText s.bridge piece)
    (hm : s.memory = some m) (hshort : piece.utf8ByteSize < UInt32.size)
    (hwrite : m.write? (unsigned pointer.toInt) (Text.encode piece) = some m') :
    Delivered room piece pointer piece.utf8ByteSize s { s with memory := some m' } := by
  have hover := Memory.overwritten_of_write? hwrite
  have hread : runOn (readText "str_from_utf8" pointer.toInt piece.utf8ByteSize)
      { s with memory := some m' } = (.ok piece, { s with memory := some m' }) := by
    refine runOn_readText_of_encode (m := m') rfl ?_ _
    rw [unsigned_natCast hshort, ← Text.length_encode]
    exact hover.range
  refine ⟨rfl, ⟨m, m', hm, rfl, ?_⟩, hread, hroom.trans (gives_text_iff hread).symm⟩
  rw [← unsigned_toInt]
  exact hover

/-- What a call to write a text comes to. -/
structure CopiesOut (room : Prop) (s : State β) (g : γ) (pointer capacity : Int32) : Prop where
  /-- If it stops the program, everything is as it was. -/
  stops : ∀ t s', runOn (Call.writeText g pointer.toInt capacity.toInt).perform s = (.error t, s') →
    s' = s
  /-- If it is answered, the program has what fits of a text, and the number of its bytes. -/
  answers : ∀ r s', runOn (Call.writeText g pointer.toInt capacity.toInt).perform s = (.ok r, s') →
    ∃ text n, textOf? s.bridge g = some text ∧ r = some (.word n) ∧
      Delivered room (Text.utf8Prefix text capacity.toInt) pointer n s s'
  /-- It is answered if there is a text, and a place in memory for as much of it as is asked for. -/
  fits : ∀ text m, textOf? s.bridge g = some text → s.memory = some m →
    pointer.toUInt32.toNat + (Text.utf8Prefix text capacity.toInt).utf8ByteSize ≤ m.size →
    ∃ r s', runOn (Call.writeText g pointer.toInt capacity.toInt).perform s = (.ok r, s')

theorem copiesOut_of_takesText {room : Prop} (hroom : ∀ text, room ↔ TakesText s.bridge text)
    (g : γ) (pointer capacity : Int32) : CopiesOut room s g pointer capacity where
  stops t s' hrun := by
    obtain ⟨t', hstop⟩ | ⟨text, m, m', -, -, -, hok⟩ :=
      runOn_writeText_cases s g pointer.toInt capacity.toInt
    · exact (congrArg Prod.snd (hstop.symm.trans hrun)).symm
    · cases hok.symm.trans hrun
  answers r s' hrun := by
    obtain ⟨t', hstop⟩ | ⟨text, m, m', htext, hm, hwrite, hok⟩ :=
      runOn_writeText_cases s g pointer.toInt capacity.toInt
    · cases hstop.symm.trans hrun
    · have hlt : capacity.toInt < 2 ^ 31 := capacity.toInt_lt
      have hfits := (Text.longestWithin_utf8Prefix text capacity.toInt).fits
      have hmax : (Text.utf8Prefix text capacity.toInt).utf8ByteSize ≤ 0x7FFFFFFF := by omega
      have hshort : (Text.utf8Prefix text capacity.toInt).utf8ByteSize < UInt32.size :=
        Nat.lt_of_le_of_lt hmax (by decide)
      cases hok.symm.trans hrun
      refine ⟨text, _, htext, ?_, delivered_of_write? (hroom _) hm hshort hwrite⟩
      rw [countWord, Nat.min_eq_left hmax]
  fits text m htext hm hplace := by
    rw [← unsigned_toInt, ← Text.length_encode] at hplace
    obtain ⟨m', hwrite⟩ := Option.isSome_iff_exists.mp (Memory.isSome_write?_iff.mpr hplace)
    exact ⟨_, _, by rw [runOn_writeText htext hm, hwrite]⟩

end Host

namespace HandleTable

theorem takesText_iff {t : HandleTable} (text : String) :
    t.size < capacity ↔ Host.TakesText t text := by
  have hsize : t.size = t.slots.size := rfl
  have halloc : Bridge.toGuest t (.string text) = t.push (.string text) := rfl
  rw [Host.TakesText, halloc, hsize]
  constructor
  · intro hroom
    have hslot := slot?_push_size (s := .string text) hroom
    refine ⟨t.slots.size, ?_, ?_⟩
    · rw [push, if_pos hroom]
    · change (t.push (.string text)).2.readAt (maxDepth + 1) t.slots.size = _
      rw [readAt, slot_eq_ok_iff.mpr hslot]
      rfl
  · rintro ⟨g, hg, -⟩
    by_contra hfull
    rw [push, if_neg hfull] at hg
    cases hg

end HandleTable

theorem NodeHeap.takesText (b : NodeHeap) (text : String) : Host.TakesText b text :=
  ⟨.node (.string text), rfl, rfl⟩

open Host Host.Action

/-- A text is cut by a search that steps back to the end of the longest beginning that fits, and not at all
if all of it fits. Under both encodings, whatever the pointer and the room that a program names, a call to
write a text then leaves just that in memory, from where it is read as a text again, or it changes nothing.
Making a reference of what is read fails only if a table of handles is full. -/
theorem texts_copied_out :
    (∀ (text : String) (room : Int),
      Text.LongestWithin text room.toNat (Text.utf8Prefix text room) ∧
      (room.toNat < text.utf8ByteSize →
        Text.SearchesBack text room.toNat (Text.utf8Prefix text room).utf8ByteSize) ∧
      (text.utf8ByteSize ≤ room → Text.utf8Prefix text room = text)) ∧
    (∀ (s : State HandleTable) g pointer capacity,
      CopiesOut (s.bridge.size < HandleTable.capacity) s g pointer capacity) ∧
    ∀ (s : State NodeHeap) g pointer capacity, CopiesOut True s g pointer capacity := by
  refine ⟨fun text room => ?_, fun s => ?_, fun s => ?_⟩
  · have hlongest := Text.longestWithin_utf8Prefix text room
    refine ⟨hlongest, Text.searchesBack_utf8Prefix, fun hfits => hlongest.eq_self ?_⟩
    omega
  · exact copiesOut_of_takesText fun text => HandleTable.takesText_iff text
  · exact copiesOut_of_takesText fun text => iff_of_true trivial (s.bridge.takesText text)

/-- Two bytes of the text `aé` end in the middle of its second character: the program gets the first one, and
has it back as a text. -/
theorem broken_character_left_out :
    let s : State HandleTable := { givenText "aé" with memory := some ⟨#[0, 0, 0, 0]⟩ }
    ∃ s', runOn (Call.writeText 2 1 2 : Call Handle).perform s = (.ok (some (.word 1)), s') ∧
      runOn (readText "str_from_utf8" 1 1) s' = (.ok "a", s') ∧
      Gives (.text 1 1) s' [] (.string "a") := by
  intro s
  obtain ⟨-, htable, -⟩ := texts_copied_out
  have hcopies := htable s 2 1 2
  obtain ⟨r, s', hrun⟩ := hcopies.fits "aé" _ rfl rfl (by decide)
  obtain ⟨text, n, htext, rfl, hdelivered⟩ := hcopies.answers r s' hrun
  obtain rfl : "aé" = text := Option.some.inj htext
  have hcut : Text.utf8Prefix "aé" (2 : Int32).toInt = "a" := by decide
  rw [hcut] at hdelivered
  obtain rfl : n = 1 := hdelivered.count.trans (by decide)
  exact ⟨s', hrun, hdelivered.read, hdelivered.returns.mp (by decide)⟩

end GuestHost
