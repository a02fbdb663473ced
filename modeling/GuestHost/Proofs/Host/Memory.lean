import GuestHost.Host.Memory
/-!
What reading and writing a program's memory mean byte by byte, and what it means that memory describes
buffers. Writing changes the range that it is given and nothing else.
-/
namespace GuestHost.Host.Memory

variable {m m' : Memory}

/-- The byte at an address, if that lies in the memory. -/
def byte? (m : Memory) (address : Nat) : Option UInt8 := m.bytes[address]?

theorem size_place (bytes : Array UInt8) (start : Nat) (new : List UInt8) :
    (place bytes start new).size = bytes.size := by
  induction new generalizing bytes start with
  | nil => rfl
  | cons b rest ih => rw [place, ih, Array.size_setIfInBounds]

/-- What is placed stands where it is placed, as far as there is memory. -/
theorem getElem?_place (bytes : Array UInt8) (start : Nat) (new : List UInt8) (a : Nat) :
    (place bytes start new)[a]? =
      if start ≤ a ∧ a < start + new.length ∧ a < bytes.size then new[a - start]? else bytes[a]? := by
  induction new generalizing bytes start with
  | nil =>
    have hnone : ¬(start ≤ a ∧ a < start + ([] : List UInt8).length ∧ a < bytes.size) := by
      rw [List.length_nil]
      omega
    rw [place, if_neg hnone]
  | cons b rest ih =>
    rw [place, ih, Array.size_setIfInBounds, Array.getElem?_setIfInBounds, List.length_cons]
    rcases Nat.lt_trichotomy a start with hlt | rfl | hgt
    · have hne : start ≠ a := by omega
      simp only [hne, if_false]
      rw [if_neg (by omega), if_neg (by omega)]
    · rw [if_neg (by omega), if_pos rfl]
      by_cases hin : a < bytes.size
      · simp [hin]
      · simp [hin]
    · have hne : start ≠ a := by omega
      have hindex : a - start = (a - (start + 1)) + 1 := by omega
      simp only [hne, if_false]
      rw [hindex, List.getElem?_cons_succ]
      by_cases hin : start + 1 ≤ a ∧ a < start + 1 + rest.length ∧ a < bytes.size
      · rw [if_pos hin, if_pos (by omega)]
      · rw [if_neg hin, if_neg (by omega)]

/-- A range is read if all of it lies in the memory. -/
theorem read?_eq_some_iff {start length : Nat} {bytes : List UInt8} :
    m.read? start length = some bytes ↔ start + length ≤ m.size ∧ bytes.length = length ∧
      ∀ i < length, m.byte? (start + i) = bytes[i]? := by
  have hsize : m.size = m.bytes.size := rfl
  have hextract : ∀ i, (m.bytes.extract start (start + length)).toList[i]? =
      if i < min (start + length) m.bytes.size - start then m.byte? (start + i) else none := by
    intro i
    rw [Array.getElem?_toList, Array.getElem?_extract, byte?]
  unfold read?
  by_cases hin : start + length ≤ m.size
  · have hmin : min (start + length) m.bytes.size - start = length := by omega
    rw [hmin] at hextract
    rw [if_pos hin, Option.some.injEq]
    constructor
    · rintro rfl
      refine ⟨hin, ?_, fun i hi => ?_⟩
      · rw [Array.length_toList, Array.size_extract]
        exact hmin
      · rw [hextract, if_pos hi]
    · rintro ⟨-, hlength, hbytes⟩
      refine List.ext_getElem? fun i => ?_
      rw [hextract]
      split
      · next hi => exact hbytes i hi
      · next hi => rw [List.getElem?_eq_none (by omega)]
  · rw [if_neg hin]
    exact iff_of_false nofun fun h => hin h.1

theorem isSome_write?_iff {start : Nat} {bytes : List UInt8} :
    (m.write? start bytes).isSome = true ↔ start + bytes.length ≤ m.size := by
  unfold write?
  split <;> simp [*]

/-- What is written can be read, and all other bytes are as they were. -/
theorem of_write? {start : Nat} {bytes : List UInt8} (h : m.write? start bytes = some m') :
    m'.size = m.size ∧ m'.read? start bytes.length = some bytes ∧
      ∀ a, a < start ∨ start + bytes.length ≤ a → m'.byte? a = m.byte? a := by
  unfold write? at h
  split at h
  · next hin =>
    cases h
    have hsize : (place m.bytes start bytes).size = m.bytes.size := size_place _ _ _
    have hfits := Nat.le_trans hin (Nat.le_of_eq hsize.symm)
    refine ⟨hsize, read?_eq_some_iff.mpr ⟨hfits, rfl, fun i hi => ?_⟩, fun a ha => ?_⟩
    · change (place m.bytes start bytes)[start + i]? = _
      change start + bytes.length ≤ m.bytes.size at hin
      rw [getElem?_place, if_pos (by omega), Nat.add_sub_cancel_left]
    · change (place m.bytes start bytes)[a]? = m.bytes[a]?
      rw [getElem?_place, if_neg (by omega)]
  · cases h

/-- The bytes of a word spell the number that is left of it in 32 bits. -/
theorem number_wordBytes (n : Nat) : number (wordBytes n) = n % UInt32.size := by
  have hshift : ∀ k, n >>> k = n / 2 ^ k := Nat.shiftRight_eq_div_pow n
  simp only [wordBytes, number, hshift, Nat.toUInt8_eq, UInt8.toNat_ofNat']
  change _ = n % 4294967296
  omega

/-- A buffer is described by where it lies and how long it is, in four bytes each. -/
def Describes (m : Memory) (address : Nat) (buffer : List UInt8) : Prop :=
  ∃ words, m.read? address 8 = some words ∧
    m.read? (number (words.take 4)) (number (words.drop 4)) = some buffer

/-- The buffers are described one after another from an address on. -/
def DescribesAll (m : Memory) (start : Nat) (buffers : List (List UInt8)) : Prop :=
  ∀ i buffer, buffers[i]? = some buffer → m.Describes (start + 8 * i) buffer

theorem describesAll_nil (m : Memory) (start : Nat) : m.DescribesAll start [] := nofun

theorem describesAll_cons_iff {start : Nat} {buffer : List UInt8} {rest : List (List UInt8)} :
    m.DescribesAll start (buffer :: rest) ↔
      m.Describes start buffer ∧ m.DescribesAll (start + 8) rest := by
  constructor
  · intro h
    refine ⟨h 0 buffer rfl, fun i b hb => ?_⟩
    have hnext : start + 8 + 8 * i = start + 8 * (i + 1) := by omega
    exact hnext ▸ h (i + 1) b hb
  · rintro ⟨hfirst, hrest⟩ i b hb
    cases i with
    | zero =>
      cases hb
      exact hfirst
    | succ i =>
      have hnext : start + 8 + 8 * i = start + 8 * (i + 1) := by omega
      exact hnext ▸ hrest i b hb

/-- What is gathered are the described buffers, in order. -/
theorem gather_eq_some_iff {count start : Nat} {bytes : List UInt8} :
    m.gather count start = some bytes ↔ ∃ buffers, buffers.length = count ∧
      m.DescribesAll start buffers ∧ bytes = buffers.flatten := by
  induction count generalizing start bytes with
  | zero =>
    constructor
    · rintro ⟨⟩
      exact ⟨[], rfl, m.describesAll_nil start, rfl⟩
    · rintro ⟨buffers, hlength, -, rfl⟩
      rw [List.length_eq_zero_iff.mp hlength]
      rfl
  | succ count ih =>
    simp only [gather, Option.bind_eq_bind, Option.bind_eq_some_iff, ih]
    constructor
    · rintro ⟨words, hwords, buffer, hbuffer, _, ⟨rest, hlength, hrest, rfl⟩, ⟨⟩⟩
      exact ⟨buffer :: rest, by rw [List.length_cons, hlength],
        describesAll_cons_iff.mpr ⟨⟨words, hwords, hbuffer⟩, hrest⟩, rfl⟩
    · rintro ⟨buffers, hlength, hall, rfl⟩
      cases buffers with
      | nil => cases hlength
      | cons buffer rest =>
        obtain ⟨⟨words, hwords, hbuffer⟩, hrest⟩ := describesAll_cons_iff.mp hall
        exact ⟨words, hwords, buffer, hbuffer, _, ⟨rest, Nat.succ.inj hlength, hrest, rfl⟩, rfl⟩

end GuestHost.Host.Memory
