import GuestHost.Proofs.Outcome
import GuestHost.Value.Builtin
import Mathlib.Data.Int.Range
/-!
Arrays of consecutive integers. Which bounds have an array and which are refused is a matter of their true
distance; and no word overflows on the way to the answer, except in a difference that is refused for it.
-/
namespace GuestHost.Builtin

/-- How far it is from the first word to the last. -/
def distance (first last : Int64) : Int := last.toInt - first.toInt

/-- The words from `first` on, as many as asked for. -/
def consecutive (first : Int64) (n : Nat) : List Int64 :=
  (List.range n).map fun i : Nat => Int64.ofInt (first.toInt + i)

/-- The length that a refusal reports: the distance if it is a word, otherwise the greatest unsigned one. -/
def reportedLength (first last : Int64) : Nat :=
  if distance first last < 2 ^ 63 then (distance first last).toNat else UInt64.size - 1

section

variable {first last : Int64}

@[simp] theorem consecutive_eq_nil_iff {n : Nat} : consecutive first n = [] ↔ n = 0 := by
  simp [consecutive]

/-- Up to the last integer no word wraps around. -/
theorem toInt_consecutive (first last : Int64) :
    (consecutive first (distance first last).toNat).map Int64.toInt =
      Int.range first.toInt last.toInt := by
  have hlow := first.le_toInt
  have hhigh := last.toInt_lt
  unfold consecutive Int.range distance
  rw [List.map_map]
  apply List.map_congr_left
  intro i hi
  rw [List.mem_range] at hi
  exact Int64.toInt_ofInt_of_le (by omega) (by omega)

theorem arrayLength_eq {op : String} {n : Int64} (hn : 0 ≤ n.toInt) :
    arrayLength op n =
      if n.toInt ≤ 2 ^ 24 then .ok n.toInt.toNat else .error (.tooLarge op n.toInt.toNat) := by
  have hlimit : maxArrayLength = 2 ^ 24 := by decide
  unfold arrayLength
  rw [if_neg (by omega), hlimit]
  split <;> split <;> first | rfl | omega

/-- Bounds in the wrong order, or the same ones. -/
theorem range_of_distance_le (h : distance first last ≤ 0) : range first last = .ok (.array []) := by
  unfold distance at h
  unfold range
  exact if_pos (by omega)

/-- A distance is asked for as a length, unless it is no word. -/
theorem range_of_lt (hpos : 0 < distance first last) :
    range first last =
      if 2 ^ 63 ≤ distance first last then .error (.tooLarge "arr_range" (UInt64.size - 1))
      else (arrayLength "arr_range" (Int64.ofInt (distance first last))).map fun n =>
        .array ((consecutive first n).map .integer) := by
  have hmax : Int64.maxValue.toInt = 2 ^ 63 - 1 := by decide
  have horder : ¬last.toInt ≤ first.toInt := by
    unfold distance at hpos
    omega
  have hequation : range first last =
      if Int64.maxValue.toInt < distance first last then .error (.tooLarge "arr_range" (UInt64.size - 1))
      else do
        let n ← arrayLength "arr_range" (Int64.ofInt (distance first last))
        return .array ((List.range n).map fun i : Nat => .integer (Int64.ofInt (first.toInt + i))) :=
    if_neg horder
  rw [hequation]
  split
  · rw [if_pos (by omega)]
  · rw [if_neg (by omega)]
    cases arrayLength "arr_range" (Int64.ofInt (distance first last)) with
    | error e => rfl
    | ok n => simp [consecutive, Except.map, pure, Except.pure]

theorem arrayLength_distance (hpos : 0 < distance first last) (h : distance first last < 2 ^ 63) :
    arrayLength "arr_range" (Int64.ofInt (distance first last)) =
      if distance first last ≤ 2 ^ 24 then .ok (distance first last).toNat
      else .error (.tooLarge "arr_range" (distance first last).toNat) := by
  have hspan : (Int64.ofInt (distance first last)).toInt = distance first last :=
    Int64.toInt_ofInt_of_le (by omega) h
  rw [arrayLength_eq (by omega), hspan]

theorem range_of_near (h : distance first last ≤ 2 ^ 24) :
    range first last =
      .ok (.array ((consecutive first (distance first last).toNat).map .integer)) := by
  by_cases hnone : distance first last ≤ 0
  · rw [range_of_distance_le hnone, Int.toNat_of_nonpos hnone]
    rfl
  · have hpos := not_le.mp hnone
    rw [range_of_lt hpos, if_neg (by omega), arrayLength_distance hpos (by omega), if_pos h]
    rfl

theorem range_of_far (h : 2 ^ 24 < distance first last) :
    range first last = .error (.tooLarge "arr_range" (reportedLength first last)) := by
  have hpos : 0 < distance first last := by omega
  unfold reportedLength
  rw [range_of_lt hpos]
  split
  · rw [if_neg (by omega)]
  · rw [arrayLength_distance hpos (by omega), if_neg (by omega), if_pos (by omega)]
    rfl

theorem range_eq_ok_iff {v : Value} :
    range first last = .ok v ↔ distance first last ≤ 2 ^ 24 ∧
      v = .array ((consecutive first (distance first last).toNat).map .integer) := by
  constructor
  · intro h
    by_cases hnear : distance first last ≤ 2 ^ 24
    · rw [range_of_near hnear] at h
      cases h
      exact ⟨hnear, rfl⟩
    · rw [range_of_far (not_le.mp hnear)] at h
      cases h
  · rintro ⟨hnear, rfl⟩
    exact range_of_near hnear

theorem range_eq_error_iff {e : Error} :
    range first last = .error e ↔ 2 ^ 24 < distance first last ∧
      e = .tooLarge "arr_range" (reportedLength first last) := by
  constructor
  · intro h
    by_cases hnear : distance first last ≤ 2 ^ 24
    · rw [range_of_near hnear] at h
      cases h
    · rw [range_of_far (not_le.mp hnear)] at h
      cases h
      exact ⟨not_le.mp hnear, rfl⟩
  · rintro ⟨hfar, rfl⟩
    exact range_of_far hfar

end

/-! ### Counting on words -/

/-- The difference of two words, if it is one. -/
def differenceWord? (a b : Int64) : Option Int64 :=
  if a.toBitVec.ssubOverflow b.toBitVec then none else some (a - b)

/-- The next word, if there is one. -/
def nextWord? (n : Int64) : Option Int64 :=
  if n.toBitVec.saddOverflow 1 then none else some (n + 1)

/-- A number of words in a row, each made from the one before it. -/
def countWords? : Nat → Int64 → Option (List Int64)
  | 0, _ => some []
  | k + 1, n => do
    let next ← nextWord? n
    let rest ← countWords? k next
    return n :: rest

/-- The integers from `first` up to, but not including, `last`, made from words alone. There is no outcome
if a word overflows while they are counted. -/
def wordRange? (first last : Int64) : Option (Except Error Value) :=
  if last ≤ first then some (.ok (.array []))
  else
    match differenceWord? last first with
    | none => some (.error (.tooLarge "arr_range" (UInt64.size - 1)))
    | some span =>
      match arrayLength "arr_range" span with
      | .error e => some (.error e)
      | .ok n => (countWords? n first).map fun ns => .ok (.array (ns.map .integer))

section

variable {first last : Int64}

/-- A difference is a word just if the true one fits, and then it is the true one. -/
theorem differenceWord?_eq (hpos : 0 < distance first last) :
    differenceWord? last first =
      if distance first last < 2 ^ 63 then some (Int64.ofInt (distance first last)) else none := by
  have hoverflow : last.toBitVec.ssubOverflow first.toBitVec = true ↔ ¬distance first last < 2 ^ 63 := by
    unfold distance at hpos
    simp [BitVec.ssubOverflow, distance]
    omega
  unfold differenceWord?
  split
  · next hover => rw [if_neg (hoverflow.mp hover)]
  · next hover =>
    have hfits : distance first last < 2 ^ 63 := by
      by_contra hlong
      exact hover (hoverflow.mpr hlong)
    rw [if_pos hfits, Option.some_inj]
    apply Int64.toInt_inj.mp
    rw [Int64.toInt_ofInt_of_le (by omega) hfits]
    exact BitVec.toInt_sub_of_not_ssubOverflow hover

theorem nextWord?_eq {n : Int64} (h : n.toInt + 1 < 2 ^ 63) :
    nextWord? n = some (Int64.ofInt (n.toInt + 1)) := by
  have hlow := n.le_toInt
  have hone : (1 : BitVec 64).toInt = 1 := by decide
  have hover : ¬n.toBitVec.saddOverflow 1 = true := by
    simp [BitVec.saddOverflow]
    omega
  unfold nextWord?
  rw [if_neg hover, Option.some_inj]
  apply Int64.toInt_inj.mp
  rw [Int64.toInt_ofInt_of_le (by omega) h]
  exact BitVec.toInt_add_of_not_saddOverflow hover

/-- The word behind the last one is made too, so there has to be room for it. -/
theorem countWords?_eq {k : Nat} {n : Int64} (h : n.toInt + k < 2 ^ 63) :
    countWords? k n = some (consecutive n k) := by
  induction k generalizing n with
  | zero => rfl
  | succ k ih =>
    have hlow := n.le_toInt
    have hnext : (Int64.ofInt (n.toInt + 1)).toInt = n.toInt + 1 :=
      Int64.toInt_ofInt_of_le (by omega) (by omega)
    have hrest : consecutive n (k + 1) = n :: consecutive (Int64.ofInt (n.toInt + 1)) k := by
      unfold consecutive
      rw [List.range_succ_eq_map, List.map_cons, List.map_map, hnext]
      congr 1
      · simp
      · apply List.map_congr_left
        intro i _
        simp only [Function.comp_apply]
        congr 1
        omega
    rw [countWords?, nextWord?_eq (by omega), hrest]
    simp only [Option.bind_eq_bind, Option.bind_some]
    rw [ih (by omega)]
    rfl

/-- No word overflows on the way to the answer. -/
theorem wordRange?_eq (first last : Int64) : wordRange? first last = some (range first last) := by
  unfold wordRange?
  split
  · next horder =>
    have hle := Int64.le_iff_toInt_le.mp horder
    rw [range_of_distance_le (by unfold distance; omega)]
  · next horder =>
    have hpos : 0 < distance first last := by
      rw [Int64.le_iff_toInt_le] at horder
      unfold distance
      omega
    have hdifference := differenceWord?_eq hpos
    by_cases hword : distance first last < 2 ^ 63
    · rw [if_pos hword] at hdifference
      simp only [hdifference, arrayLength_distance hpos hword]
      by_cases hnear : distance first last ≤ 2 ^ 24
      · -- The word behind the last one counted is `last` itself.
        have hroom : first.toInt + ((distance first last).toNat : Int) < 2 ^ 63 := by
          have hlast := last.toInt_lt
          unfold distance at hpos ⊢
          omega
        simp only [if_pos hnear, countWords?_eq hroom, range_of_near hnear]
        rfl
      · have hreported : reportedLength first last = (distance first last).toNat := if_pos hword
        simp only [if_neg hnear, range_of_far (not_le.mp hnear), hreported]
    · rw [if_neg hword] at hdifference
      have hreported : reportedLength first last = UInt64.size - 1 := if_neg hword
      simp only [hdifference, range_of_far (show 2 ^ 24 < distance first last by omega), hreported]

/-- Over all bounds: the array is empty just where the last integer is not behind the first; it has all the
integers from the first up to, but not including, the last just where their distance is at most 2^24; and
every greater distance is refused, with itself as the length if it is a word and with the greatest
unsigned word otherwise. Counting in words gives the same, so none of them overflows. -/
theorem range_by_distance (first last : Int64) :
    (range first last = .ok (.array []) ↔ last.toInt ≤ first.toInt) ∧
      ((∃ ns : List Int64, ns ≠ [] ∧ ns.map Int64.toInt = Int.range first.toInt last.toInt ∧
          range first last = .ok (.array (ns.map .integer))) ↔
        0 < distance first last ∧ distance first last ≤ 2 ^ 24) ∧
      (∀ e, range first last = .error e ↔ 2 ^ 24 < distance first last ∧
        e = .tooLarge "arr_range" (reportedLength first last)) ∧
      wordRange? first last = some (range first last) := by
  have horder : last.toInt ≤ first.toInt ↔ distance first last ≤ 0 := by
    unfold distance
    omega
  have hinjective : Function.Injective (List.map Value.integer) :=
    List.map_injective_iff.mpr fun a b h => Value.integer.inj h
  have hall := toInt_consecutive first last
  refine ⟨?_, ⟨?_, ?_⟩, fun e => range_eq_error_iff, wordRange?_eq first last⟩
  · simp only [range_eq_ok_iff, horder, Value.array.injEq, List.nil_eq, List.map_eq_nil_iff,
      consecutive_eq_nil_iff, Int.toNat_eq_zero]
    omega
  · rintro ⟨ns, hne, -, hrange⟩
    obtain ⟨hnear, heq⟩ := range_eq_ok_iff.mp hrange
    obtain rfl : ns = consecutive first (distance first last).toNat :=
      hinjective (Value.array.inj heq)
    rw [Ne, consecutive_eq_nil_iff] at hne
    omega
  · rintro ⟨hpos, hnear⟩
    refine ⟨consecutive first (distance first last).toNat, ?_, hall, ?_⟩
    · rw [Ne, consecutive_eq_nil_iff]
      omega
    · exact range_eq_ok_iff.mpr ⟨hnear, rfl⟩

/-- The distance between the extremes is no word. -/
example : range Int64.minValue Int64.maxValue = .error (.tooLarge "arr_range" (UInt64.size - 1)) := rfl

end

end GuestHost.Builtin
