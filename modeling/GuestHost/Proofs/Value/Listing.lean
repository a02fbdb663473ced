import GuestHost.Value.Members
import Mathlib.Data.List.Induction
/-!
What an object shows of everything that was ever set in it: every name once, where it came first, with
the value that it was given last.
-/
namespace GuestHost.Members

variable {α β : Type}

/-- The names that were set, in order of their first time. -/
def firstNames (sets : List (String × α)) : List String := (sets.map Prod.fst).eraseDups

/-- What a name was set to last. -/
def last? (key : String) (sets : List (String × α)) : Option α :=
  (sets.reverse.find? fun p => p.1 = key).map Prod.snd

def listing (sets : List (String × α)) : Members α :=
  (firstNames sets).filterMap fun key => (last? key sets).map fun a => (key, a)

theorem firstNames_append (sets : List (String × α)) (key : String) (a : α) :
    firstNames (sets ++ [(key, a)]) =
      if key ∈ firstNames sets then firstNames sets else firstNames sets ++ [key] := by
  unfold firstNames
  rw [List.map_append, List.eraseDups_append]
  by_cases h : key ∈ sets.map Prod.fst
  · have hr : [key].removeAll (sets.map Prod.fst) = [] := by simp [List.removeAll, h]
    simp [hr, List.mem_eraseDups, h]
  · have hr : [key].removeAll (sets.map Prod.fst) = [key] := by simp [List.removeAll, h]
    simp only [List.map_cons, List.map_nil, hr, List.mem_eraseDups, h, if_false]
    rfl

theorem last?_append (key other : String) (a : α) (sets : List (String × α)) :
    last? other (sets ++ [(key, a)]) = if key = other then some a else last? other sets := by
  unfold last?
  rw [List.reverse_append, List.reverse_cons, List.reverse_nil, List.nil_append,
    List.singleton_append, List.find?_cons]
  by_cases h : key = other <;> simp [h]

theorem get?_eq_none {key : String} {m : Members α} (h : key ∉ keys m) : get? key m = none := by
  induction m with
  | nil => rfl
  | cons p rest ih =>
    obtain ⟨k, a⟩ := p
    simp only [keys, List.map_cons, List.mem_cons, not_or] at h
    rw [get?, if_neg (Ne.symm h.1)]
    exact ih h.2

theorem exists_get? {key : String} {m : Members α} (h : key ∈ keys m) : ∃ a, get? key m = some a := by
  induction m with
  | nil => cases h
  | cons p rest ih =>
    obtain ⟨k, b⟩ := p
    rw [get?]
    by_cases hk : k = key
    · exact ⟨b, if_pos hk⟩
    · rw [if_neg hk]
      exact ih ((List.mem_cons.mp h).resolve_left (Ne.symm hk))

theorem get?_of_mem {m : Members α} (hnodup : (keys m).Nodup) {e : String × α} (h : e ∈ m) :
    get? e.1 m = some e.2 := by
  induction m with
  | nil => cases h
  | cons p rest ih =>
    obtain ⟨hfresh, hrest⟩ := List.nodup_cons.mp hnodup
    rw [get?]
    rcases List.mem_cons.mp h with rfl | hmem
    · exact if_pos rfl
    · have hne : p.1 ≠ e.1 := fun heq => hfresh (heq ▸ List.mem_map_of_mem hmem)
      rw [if_neg hne, ih hrest hmem]

/-- A map with no name twice is known by its names and what they are bound to. -/
theorem eq_of_keys_of_get? {m m' : Members α} (hnodup : (keys m).Nodup) (hkeys : keys m = keys m')
    (hget : ∀ key, get? key m = get? key m') : m = m' := by
  induction m generalizing m' with
  | nil =>
    cases m' with
    | nil => rfl
    | cons q rest' => simp [keys] at hkeys
  | cons p rest ih =>
    obtain ⟨k, a⟩ := p
    cases m' with
    | nil => simp [keys] at hkeys
    | cons q rest' =>
      obtain ⟨k', a'⟩ := q
      simp only [keys, List.map_cons, List.cons.injEq, List.nodup_cons] at hkeys hnodup
      obtain ⟨rfl, hkeys⟩ := hkeys
      have ha : a = a' := by simpa [get?] using hget k
      have hrest : rest = rest' := by
        refine ih hnodup.2 hkeys fun key => ?_
        by_cases hk : k = key
        · subst hk
          have hk' : k ∉ keys rest' := by
            rw [keys, ← hkeys]
            exact hnodup.1
          rw [get?_eq_none hnodup.1, get?_eq_none hk']
        · simpa [get?, hk] using hget key
      rw [ha, hrest]

theorem mem_firstNames {key : String} {sets : List (String × α)} :
    key ∈ firstNames sets ↔ key ∈ sets.map Prod.fst := List.mem_eraseDups

theorem isSome_last? {key : String} {sets : List (String × α)} (h : key ∈ firstNames sets) :
    (last? key sets).isSome := by
  obtain ⟨p, hp, rfl⟩ := List.mem_map.mp (mem_firstNames.mp h)
  rw [last?, Option.isSome_map, List.find?_isSome]
  exact ⟨p, List.mem_reverse.mpr hp, by simp⟩

theorem last?_eq_none {key : String} {sets : List (String × α)} (h : key ∉ firstNames sets) :
    last? key sets = none := by
  rw [last?, Option.map_eq_none_iff, List.find?_eq_none]
  intro p hp hk
  refine h (mem_firstNames.mpr (List.mem_map.mpr ⟨p, List.mem_reverse.mp hp, ?_⟩))
  simpa using hk

theorem nodup_firstNames (sets : List (String × α)) : (firstNames sets).Nodup := by
  induction sets using List.reverseRecOn with
  | nil => exact List.nodup_nil
  | append_singleton sets p ih =>
    obtain ⟨key, a⟩ := p
    rw [firstNames_append]
    split
    · exact ih
    · next h =>
      refine List.nodup_append.mpr ⟨ih, by simp, ?_⟩
      intro x hx y hy hxy
      rw [List.mem_singleton] at hy
      exact h (hy ▸ hxy ▸ hx)

private theorem keys_filterMap {f : String → Option α} {names : List String}
    (h : ∀ key ∈ names, (f key).isSome) :
    keys (names.filterMap fun key => (f key).map fun a => (key, a)) = names := by
  induction names with
  | nil => rfl
  | cons key rest ih =>
    obtain ⟨hkey, hrest⟩ := List.forall_mem_cons.mp h
    obtain ⟨a, ha⟩ := Option.isSome_iff_exists.mp hkey
    rw [List.filterMap_cons_some (b := (key, a)) (by simp [ha])]
    exact congrArg (key :: ·) (ih hrest)

private theorem get?_filterMap (f : String → Option α) (key : String) (names : List String) :
    get? key (names.filterMap fun key => (f key).map fun a => (key, a)) =
      if key ∈ names then f key else none := by
  induction names with
  | nil => rfl
  | cons k rest ih =>
    cases ha : f k with
    | none =>
      rw [List.filterMap_cons_none (by simp [ha]), ih]
      by_cases hk : key = k
      · subst hk
        simp [ha]
      · simp [hk]
    | some a =>
      rw [List.filterMap_cons_some (b := (k, a)) (by simp [ha]), get?]
      by_cases hk : k = key
      · subst hk
        simp [ha]
      · simp [hk, Ne.symm hk, ih]

/-- The names of a listing are the names that were set, in order of their first time. -/
theorem keys_listing (sets : List (String × α)) : keys (listing sets) = firstNames sets :=
  keys_filterMap fun _ hkey => isSome_last? hkey

/-- A listing binds every name to what it was set to last. -/
theorem get?_listing (key : String) (sets : List (String × α)) :
    get? key (listing sets) = last? key sets := by
  rw [listing, get?_filterMap]
  split
  · rfl
  · next h => exact (last?_eq_none h).symm

theorem nodup_keys_listing (sets : List (String × α)) : (keys (listing sets)).Nodup := by
  rw [keys_listing]
  exact nodup_firstNames sets

@[simp] theorem listing_nil : listing ([] : List (String × α)) = [] := rfl

/-- Setting a name once more changes a listing as it changes a map. -/
theorem listing_append (sets : List (String × α)) (key : String) (a : α) :
    listing (sets ++ [(key, a)]) = set key a (listing sets) := by
  refine eq_of_keys_of_get? (nodup_keys_listing _) ?_ fun other => ?_
  · rw [keys_set, keys_listing, keys_listing, firstNames_append]
  · rw [get?_listing, last?_append]
    by_cases h : key = other
    · subst h
      rw [if_pos rfl, get?_set_self]
    · rw [if_neg h, get?_set_of_ne (Ne.symm h), get?_listing]

theorem set_of_notMem {key : String} {m : Members α} (h : key ∉ keys m) (a : α) :
    set key a m = m ++ [(key, a)] := by
  induction m with
  | nil => rfl
  | cons p rest ih =>
    obtain ⟨k, b⟩ := p
    simp only [keys, List.map_cons, List.mem_cons, not_or] at h
    rw [set, if_neg (Ne.symm h.1), ih h.2]
    rfl

/-- Setting pairs one after the other makes their listing. -/
theorem ofPairs_eq_listing (pairs : List (String × α)) : ofPairs pairs = listing pairs := by
  induction pairs using List.reverseRecOn with
  | nil => rfl
  | append_singleton pairs p ih =>
    rw [listing_append, ← ih, ofPairs, overlay, List.foldl_append]
    rfl

/-- Pairs with no name twice are their own listing. -/
theorem listing_of_nodup {m : Members α} (h : (keys m).Nodup) : listing m = m := by
  induction m using List.reverseRecOn with
  | nil => rfl
  | append_singleton m p ih =>
    obtain ⟨key, a⟩ := p
    rw [keys, List.map_append, List.nodup_append] at h
    obtain ⟨hm, -, hne⟩ := h
    have hkey : key ∉ keys m := fun hmem => hne key hmem key (by simp) rfl
    rw [listing_append, ih hm, set_of_notMem hkey]

/-! Sets behind other sets. -/

theorem firstNames_append_sets (sets more : List (String × α)) :
    firstNames (sets ++ more) =
      firstNames sets ++ firstNames (more.filter fun p => p.1 ∉ firstNames sets) := by
  have hmem : ∀ key, key ∈ sets.map Prod.fst ↔ key ∈ firstNames sets := fun key => mem_firstNames.symm
  have hothers : (more.map Prod.fst).removeAll (sets.map Prod.fst) =
      (more.filter fun p => p.1 ∉ firstNames sets).map Prod.fst := by
    simp [List.removeAll, List.filter_map, Function.comp_def, hmem]
  rw [firstNames, List.map_append, List.eraseDups_append, hothers, firstNames, firstNames]

/-- What was set later counts. -/
theorem last?_append_sets (key : String) (sets more : List (String × α)) :
    last? key (sets ++ more) = (last? key more).or (last? key sets) := by
  rw [last?, List.reverse_append, List.find?_append, Option.map_or, last?, last?]

theorem firstNames_map (f : α → β) (sets : List (String × α)) :
    firstNames (sets.map fun p => (p.1, f p.2)) = firstNames sets := by
  simp [firstNames, Function.comp_def]

theorem last?_map (f : α → β) (key : String) (sets : List (String × α)) :
    last? key (sets.map fun p => (p.1, f p.2)) = (last? key sets).map f := by
  simp [last?, ← List.map_reverse, List.find?_map, Function.comp_def]

theorem overlay_ofPairs (sets more : List (String × α)) :
    overlay (ofPairs sets) more = listing (sets ++ more) := by
  rw [← ofPairs_eq_listing]
  exact (List.foldl_append ..).symm

end GuestHost.Members
