/-!
Maps from names to things that remember the order in which names first came: setting a name again
replaces its entry where it stands.
-/
namespace GuestHost

/-- The entries in order of first appearance. -/
abbrev Members (α : Type) := List (String × α)

namespace Members

variable {α β : Type}

def get? (key : String) : Members α → Option α
  | [] => none
  | (k, a) :: rest => if k = key then some a else get? key rest

def has (key : String) (m : Members α) : Bool := (get? key m).isSome

def set (key : String) (a : α) : Members α → Members α
  | [] => [(key, a)]
  | (k, b) :: rest => if k = key then (k, a) :: rest else (k, b) :: set key a rest

def keys (m : Members α) : List String := m.map Prod.fst

/-- Sets the pairs one after the other. -/
def overlay (m : Members α) (pairs : List (String × α)) : Members α :=
  pairs.foldl (fun acc p => set p.1 p.2 acc) m

def ofPairs (pairs : List (String × α)) : Members α := overlay [] pairs

/-- The same entries by ascending name, that is, by the bytes of the names. -/
def sorted (m : Members α) : Members α := m.mergeSort fun a b => decide (a.1 ≤ b.1)

@[simp] theorem get?_nil (key : String) : get? key ([] : Members α) = none := rfl

@[simp] theorem get?_set_self (key : String) (a : α) (m : Members α) :
    get? key (set key a m) = some a := by
  induction m with
  | nil => simp [set, get?]
  | cons e rest ih =>
    obtain ⟨k, b⟩ := e
    by_cases h : k = key <;> simp [set, get?, h, ih]

theorem get?_set_of_ne {key other : String} (h : other ≠ key) (a : α) (m : Members α) :
    get? other (set key a m) = get? other m := by
  induction m with
  | nil => simp [set, get?, h.symm]
  | cons e rest ih =>
    obtain ⟨k, b⟩ := e
    by_cases hk : k = key
    · subst hk
      simp [set, get?, h.symm]
    · by_cases ho : k = other
      · subst ho
        simp [set, get?, h]
      · simp [set, get?, hk, ho, ih]

/-- A name that is there keeps its place; a new one goes to the end. -/
theorem keys_set (key : String) (a : α) (m : Members α) :
    keys (set key a m) = if key ∈ keys m then keys m else keys m ++ [key] := by
  induction m with
  | nil => simp [set, keys]
  | cons e rest ih =>
    obtain ⟨k, b⟩ := e
    by_cases h : k = key
    · simp [set, keys, h]
    · have h' : key ≠ k := fun e => h e.symm
      simp only [keys] at ih
      by_cases hm : key ∈ rest.map Prod.fst <;> simp [set, keys, h, h', hm, ih]

theorem nodup_keys_set {m : Members α} (h : (keys m).Nodup) (key : String) (a : α) :
    (keys (set key a m)).Nodup := by
  rw [keys_set]
  split
  · exact h
  · next hk =>
    rw [List.nodup_append]
    refine ⟨h, by simp, ?_⟩
    intro x hx y hy
    have : y = key := by simpa using hy
    exact fun e => hk (this ▸ e ▸ hx)

end Members
end GuestHost
