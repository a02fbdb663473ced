import GuestHost.Proofs.Schema.Conforming
import GuestHost.Proofs.Value.Listing
/-!
Fitting gives just the conforming values. Each form of schema is a lemma of its own, and the recursion on
schemas puts them together; what is decoded from a text therefore conforms at every depth.
-/
namespace GuestHost.Schema

open Value Members

/-- Fitting to the schema gives the conforming value, and fails if there is none. -/
def Agrees (s : Schema) : Prop :=
  ∀ {v w : Value}, v.WellFormed → (fit s v = .ok w ↔ Conforms s v w)

namespace Agrees

theorem unique {s : Schema} (h : Agrees s) {v w w' : Value} (hv : v.WellFormed) (hw : Conforms s v w)
    (hw' : Conforms s v w') : w = w' := by
  have hfit := (h hv).mpr hw
  rw [(h hv).mpr hw'] at hfit
  cases hfit
  rfl

theorem items {s : Schema} (h : Agrees s) {vs ws : List Value} {index : Nat}
    (hvs : ∀ v ∈ vs, v.WellFormed) :
    fitItems (fit s) index vs = .ok ws ↔ List.Forall₂ (Conforms s) vs ws := by
  induction vs generalizing ws index with
  | nil =>
    rw [fitItems, List.forall₂_nil_left_iff, Except.ok.injEq, eq_comm]
  | cons v rest ih =>
    obtain ⟨hv, hrest⟩ := List.forall_mem_cons.mp hvs
    simp only [fitItems, Except.bind_eq_ok_iff, Except.mapError_eq_ok_iff, Except.pure_eq_ok_iff,
      h hv, ih hrest, List.forall₂_cons_left_iff]
    constructor
    · rintro ⟨w, hw, ws', hws, rfl⟩
      exact ⟨w, ws', hw, hws, rfl⟩
    · rintro ⟨w, ws', hw, hws, rfl⟩
      exact ⟨w, hw, ws', hws, rfl⟩

theorem tuple {ss : List Schema} (h : ∀ s ∈ ss, Agrees s) {vs ws : List Value} {index : Nat}
    (hvs : ∀ v ∈ vs, v.WellFormed) (hlength : vs.length = ss.length) :
    fitTuple ss index vs = .ok ws ↔ ConformsEach ss vs ws := by
  induction ss generalizing vs ws index with
  | nil =>
    obtain rfl := List.length_eq_zero_iff.mp hlength
    simp [fitTuple, ConformsEach, eq_comm]
  | cons s ss ih =>
    cases vs with
    | nil => cases hlength
    | cons v vs =>
      obtain ⟨hs, hss⟩ := List.forall_mem_cons.mp h
      obtain ⟨hv, hvs⟩ := List.forall_mem_cons.mp hvs
      simp only [fitTuple, Except.bind_eq_ok_iff, Except.mapError_eq_ok_iff, Except.pure_eq_ok_iff,
        hs hv, ih hss hvs (Nat.succ.inj hlength), ConformsEach]
      constructor
      · rintro ⟨w, hw, ws', hws, rfl⟩
        exact ⟨v, vs, w, ws', rfl, rfl, hw, hws⟩
      · rintro ⟨v', vs', w, ws', hsplit, rfl, hw, hws⟩
        cases hsplit
        exact ⟨w, hw, ws', hws, rfl⟩

theorem union {ss : List Schema} (h : ∀ s ∈ ss, Agrees s) {last : Option Rejection} {v w : Value}
    (hv : v.WellFormed) : fitUnion ss last v = .ok w ↔ ConformsFirst ss v w := by
  induction ss generalizing last with
  | nil => simp [fitUnion, ConformsFirst]
  | cons s rest ih =>
    obtain ⟨hs, hrest⟩ := List.forall_mem_cons.mp h
    rw [fitUnion, ConformsFirst]
    cases hfit : fit s v with
    | ok u =>
      have hu : Conforms s v u := (hs hv).mp hfit
      rw [← hs hv, hfit]
      exact ⟨.inl, fun h => h.elim id fun h => absurd hu (h.1 u)⟩
    | error r =>
      have hnone : ∀ u, ¬Conforms s v u := by
        intro u hu
        rw [(hs hv).mpr hu] at hfit
        cases hfit
      rw [ih hrest]
      exact ⟨fun h => .inr ⟨hnone, h⟩, fun h => h.elim (fun h => absurd h (hnone w)) And.right⟩

end Agrees

/-! Objects. Fields are set one after the other, and the members without a field behind them. -/

section

variable {fields : List (String × Schema)} {ms done out : Members Value}

/-- Names that are no field's keep what they are bound to, and each name is set where it has a member. -/
theorem exists_sets_fitFields (h : fitFields fields ms done = .ok out) :
    (∃ sets : List (String × Value),
      sets.map Prod.fst = (fields.map Prod.fst).filter (fun name => has name ms) ∧
        out = overlay done sets) ∧
      ∀ k ∉ fields.map Prod.fst, get? k out = get? k done := by
  induction fields generalizing done with
  | nil =>
    cases h
    exact ⟨⟨[], rfl, rfl⟩, fun _ _ => rfl⟩
  | cons f rest ih =>
    obtain ⟨name, s⟩ := f
    rw [fitFields] at h
    cases hx : get? name ms with
    | none =>
      simp only [hx] at h
      split at h
      · obtain ⟨⟨sets, hsets, hout⟩, hframe⟩ := ih h
        refine ⟨⟨sets, ?_, hout⟩, fun k hk => hframe k fun hmem => hk (List.mem_cons_of_mem _ hmem)⟩
        rw [hsets, List.map_cons, List.filter_cons_of_neg (by simp [has, hx])]
      · cases h
    | some x =>
      simp only [hx, Except.bind_eq_ok_iff, Except.mapError_eq_ok_iff] at h
      obtain ⟨y, -, h⟩ := h
      obtain ⟨⟨sets, hsets, hout⟩, hframe⟩ := ih h
      refine ⟨⟨(name, y) :: sets, ?_, hout⟩, fun k hk => ?_⟩
      · rw [List.map_cons, hsets, List.map_cons, List.filter_cons_of_pos (by simp [has, hx])]
      · obtain ⟨hne, hrest⟩ := not_or.mp fun h => hk (List.mem_cons.mpr h)
        rw [hframe k hrest, get?_set_of_ne hne]

theorem conformsFields_of_fitFields (hagree : ∀ f ∈ fields, Agrees f.2)
    (hms : ∀ m ∈ ms, m.2.WellFormed) (h : fitFields fields ms done = .ok out) :
    ConformsFields fields ms out := by
  induction fields generalizing done with
  | nil => trivial
  | cons f rest ih =>
    obtain ⟨name, s⟩ := f
    obtain ⟨hs, hrest⟩ := List.forall_mem_cons.mp hagree
    rw [fitFields] at h
    rw [ConformsFields]
    cases hx : get? name ms with
    | none =>
      simp only [hx] at h ⊢
      split at h
      · next haccepts => exact ⟨(conforms_undefined_iff s).mpr ⟨haccepts, rfl⟩, ih hrest h⟩
      · cases h
    | some x =>
      simp only [hx, Except.bind_eq_ok_iff, Except.mapError_eq_ok_iff] at h ⊢
      obtain ⟨y, hy, h⟩ := h
      refine ⟨⟨y, (hs (hms _ (mem_of_get? hx))).mp hy, fun hlast => ?_⟩, ih hrest h⟩
      rw [(exists_sets_fitFields h).2 name hlast, get?_set_self]

/-- Fields whose members can conform are fitted. -/
theorem exists_fitFields (hagree : ∀ f ∈ fields, Agrees f.2) (hms : ∀ m ∈ ms, m.2.WellFormed)
    (h : ConformsFields fields ms out) (done : Members Value) :
    ∃ out', fitFields fields ms done = .ok out' := by
  induction fields generalizing done with
  | nil => exact ⟨done, rfl⟩
  | cons f rest ih =>
    obtain ⟨name, s⟩ := f
    obtain ⟨hs, hrest⟩ := List.forall_mem_cons.mp hagree
    obtain ⟨hhead, htail⟩ := h
    rw [fitFields]
    cases hx : get? name ms with
    | none =>
      simp only [hx] at hhead ⊢
      rw [if_pos ((conforms_undefined_iff s).mp hhead).1]
      exact ih hrest htail done
    | some x =>
      simp only [hx] at hhead ⊢
      obtain ⟨y, hy, -⟩ := hhead
      rw [(hs (hms _ (mem_of_get? hx))).mpr hy]
      exact ih hrest htail _

/-- What the fields say of a name that has a member determines what it is bound to. -/
theorem get?_eq_of_conformsFields {out' : Members Value} (hagree : ∀ f ∈ fields, Agrees f.2)
    (hms : ∀ m ∈ ms, m.2.WellFormed) (h : ConformsFields fields ms out)
    (h' : ConformsFields fields ms out') {k : String} (hk : k ∈ fields.map Prod.fst)
    (hmember : has k ms = true) : get? k out = get? k out' := by
  induction fields with
  | nil => cases hk
  | cons f rest ih =>
    obtain ⟨name, s⟩ := f
    obtain ⟨hs, hrest⟩ := List.forall_mem_cons.mp hagree
    by_cases hlast : k ∈ rest.map Prod.fst
    · exact ih hrest h.2 h'.2 hlast
    · obtain rfl := (List.mem_cons.mp hk).resolve_right hlast
      obtain ⟨x, hx⟩ := Option.isSome_iff_exists.mp hmember
      obtain ⟨hhead, -⟩ := h
      obtain ⟨hhead', -⟩ := h'
      simp only [hx] at hhead hhead'
      obtain ⟨y, hy, hout⟩ := hhead
      obtain ⟨y', hy', hout'⟩ := hhead'
      rw [hout hlast, hout' hlast, hs.unique (hms _ (mem_of_get? hx)) hy hy']

/-- Only what the names of fields are bound to counts. -/
theorem ConformsFields.congr {out' : Members Value} (h : ConformsFields fields ms out)
    (hsame : ∀ k ∈ fields.map Prod.fst, get? k out' = get? k out) : ConformsFields fields ms out' := by
  induction fields with
  | nil => trivial
  | cons f rest ih =>
    obtain ⟨name, s⟩ := f
    obtain ⟨hname, hrest⟩ := List.forall_mem_cons.mp hsame
    obtain ⟨hhead, htail⟩ := h
    refine ⟨?_, ih htail hrest⟩
    rwa [hname]

theorem exists_sets_fitOthers {fit : Value → Except Rejection Value} {declared : List String}
    (h : fitOthers fit declared done ms = .ok out) :
    (∃ sets : List (String × Value), sets.map Prod.fst = (keys ms).filter (fun k => k ∉ declared) ∧
        out = overlay done sets) ∧
      ∀ k, k ∈ declared ∨ k ∉ keys ms → get? k out = get? k done := by
  induction ms generalizing done with
  | nil =>
    cases h
    exact ⟨⟨[], rfl, rfl⟩, fun _ _ => rfl⟩
  | cons m rest ih =>
    obtain ⟨key, x⟩ := m
    rw [fitOthers] at h
    split at h
    · next hdeclared =>
      obtain ⟨⟨sets, hsets, hout⟩, hframe⟩ := ih h
      refine ⟨⟨sets, ?_, hout⟩, fun k hk => hframe k ?_⟩
      · rw [hsets, keys, keys, List.map_cons, List.filter_cons_of_neg (by simpa using hdeclared)]
      · exact hk.imp id fun hk hmem => hk (List.mem_cons_of_mem _ hmem)
    · next hdeclared =>
      simp only [Except.bind_eq_ok_iff, Except.mapError_eq_ok_iff] at h
      obtain ⟨y, -, h⟩ := h
      obtain ⟨⟨sets, hsets, hout⟩, hframe⟩ := ih h
      refine ⟨⟨(key, y) :: sets, ?_, hout⟩, fun k hk => ?_⟩
      · rw [List.map_cons, hsets, keys, keys, List.map_cons,
          List.filter_cons_of_pos (by simpa using hdeclared)]
      · have hne : k ≠ key := by
          rintro rfl
          exact hk.elim hdeclared fun hk => hk List.mem_cons_self
        rw [hframe k (hk.imp id fun hk hmem => hk (List.mem_cons_of_mem _ hmem)), get?_set_of_ne hne]

/-- Each member without a field is kept as it is fitted. -/
theorem get?_fitOthers {fit : Value → Except Rejection Value} {declared : List String}
    (hnodup : (keys ms).Nodup) (h : fitOthers fit declared done ms = .ok out) {k : String}
    (hk : k ∉ declared) {x : Value} (hx : get? k ms = some x) :
    ∃ y, fit x = .ok y ∧ get? k out = some y := by
  induction ms generalizing done with
  | nil => cases hx
  | cons m rest ih =>
    obtain ⟨key, x'⟩ := m
    obtain ⟨hfresh, hrest⟩ := List.nodup_cons.mp hnodup
    rw [fitOthers] at h
    rw [get?] at hx
    by_cases hkey : key = k
    · subst hkey
      rw [if_pos rfl] at hx
      cases hx
      rw [if_neg hk] at h
      simp only [Except.bind_eq_ok_iff, Except.mapError_eq_ok_iff] at h
      obtain ⟨y, hy, h⟩ := h
      refine ⟨y, hy, ?_⟩
      rw [(exists_sets_fitOthers h).2 key (.inr hfresh), get?_set_self]
    · rw [if_neg hkey] at hx
      split at h
      · exact ih hrest h hx
      · simp only [Except.bind_eq_ok_iff, Except.mapError_eq_ok_iff] at h
        obtain ⟨_, -, h⟩ := h
        exact ih hrest h hx

theorem exists_fitOthers {fit : Value → Except Rejection Value} {declared : List String}
    (h : ∀ m ∈ ms, m.1 ∉ declared → ∃ y, fit m.2 = .ok y) (done : Members Value) :
    ∃ out, fitOthers fit declared done ms = .ok out := by
  induction ms generalizing done with
  | nil => exact ⟨done, rfl⟩
  | cons m rest ih =>
    obtain ⟨key, x⟩ := m
    obtain ⟨hhead, hrest⟩ := List.forall_mem_cons.mp h
    rw [fitOthers]
    split
    · exact ih hrest done
    · next hdeclared =>
      obtain ⟨y, hy⟩ := hhead hdeclared
      rw [hy]
      exact ih hrest _

end

/-! The names of an object. -/

theorem eraseDups_of_nodup {names : List String} (h : names.Nodup) : names.eraseDups = names := by
  induction names with
  | nil => rfl
  | cons name rest ih =>
    obtain ⟨hname, hrest⟩ := List.nodup_cons.mp h
    have hfilter : rest.filter (fun other => !other == name) = rest := by
      refine List.filter_eq_self.mpr fun other hother => ?_
      have hne : other ≠ name := fun heq => hname (heq ▸ hother)
      simpa using hne
    rw [List.eraseDups_cons, hfilter, ih hrest]

theorem nodup_otherNames (fields : List (String × Schema)) {ms : Members Value} (h : (keys ms).Nodup) :
    (otherNames fields ms).Nodup := h.filter _

/-- Pairs that are set one after the other leave each name where it was set first. -/
theorem keys_overlay_nil (sets : List (String × Value)) :
    keys (overlay [] sets) = (sets.map Prod.fst).eraseDups := by
  have h : overlay [] sets = ofPairs sets := rfl
  rw [h, ofPairs_eq_listing, keys_listing, firstNames]

/-- Those of fields, each once, and behind them those without a field. -/
theorem eraseDups_names (fields : List (String × Schema)) {ms : Members Value} (h : (keys ms).Nodup) :
    ((fields.map Prod.fst).filter (fun name => has name ms) ++ otherNames fields ms).eraseDups =
      presentNames fields ms ++ otherNames fields ms := by
  have hapart : (otherNames fields ms).removeAll
      ((fields.map Prod.fst).filter fun name => has name ms) = otherNames fields ms := by
    refine List.filter_eq_self.mpr fun k hk => ?_
    have hfree : k ∉ fields.map Prod.fst := of_decide_eq_true (List.mem_filter.mp hk).2
    have hnone : k ∉ (fields.map Prod.fst).filter fun name => has name ms :=
      fun hmem => hfree (List.mem_filter.mp hmem).1
    simpa using hnone
  rw [List.eraseDups_append, hapart, eraseDups_of_nodup (nodup_otherNames fields h), presentNames]

section

variable {fields : List (String × Schema)} {ms out out' : Members Value}

theorem keys_fitFields (h : fitFields fields ms [] = .ok out) : keys out = presentNames fields ms := by
  obtain ⟨⟨sets, hsets, rfl⟩, -⟩ := exists_sets_fitFields h
  rw [keys_overlay_nil, hsets, presentNames]

theorem nodup_keys_fitFields (h : fitFields fields ms [] = .ok out) : (keys out).Nodup := by
  obtain ⟨⟨sets, -, rfl⟩, -⟩ := exists_sets_fitFields h
  exact nodup_keys_ofPairs sets

theorem keys_fitOthers {fit : Value → Except Rejection Value} {done : Members Value}
    (hnodup : (keys ms).Nodup) (h : fitFields fields ms [] = .ok done)
    (h' : fitOthers fit (fields.map Prod.fst) done ms = .ok out) :
    keys out = presentNames fields ms ++ otherNames fields ms := by
  obtain ⟨⟨sets, hsets, rfl⟩, -⟩ := exists_sets_fitFields h
  obtain ⟨⟨others, hothers, rfl⟩, -⟩ := exists_sets_fitOthers h'
  have happend : overlay (overlay [] sets) others = overlay [] (sets ++ others) :=
    (List.foldl_append ..).symm
  rw [happend, keys_overlay_nil, List.map_append, hsets, hothers]
  exact eraseDups_names fields hnodup

/-- What conforms to the fields is known by its names, once it is known at those without a field. -/
theorem eq_of_conformsFields (hagree : ∀ f ∈ fields, Agrees f.2) (hms : ∀ m ∈ ms, m.2.WellFormed)
    (h : ConformsFields fields ms out) (h' : ConformsFields fields ms out')
    (hnodup : (keys out).Nodup) (hkeys : keys out = keys out')
    (hnames : ∀ k ∈ keys out, k ∈ presentNames fields ms ∨ get? k out = get? k out') : out = out' := by
  refine eq_of_keys_of_get? hnodup hkeys fun k => ?_
  by_cases hk : k ∈ keys out
  · rcases hnames k hk with hpresent | hsame
    · obtain ⟨hfield, hmember⟩ := mem_presentNames.mp hpresent
      exact get?_eq_of_conformsFields hagree hms h h' hfield hmember
    · exact hsame
  · rw [get?_eq_none hk, get?_eq_none (hkeys ▸ hk)]

theorem Agrees.membersOfFields (hagree : ∀ f ∈ fields, Agrees f.2) (hms : ∀ m ∈ ms, m.2.WellFormed) :
    fitFields fields ms [] = .ok out ↔
      ConformsFields fields ms out ∧ keys out = presentNames fields ms := by
  have sound : ∀ {out}, fitFields fields ms [] = .ok out →
      ConformsFields fields ms out ∧ keys out = presentNames fields ms := fun h =>
    ⟨conformsFields_of_fitFields hagree hms h, keys_fitFields h⟩
  refine ⟨sound, fun ⟨hconforms, hkeys⟩ => ?_⟩
  obtain ⟨found, hfound⟩ := exists_fitFields hagree hms hconforms []
  obtain ⟨hconforms', hkeys'⟩ := sound hfound
  have heq : found = out := eq_of_conformsFields hagree hms hconforms' hconforms
    (nodup_keys_fitFields hfound) (hkeys'.trans hkeys.symm) fun k hk => .inl (hkeys' ▸ hk)
  rw [hfound, heq]

variable {s : Schema} {done : Members Value}

theorem conforms_of_fitOthers (hagree : ∀ f ∈ fields, Agrees f.2) (hs : Agrees s)
    (hnodup : (keys ms).Nodup) (hms : ∀ m ∈ ms, m.2.WellFormed)
    (hdone : fitFields fields ms [] = .ok done)
    (hout : fitOthers (fit s) (fields.map Prod.fst) done ms = .ok out) :
    ConformsFields fields ms out ∧ keys out = presentNames fields ms ++ otherNames fields ms ∧
      ConformsOthers (Conforms s) fields ms out := by
  have hframe := (exists_sets_fitOthers hout).2
  have hfields : ConformsFields fields ms done := conformsFields_of_fitFields hagree hms hdone
  refine ⟨hfields.congr fun k hk => hframe k (.inl hk), keys_fitOthers hnodup hdone hout, ?_⟩
  intro k hk
  obtain ⟨hmem, hfree⟩ := List.mem_filter.mp hk
  obtain ⟨x, hx⟩ := exists_get? hmem
  obtain ⟨y, hy, hget⟩ := get?_fitOthers hnodup hout (of_decide_eq_true hfree) hx
  exact ⟨x, y, hx, hget, (hs (hms _ (mem_of_get? hx))).mp hy⟩

/-- Members without a field that can conform are fitted. -/
theorem exists_fitOthers_of_conforms (hs : Agrees s) (hnodup : (keys ms).Nodup)
    (hms : ∀ m ∈ ms, m.2.WellFormed) (h : ConformsOthers (Conforms s) fields ms out)
    (done : Members Value) :
    ∃ found, fitOthers (fit s) (fields.map Prod.fst) done ms = .ok found := by
  refine exists_fitOthers (fun m hm hfree => ?_) done
  have hmem : m.1 ∈ otherNames fields ms :=
    List.mem_filter.mpr ⟨List.mem_map_of_mem hm, decide_eq_true hfree⟩
  obtain ⟨x, y, hx, -, hconforms⟩ := h m.1 hmem
  rw [get?_of_mem hnodup hm] at hx
  cases hx
  exact ⟨y, (hs (hms m hm)).mpr hconforms⟩

/-- What the index says of a name without a field determines what it is bound to. -/
theorem get?_eq_of_conformsOthers (hs : Agrees s) (hms : ∀ m ∈ ms, m.2.WellFormed)
    (h : ConformsOthers (Conforms s) fields ms out) (h' : ConformsOthers (Conforms s) fields ms out')
    {k : String} (hk : k ∈ otherNames fields ms) : get? k out = get? k out' := by
  obtain ⟨x, y, hx, hy, hconforms⟩ := h k hk
  obtain ⟨x', y', hx', hy', hconforms'⟩ := h' k hk
  obtain rfl : x' = x := Option.some.inj (hx'.symm.trans hx)
  rw [hy, hy', hs.unique (hms _ (mem_of_get? hx)) hconforms hconforms']

theorem Agrees.membersWithIndex (hagree : ∀ f ∈ fields, Agrees f.2) (hs : Agrees s)
    (hnodup : (keys ms).Nodup) (hms : ∀ m ∈ ms, m.2.WellFormed) :
    (∃ done, fitFields fields ms [] = .ok done ∧
        fitOthers (fit s) (fields.map Prod.fst) done ms = .ok out) ↔
      ConformsFields fields ms out ∧ keys out = presentNames fields ms ++ otherNames fields ms ∧
        ConformsOthers (Conforms s) fields ms out := by
  constructor
  · rintro ⟨done, hdone, hout⟩
    exact conforms_of_fitOthers hagree hs hnodup hms hdone hout
  · rintro ⟨hfields, hkeys, hothers⟩
    -- fitting succeeds, and what conforms is determined by its names: so this is what is found
    obtain ⟨done, hdone⟩ := exists_fitFields hagree hms hfields []
    obtain ⟨found, hfound⟩ := exists_fitOthers_of_conforms hs hnodup hms hothers done
    obtain ⟨hfields', hkeys', hothers'⟩ := conforms_of_fitOthers hagree hs hnodup hms hdone hfound
    have hfoundNodup : (keys found).Nodup := by
      obtain ⟨⟨others, -, rfl⟩, -⟩ := exists_sets_fitOthers hfound
      exact nodup_keys_overlay (nodup_keys_fitFields hdone) others
    have heq : found = out := by
      refine eq_of_conformsFields hagree hms hfields' hfields hfoundNodup (hkeys'.trans hkeys.symm) ?_
      intro k hk
      rw [hkeys', List.mem_append] at hk
      exact hk.imp id fun hk => get?_eq_of_conformsOthers hs hms hothers' hothers hk
    exact ⟨done, hdone, heq ▸ hfound⟩

end

/-! One form of schema after the other. -/

/-- A literal lets through only what it is. -/
theorem guarded_iff {p : Prop} [Decidable p] {v w : Value} {reason : Reason} :
    (if p then (.ok v : Except Rejection Value) else reject reason) = .ok w ↔ v = w ∧ p := by
  split <;> simp_all [reject]

theorem mismatch_iff {s : Schema} {v w : Value} : mismatch s v = .ok w ↔ False := by
  simp [mismatch, reject]

/-- A list is made again of what its items have become. -/
theorem rebuilt_iff {vs : List Value} {p : List Value → List Value → Prop} {w : Value} :
    (∃ ws, p vs ws ∧ Value.array ws = w) ↔
      ∃ vs' ws, Value.array vs = .array vs' ∧ w = .array ws ∧ p vs' ws := by
  constructor
  · rintro ⟨ws, h, rfl⟩
    exact ⟨vs, ws, rfl, rfl, h⟩
  · rintro ⟨_, ws, ⟨⟩, rfl, h⟩
    exact ⟨ws, h, rfl⟩

namespace Agrees

theorem ofJson : Agrees json := by
  intro v w _
  cases v <;> simp [fit, Conforms, isUndefined, mismatch_iff, @eq_comm _ w]

theorem ofUndefined : Agrees undefined := by
  intro v w _
  cases v <;> simp [fit, Conforms, isUndefined, mismatch_iff, @eq_comm _ w]

theorem ofNull : Agrees null := by
  intro v w _
  cases v <;> simp [fit, Conforms, mismatch_iff, @eq_comm _ w]

theorem ofString (literal : Option String) : Agrees (string literal) := by
  intro v w _
  cases v with
  | string s => cases literal <;> simp [fit, Conforms, guarded_iff, @eq_comm _ w]
  | _ => simp [fit, Conforms, mismatch_iff]

theorem ofBoolean (literal : Option Bool) : Agrees (boolean literal) := by
  intro v w _
  cases v with
  | boolean b => cases literal <;> simp [fit, Conforms, guarded_iff, @eq_comm _ w]
  | _ => simp [fit, Conforms, mismatch_iff]

theorem ofInteger (literal : Option Int64) : Agrees (integer literal) := by
  intro v w _
  rw [fit, Conforms]
  cases integerOf? v with
  | none => simp [mismatch_iff]
  | some n => cases literal <;> simp [guarded_iff, @eq_comm _ w]

theorem ofNumber (literal : Option Float) : Agrees (number literal) := by
  intro v w _
  rw [fit, Conforms]
  cases floatOf? v with
  | none => simp [mismatch_iff]
  | some x => cases literal <;> simp [guarded_iff, @eq_comm _ w]

theorem ofArray {s : Schema} (h : Agrees s) : Agrees (array s) := by
  intro v w hv
  cases v with
  | array vs =>
    simp only [fit, Except.map_eq_ok_iff, h.items (wellFormed_array.mp hv), Conforms]
    exact rebuilt_iff
  | _ => simp [fit, Conforms, mismatch_iff]

theorem ofTuple {ss : List Schema} (h : ∀ s ∈ ss, Agrees s) : Agrees (.tuple ss) := by
  intro v w hv
  cases v with
  | array vs =>
    rw [fit, Conforms]
    split
    · next hlength =>
      simp only [Except.map_eq_ok_iff, tuple h (wellFormed_array.mp hv) hlength]
      exact rebuilt_iff
    · next hlength =>
      refine iff_of_false (by simp [reject]) ?_
      rintro ⟨_, ws, ⟨⟩, rfl, hws⟩
      exact hlength hws.length_eq
  | _ => simp [fit, Conforms, mismatch_iff]

theorem ofFields {fields : List (String × Schema)} (h : ∀ f ∈ fields, Agrees f.2) :
    Agrees (object fields none) := by
  intro v w hv
  cases v with
  | object ms =>
    obtain ⟨-, hms⟩ := wellFormed_object.mp hv
    simp only [fit, Except.bind_eq_ok_iff, Except.pure_eq_ok_iff, Conforms, membersOfFields h hms]
    constructor
    · rintro ⟨out, hout, rfl⟩
      exact ⟨ms, out, rfl, rfl, hout⟩
    · rintro ⟨_, out, ⟨⟩, rfl, hout⟩
      exact ⟨out, hout, rfl⟩
  | _ => simp [fit, Conforms, mismatch_iff]

theorem ofIndexed {fields : List (String × Schema)} {s : Schema} (h : ∀ f ∈ fields, Agrees f.2)
    (hs : Agrees s) : Agrees (object fields (some s)) := by
  intro v w hv
  cases v with
  | object ms =>
    obtain ⟨hnodup, hms⟩ := wellFormed_object.mp hv
    simp only [fit, Except.bind_eq_ok_iff, Except.pure_eq_ok_iff, Conforms]
    constructor
    · rintro ⟨done, hdone, out, hout, rfl⟩
      exact ⟨ms, out, rfl, rfl, (membersWithIndex h hs hnodup hms).mp ⟨done, hdone, hout⟩⟩
    · rintro ⟨_, out, ⟨⟩, rfl, hout⟩
      obtain ⟨done, hdone, hothers⟩ := (membersWithIndex h hs hnodup hms).mpr hout
      exact ⟨done, hdone, out, hothers, rfl⟩
  | _ => simp [fit, Conforms, mismatch_iff]

theorem ofUnion {ss : List Schema} (h : ∀ s ∈ ss, Agrees s) : Agrees (.union ss) := by
  intro v w hv
  rw [fit, Conforms]
  exact union h hv

end Agrees

mutual

/-- Fitting succeeds just on the values that can conform, and gives the form that is asked for. -/
theorem agrees : ∀ s : Schema, Agrees s
  | json => Agrees.ofJson
  | undefined => Agrees.ofUndefined
  | null => Agrees.ofNull
  | string literal => Agrees.ofString literal
  | boolean literal => Agrees.ofBoolean literal
  | integer literal => Agrees.ofInteger literal
  | number literal => Agrees.ofNumber literal
  | array items => Agrees.ofArray (agrees items)
  | tuple items => Agrees.ofTuple (agrees_each items)
  | object fields none => Agrees.ofFields (agrees_fields fields)
  | object fields (some s) => Agrees.ofIndexed (agrees_fields fields) (agrees s)
  | union variants => Agrees.ofUnion (agrees_each variants)

theorem agrees_each : ∀ ss : List Schema, ∀ s ∈ ss, Agrees s
  | [] => nofun
  | s :: rest => List.forall_mem_cons.mpr ⟨agrees s, agrees_each rest⟩

theorem agrees_fields : ∀ fields : List (String × Schema), ∀ f ∈ fields, Agrees f.2
  | [] => nofun
  | (_, s) :: rest => List.forall_mem_cons.mpr ⟨agrees s, agrees_fields rest⟩

end

end GuestHost.Schema
