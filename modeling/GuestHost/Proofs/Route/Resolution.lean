import GuestHost.Proofs.Route.Fitting
import GuestHost.Route.Table
import Mathlib.Data.List.Induction
import Mathlib.Data.List.Nodup
import Mathlib.Data.Prod.Lex
import Mathlib.Data.String.Basic
/-!
What a route table answers. The method's own routes answer if one of them fits the path, and those for all
methods otherwise; among them the path itself comes first, and then the pattern of the highest rank. Tables
that list the same routes give the same answers, whatever they were built from.
-/
namespace GuestHost.Route

/-- The rank of a pattern: by its literals, then its bytes, and of two texts the smaller ranks higher. -/
def rank (pattern : String) : Nat ×ₗ Nat ×ₗ Stringᵒᵈ :=
  toLex (literalCount pattern, toLex (pattern.utf8ByteSize, OrderDual.toDual pattern))

theorem rank_injective : Function.Injective rank := by
  intro p q h
  simpa [rank] using (congrArg (fun r => (ofLex (ofLex r).2).2) h)

instance (pattern path : String) : Decidable (Fits pattern path) :=
  decidable_of_iff ((bind pattern path).isSome = true) <| by
    rw [Option.isSome_iff_exists]
    constructor
    · rintro ⟨out, hout⟩
      exact (bind_eq_some_iff.mp hout).1
    · exact fun h => ⟨_, bind_eq_some_iff.mpr ⟨h, rfl⟩⟩

/-- What some routes answer a path with: the route of the path itself, which binds nothing, or else the
route with parameters that ranks above all others that fit. -/
inductive Answers (entries : List Entry) (path : String) : Match → Prop
  | exact {e : Entry} (he : e ∈ entries) (hpattern : e.pattern = path) :
      Answers entries path ⟨e.handler, path, []⟩
  | bound {e : Entry} (he : e ∈ entries) (hparams : hasParams e.pattern = true)
      (hfits : Fits e.pattern path) (hnone : ∀ d ∈ entries, d.pattern ≠ path)
      (hbest : ∀ d ∈ entries, hasParams d.pattern = true → Fits d.pattern path →
        d.pattern ≠ e.pattern → rank d.pattern < rank e.pattern) :
      Answers entries path ⟨e.handler, e.pattern, bindings e.pattern path⟩

/-- Only the set of the routes counts. -/
theorem Answers.congr {entries entries' : List Entry} {path : String} {m : Match}
    (h : Answers entries path m) (hsame : ∀ e, e ∈ entries ↔ e ∈ entries') :
    Answers entries' path m := by
  cases h with
  | exact he hpattern => exact .exact ((hsame _).mp he) hpattern
  | bound he hparams hfits hnone hbest =>
    exact .bound ((hsame _).mp he) hparams hfits (fun d hd => hnone d ((hsame d).mpr hd))
      fun d hd => hbest d ((hsame d).mpr hd)

namespace Table

theorem prefers_iff {p q : String} : prefers p q = true ↔ rank q < rank p := by
  unfold prefers rank
  rw [Prod.Lex.toLex_lt_toLex, Prod.Lex.toLex_lt_toLex, OrderDual.toDual_lt_toDual]
  by_cases hl : literalCount p = literalCount q
  · by_cases hb : p.utf8ByteSize = q.utf8ByteSize
    · simp [hl, hb]
    · simp [hl, hb, Ne.symm hb]
  · simp [hl, Ne.symm hl]

/-- Choosing keeps a match that none of those seen ranks above. -/
theorem foldl_choose (ms : List Match) (b : Match) : ∃ m ∈ b :: ms,
    ms.foldl choose (some b) = some m ∧ ∀ x ∈ b :: ms, rank x.pattern ≤ rank m.pattern := by
  induction ms generalizing b with
  | nil => exact ⟨b, List.mem_singleton_self b, rfl, by simp⟩
  | cons x ms ih =>
    rw [List.foldl_cons, choose]
    split
    · next hx =>
      rw [prefers_iff] at hx
      obtain ⟨m, hm, hfold, hbest⟩ := ih x
      refine ⟨m, List.mem_cons_of_mem b hm, hfold, List.forall_mem_cons.mpr ⟨?_, hbest⟩⟩
      exact hx.le.trans (hbest x List.mem_cons_self)
    · next hx =>
      rw [prefers_iff, not_lt] at hx
      obtain ⟨m, hm, hfold, hbest⟩ := ih b
      obtain ⟨hb, hms⟩ := List.forall_mem_cons.mp hbest
      refine ⟨m, ?_, hfold, ?_⟩
      · exact (List.mem_cons.mp hm).elim (fun h => h ▸ List.mem_cons_self)
          fun h => List.mem_cons_of_mem _ (List.mem_cons_of_mem _ h)
      · exact List.forall_mem_cons.mpr ⟨hb, List.forall_mem_cons.mpr ⟨hx.trans hb, hms⟩⟩

theorem foldl_choose_of_mem {ms : List Match} {x : Match} (hx : x ∈ ms) : ∃ m ∈ ms,
    ms.foldl choose none = some m ∧ ∀ y ∈ ms, rank y.pattern ≤ rank m.pattern := by
  cases ms with
  | nil => exact absurd hx List.not_mem_nil
  | cons b ms => exact foldl_choose ms b

theorem mem_candidates {entries : List Entry} {path : String} {m : Match} :
    m ∈ candidates entries path ↔ ∃ e ∈ entries, hasParams e.pattern = true ∧
      Fits e.pattern path ∧ m = ⟨e.handler, e.pattern, bindings e.pattern path⟩ := by
  unfold candidates
  rw [List.mem_filterMap]
  refine exists_congr fun e => and_congr_right fun _ => ?_
  by_cases hparams : hasParams e.pattern = true
  · simp only [hparams, if_true, Option.map_eq_some_iff, bind_eq_some_iff, true_and]
    constructor
    · rintro ⟨ps, ⟨hfits, rfl⟩, rfl⟩
      exact ⟨hfits, rfl⟩
    · rintro ⟨hfits, rfl⟩
      exact ⟨_, ⟨hfits, rfl⟩, rfl⟩
  · simp [hparams]

/-- One route for each pattern. -/
def Distinct (entries : List Entry) : Prop :=
  ∀ d ∈ entries, ∀ e ∈ entries, d.pattern = e.pattern → d = e

/-- Without a route of the path itself, the route that is chosen ranks above all others that fit. -/
theorem chosen_eq_some_iff {entries : List Entry} {path : String} {m : Match}
    (hdistinct : Distinct entries) (hnone : ∀ e ∈ entries, e.pattern ≠ path) :
    (candidates entries path).foldl choose none = some m ↔ Answers entries path m := by
  constructor
  · intro h
    rcases hc : candidates entries path with _ | ⟨c, cs⟩
    · simp [hc] at h
    obtain ⟨m', hm', hfold, hbest⟩ := foldl_choose_of_mem (hc ▸ List.mem_cons_self)
    cases hfold.symm.trans h
    obtain ⟨e, he, hparams, hfits, rfl⟩ := mem_candidates.mp hm'
    refine .bound he hparams hfits hnone fun d hd hdparams hdfits hne => ?_
    have hle := hbest _ (mem_candidates.mpr ⟨d, hd, hdparams, hdfits, rfl⟩)
    exact lt_of_le_of_ne hle fun h => hne (rank_injective h)
  · intro h
    cases h with
    | exact hd hpath => exact absurd hpath (hnone _ hd)
    | @bound e he hparams hfits _ hbest =>
      have hmem := mem_candidates.mpr ⟨e, he, hparams, hfits, rfl⟩
      obtain ⟨m', hm', hfold, hmax⟩ := foldl_choose_of_mem hmem
      obtain ⟨d, hd, hdparams, hdfits, rfl⟩ := mem_candidates.mp hm'
      have hsame : d.pattern = e.pattern := by
        by_contra hne
        exact absurd (hmax _ hmem) (hbest d hd hdparams hdfits hne).not_ge
      rw [hfold, hdistinct d hd e he hsame]

theorem resolveAmong_eq_some_iff {entries : List Entry} {path : String} {m : Match}
    (hdistinct : Distinct entries) : resolveAmong entries path = some m ↔ Answers entries path m := by
  unfold resolveAmong
  cases hfind : entries.find? fun e => e.pattern = path with
  | some e =>
    have he := List.mem_of_find?_eq_some hfind
    have hpattern : e.pattern = path := by simpa using List.find?_some hfind
    constructor
    · rintro ⟨⟩
      exact .exact he hpattern
    · intro h
      cases h with
      | exact hd hpath => rw [hdistinct _ hd _ he (hpath.trans hpattern.symm)]
      | bound _ _ _ hnone _ => exact absurd hpattern (hnone e he)
  | none => exact chosen_eq_some_iff hdistinct (by simpa using hfind)

theorem resolveAmong_eq_none_iff {entries : List Entry} {path : String} :
    resolveAmong entries path = none ↔ ∀ e ∈ entries, ¬Fits e.pattern path := by
  unfold resolveAmong
  cases hfind : entries.find? fun e => e.pattern = path with
  | some e =>
    have hpattern : e.pattern = path := by simpa using List.find?_some hfind
    refine iff_of_false nofun fun h => h e (List.mem_of_find?_eq_some hfind) ?_
    exact hpattern ▸ fits_self e.pattern
  | none =>
    have hnone : ∀ e ∈ entries, e.pattern ≠ path := by simpa using hfind
    constructor
    · intro h e he hfits
      have hparams : hasParams e.pattern = true := by
        by_contra hp
        exact hnone e he (eq_of_fits (Bool.eq_false_iff.mpr hp) hfits)
      obtain ⟨m, -, hfold, -⟩ :=
        foldl_choose_of_mem (mem_candidates.mpr ⟨e, he, hparams, hfits, rfl⟩)
      cases hfold.symm.trans h
    · intro h
      have hempty : candidates entries path = [] := by
        refine List.eq_nil_iff_forall_not_mem.mpr fun m hm => ?_
        obtain ⟨e, he, -, hfits, -⟩ := mem_candidates.mp hm
        exact h e he hfits
      simp [hempty]

/-- One route for each method and pattern, and no method that is written like the wildcard. -/
structure Sound (t : Table) : Prop where
  once : (t.entries.map fun e => (e.method, e.pattern)).Nodup
  proper : ∀ e ∈ t.entries, e.method ≠ .exact "*"

/-- What a route is kept under keeps its place; a new one goes to the end. -/
theorem keys_put (e : Entry) (entries : List Entry) :
    (put e entries).map (fun e => (e.method, e.pattern)) =
      if (e.method, e.pattern) ∈ entries.map (fun e => (e.method, e.pattern)) then
        entries.map fun e => (e.method, e.pattern)
      else entries.map (fun e => (e.method, e.pattern)) ++ [(e.method, e.pattern)] := by
  induction entries with
  | nil => rfl
  | cons d rest ih =>
    rw [put]
    by_cases h : d.method = e.method ∧ d.pattern = e.pattern
    · simp [h]
    · have hne : (e.method, e.pattern) ≠ (d.method, d.pattern) := fun heq => by
        cases d
        cases heq
        exact h ⟨rfl, rfl⟩
      rw [if_neg h, List.map_cons, List.map_cons, ih]
      by_cases hmem : (e.method, e.pattern) ∈ rest.map fun e => (e.method, e.pattern)
      · rw [if_pos hmem, if_pos (List.mem_cons_of_mem _ hmem)]
      · rw [if_neg hmem, if_neg (by simpa [List.mem_cons, hne] using hmem), List.cons_append]

theorem mem_of_mem_put {e d : Entry} {entries : List Entry} (h : d ∈ put e entries) :
    d = e ∨ d ∈ entries := by
  induction entries with
  | nil => exact .inl (List.mem_singleton.mp h)
  | cons c rest ih =>
    rw [put] at h
    split at h
    · exact (List.mem_cons.mp h).imp id (List.mem_cons_of_mem c)
    · rcases List.mem_cons.mp h with rfl | h
      · exact .inr List.mem_cons_self
      · exact (ih h).imp id (List.mem_cons_of_mem c)

/-- Of routes with one method and pattern only the one that is put in last is kept. -/
theorem mem_put_iff {e d : Entry} {entries : List Entry}
    (hnodup : (entries.map fun e => (e.method, e.pattern)).Nodup) :
    d ∈ put e entries ↔ d = e ∨ d ∈ entries ∧ ¬(d.method = e.method ∧ d.pattern = e.pattern) := by
  induction entries with
  | nil => simp [put]
  | cons c rest ih =>
    obtain ⟨hfresh, hrest⟩ := List.nodup_cons.mp hnodup
    rw [put]
    split
    · next hsame =>
      have hothers : ∀ x ∈ rest, ¬(x.method = e.method ∧ x.pattern = e.pattern) := by
        rintro x hx ⟨hmethod, hpattern⟩
        refine hfresh (List.mem_map.mpr ⟨x, hx, ?_⟩)
        exact Prod.ext (hmethod.trans hsame.1.symm) (hpattern.trans hsame.2.symm)
      rw [List.mem_cons, List.mem_cons]
      constructor
      · exact fun h => h.imp id fun hd => ⟨.inr hd, hothers d hd⟩
      · rintro (h | ⟨rfl | hd, hother⟩)
        · exact .inl h
        · exact absurd hsame hother
        · exact .inr hd
    · next hother =>
      rw [List.mem_cons, List.mem_cons, ih hrest]
      constructor
      · rintro (rfl | h | ⟨hd, hd'⟩)
        · exact .inr ⟨.inl rfl, hother⟩
        · exact .inl h
        · exact .inr ⟨.inr hd, hd'⟩
      · rintro (h | ⟨rfl | hd, hd'⟩)
        · exact .inr (.inl h)
        · exact .inl rfl
        · exact .inr (.inr ⟨hd, hd'⟩)

theorem parse_ne_star (method : String) : MethodKey.parse method ≠ .exact "*" := by
  unfold MethodKey.parse
  simp only
  split
  · exact nofun
  · next h => exact fun hstar => h (.inl (MethodKey.exact.inj hstar))

namespace Sound

variable {t : Table}

theorem add (h : t.Sound) (method pattern handler : String) : (t.add method pattern handler).Sound where
  once := by
    unfold Table.add
    rw [keys_put]
    split
    · exact h.once
    · next hnew => exact List.nodup_append.mpr ⟨h.once, List.nodup_singleton _, by simpa using hnew⟩
  proper := by
    intro e he
    have hstar := parse_ne_star method
    rw [Table.add] at he
    generalize MethodKey.parse method = key at he hstar
    rcases mem_of_mem_put he with rfl | he
    · exact hstar
    · exact h.proper e he

theorem distinct (h : t.Sound) (key : MethodKey) : Distinct (t.under key) := by
  intro d hd e he hpattern
  obtain ⟨hd, hdkey⟩ := List.mem_filter.mp hd
  obtain ⟨he, hekey⟩ := List.mem_filter.mp he
  refine List.inj_on_of_nodup_map h.once hd he ?_
  rw [of_decide_eq_true hdkey, of_decide_eq_true hekey, hpattern]

end Sound

/-- The key whose routes answer: the method's own if one of its routes fits. -/
def answering (t : Table) (method path : String) : MethodKey :=
  if ∃ e ∈ t.under (.parse method), Fits e.pattern path then .parse method else .any

theorem resolve_eq (t : Table) (method path : String) :
    t.resolve method path = resolveAmong (t.under (t.answering method path)) path := by
  unfold resolve answering
  by_cases hfits : ∃ e ∈ t.under (.parse method), Fits e.pattern path
  · rw [if_pos hfits]
    have hfound : resolveAmong (t.under (.parse method)) path ≠ none := by
      rw [Ne, resolveAmong_eq_none_iff]
      push Not
      exact hfits
    obtain ⟨m, hm⟩ := Option.ne_none_iff_exists'.mp hfound
    cases hkey : MethodKey.parse method with
    | any => rfl
    | exact name =>
      rw [hkey] at hm
      simp only [hm]
  · rw [if_neg hfits]
    push Not at hfits
    rw [← resolveAmong_eq_none_iff] at hfits
    cases hkey : MethodKey.parse method with
    | any => rfl
    | exact name =>
      rw [hkey] at hfits
      simp only [hfits]

theorem resolve_eq_some_iff {t : Table} (h : t.Sound) {method path : String} {m : Match} :
    t.resolve method path = some m ↔
      Answers (t.under (t.answering method path)) path m := by
  rw [resolve_eq]
  exact resolveAmong_eq_some_iff (h.distinct _)

theorem mem_under {t : Table} {key : MethodKey} {e : Entry} :
    e ∈ t.under key ↔ e ∈ t.entries ∧ e.method = key := by
  simp [under]

theorem resolve_eq_none_iff {t : Table} {method path : String} :
    t.resolve method path = none ↔
      ∀ e ∈ t.entries, e.method = .parse method ∨ e.method = .any → ¬Fits e.pattern path := by
  rw [resolve_eq, resolveAmong_eq_none_iff, answering]
  constructor
  · intro h e he hmethod hfits
    split at h
    · next hown =>
      obtain ⟨d, hd, hdfits⟩ := hown
      exact h d hd hdfits
    · next hown =>
      rcases hmethod with hmethod | hmethod
      · exact hown ⟨e, mem_under.mpr ⟨he, hmethod⟩, hfits⟩
      · exact h e (mem_under.mpr ⟨he, hmethod⟩) hfits
  · intro h e he hfits
    obtain ⟨he, hmethod⟩ := mem_under.mp he
    split at hmethod
    · exact h e he (.inl hmethod) hfits
    · exact h e he (.inr hmethod) hfits

/-- A table answers by its set of routes. -/
theorem resolve_congr {t t' : Table} (h : t.Sound) (h' : t'.Sound)
    (hsame : ∀ e, e ∈ t.entries ↔ e ∈ t'.entries) (method path : String) :
    t.resolve method path = t'.resolve method path := by
  have hunder : ∀ key e, e ∈ t.under key ↔ e ∈ t'.under key := by
    intro key e
    rw [mem_under, mem_under, hsame]
  have hkey : t.answering method path = t'.answering method path := by
    unfold answering
    simp only [hunder]
  refine Option.ext fun m => ?_
  rw [resolve_eq_some_iff h, resolve_eq_some_iff h', hkey]
  exact ⟨fun hm => hm.congr (hunder _), fun hm => hm.congr fun e => (hunder _ e).symm⟩

/-- A route as it is listed. -/
def row (e : Entry) : String × String × String := (e.method.text, e.pattern, e.handler)

/-- The text of a method tells it from all others but the wildcard's own spelling. -/
theorem eq_of_row_eq {d e : Entry} (hd : d.method ≠ .exact "*") (he : e.method ≠ .exact "*")
    (h : row d = row e) : d = e := by
  obtain ⟨dkey, dpattern, dhandler⟩ := d
  obtain ⟨ekey, epattern, ehandler⟩ := e
  simp only [row, Prod.mk.injEq] at h
  obtain ⟨htext, rfl, rfl⟩ := h
  have hkey : dkey = ekey := by
    cases dkey with
    | exact a =>
      cases ekey with
      | exact b => exact congrArg _ htext
      | any => exact absurd (congrArg MethodKey.exact htext) hd
    | any =>
      cases ekey with
      | exact b => exact absurd (congrArg MethodKey.exact htext).symm he
      | any => rfl
  rw [hkey]

theorem mem_iff_of_routes_eq {t t' : Table} (h : t.Sound) (h' : t'.Sound)
    (hroutes : t.routes = t'.routes) (e : Entry) : e ∈ t.entries ↔ e ∈ t'.entries := by
  have hrows : ∀ r, r ∈ t.entries.map row ↔ r ∈ t'.entries.map row := by
    intro r
    have hlisted : ∀ s : Table, r ∈ s.routes ↔ r ∈ s.entries.map row := fun s =>
      List.mem_mergeSort
    rw [← hlisted, ← hlisted, hroutes]
  constructor
  · intro he
    obtain ⟨d, hd, hrow⟩ := List.mem_map.mp ((hrows _).mp (List.mem_map_of_mem he))
    exact eq_of_row_eq (h'.proper d hd) (h.proper e he) hrow ▸ hd
  · intro he
    obtain ⟨d, hd, hrow⟩ := List.mem_map.mp ((hrows _).mpr (List.mem_map_of_mem he))
    exact eq_of_row_eq (h.proper d hd) (h'.proper e he) hrow ▸ hd

/-- The order of the listing. -/
def rowLe (a b : String × String × String) : Bool :=
  if a.1 ≠ b.1 then decide (a.1 < b.1)
  else if a.2.1 ≠ b.2.1 then decide (a.2.1 < b.2.1)
  else decide (a.2.2 ≤ b.2.2)

theorem rowLe_iff {a b : String × String × String} :
    rowLe a b = true ↔ toLex (a.1, toLex a.2) ≤ toLex (b.1, toLex b.2) := by
  rw [Prod.Lex.toLex_le_toLex, Prod.Lex.toLex_le_toLex, rowLe]
  by_cases hmethod : a.1 = b.1 <;> by_cases hpattern : a.2.1 = b.2.1 <;> simp [hmethod, hpattern]

/-- The listing does not show in which order the routes came. -/
theorem routes_eq_of_perm {t t' : Table} (h : t.entries.Perm t'.entries) : t.routes = t'.routes := by
  have hsorted : ∀ s : Table, s.routes.Pairwise fun a b => rowLe a b = true := by
    intro s
    have htrans : ∀ a b c, rowLe a b = true → rowLe b c = true → rowLe a c = true := fun a b c hab hbc =>
      rowLe_iff.mpr ((rowLe_iff.mp hab).trans (rowLe_iff.mp hbc))
    have htotal : ∀ a b, (rowLe a b || rowLe b a) = true := by
      intro a b
      rw [Bool.or_eq_true, rowLe_iff, rowLe_iff]
      exact le_total _ _
    exact List.pairwise_mergeSort htrans htotal _
  have hperm : t.routes.Perm t'.routes :=
    (List.mergeSort_perm _ _).trans ((h.map _).trans (List.mergeSort_perm _ _).symm)
  refine hperm.eq_of_pairwise (fun a b _ _ hab hba => ?_) (hsorted t) (hsorted t')
  have heq := (rowLe_iff.mp hab).antisymm (rowLe_iff.mp hba)
  simpa [Prod.ext_iff] using heq

/-- What is said when a route is added. -/
structure Addition where
  method : String
  pattern : String
  handler : String

/-- The table that some additions make. -/
def built (adds : List Addition) : Table :=
  adds.foldl (fun t a => t.add a.method a.pattern a.handler) {}

theorem sound_built (adds : List Addition) : (built adds).Sound := by
  have hfold : ∀ t : Table, t.Sound →
      (adds.foldl (fun t a => t.add a.method a.pattern a.handler) t).Sound := by
    induction adds with
    | nil => exact fun t h => h
    | cons a rest ih => exact fun t h => ih _ (h.add a.method a.pattern a.handler)
  exact hfold {} ⟨List.nodup_nil, nofun⟩

/-- The route that is asked for. -/
def Addition.entry (a : Addition) : Entry := ⟨.parse a.method, a.pattern, a.handler⟩

theorem built_append (adds more : List Addition) :
    built (adds ++ more) = more.foldl (fun t a => t.add a.method a.pattern a.handler) (built adds) :=
  List.foldl_append

theorem entries_built_append_singleton (adds : List Addition) (a : Addition) :
    (built (adds ++ [a])).entries = put a.entry (built adds).entries := by
  rw [built_append]
  rfl

/-- Whatever was added, the table has a route for its method and pattern. -/
theorem exists_entry_of_mem {adds : List Addition} {a : Addition} (h : a ∈ adds) :
    ∃ e ∈ (built adds).entries, e.method = a.entry.method ∧ e.pattern = a.entry.pattern := by
  induction adds using List.reverseRecOn with
  | nil => cases h
  | append_singleton adds b ih =>
    simp only [entries_built_append_singleton, mem_put_iff (sound_built adds).once]
    by_cases hsame : b.entry.method = a.entry.method ∧ b.entry.pattern = a.entry.pattern
    · exact ⟨b.entry, .inl rfl, hsame⟩
    · have ha : a ∈ adds := by
        refine (List.mem_append.mp h).resolve_right fun hlast => hsame ?_
        rw [List.mem_singleton.mp hlast]
        exact ⟨rfl, rfl⟩
      obtain ⟨e, he, hmethod, hpattern⟩ := ih ha
      refine ⟨e, .inr ⟨he, fun hkey => hsame ?_⟩, hmethod, hpattern⟩
      exact ⟨hkey.1.symm.trans hmethod, hkey.2.symm.trans hpattern⟩

/-- A table holds what was added to it last for each method and pattern, and nothing else. -/
theorem mem_entries_built_iff {adds : List Addition} {e : Entry} :
    e ∈ (built adds).entries ↔ ∃ before a later, adds = before ++ a :: later ∧ a.entry = e ∧
      ∀ b ∈ later, ¬(b.entry.method = e.method ∧ b.entry.pattern = e.pattern) := by
  induction adds using List.reverseRecOn with
  | nil =>
    refine iff_of_false List.not_mem_nil ?_
    rintro ⟨before, a, later, h, -⟩
    simp at h
  | append_singleton adds a ih =>
    rw [entries_built_append_singleton, mem_put_iff (sound_built adds).once, ih]
    constructor
    · rintro (rfl | ⟨⟨before, b, later, rfl, rfl, hlater⟩, hother⟩)
      · exact ⟨adds, a, [], rfl, rfl, nofun⟩
      · refine ⟨before, b, later ++ [a], by simp, rfl, fun c hc => ?_⟩
        rcases List.mem_append.mp hc with hc | hc
        · exact hlater c hc
        · obtain rfl := List.mem_singleton.mp hc
          exact fun h => hother ⟨h.1.symm, h.2.symm⟩
    · rintro ⟨before, b, later, hsplit, rfl, hlater⟩
      rcases List.eq_nil_or_concat later with rfl | ⟨later, c, rfl⟩
      · obtain ⟨-, hlast⟩ := List.append_inj' hsplit rfl
        cases hlast
        exact .inl rfl
      · rw [List.concat_eq_append, ← List.cons_append, ← List.append_assoc] at hsplit
        obtain ⟨rfl, hlast⟩ := List.append_inj' hsplit rfl
        cases hlast
        rw [List.concat_eq_append] at hlater
        have hother := hlater a (List.mem_append_right later (List.mem_singleton_self a))
        exact .inr ⟨⟨before, b, later, rfl, rfl, fun c hc => hlater c (List.mem_append_left _ hc)⟩,
          fun h => hother ⟨h.1.symm, h.2.symm⟩⟩

/-- Whatever has been added, a table answers with the route that ranks first among the method's own routes
that fit, or among those for all methods; it finds nothing only if none of them fits; and it answers like
every table that lists the same routes. -/
theorem resolution_by_rank (adds : List Addition) :
    (∀ method path m, (built adds).resolve method path = some m ↔
      Answers ((built adds).under ((built adds).answering method path)) path m) ∧
    (∀ method path, (built adds).resolve method path = none ↔
      ∀ e ∈ (built adds).entries, e.method = .parse method ∨ e.method = .any →
        ¬Fits e.pattern path) ∧
    ∀ adds', (built adds).routes = (built adds').routes → ∀ method path,
      (built adds).resolve method path = (built adds').resolve method path := by
  have h := sound_built adds
  refine ⟨fun _ _ _ => resolve_eq_some_iff h, fun _ _ => resolve_eq_none_iff, ?_⟩
  intro adds' hroutes
  have h' := sound_built adds'
  exact resolve_congr h h' (mem_iff_of_routes_eq h h' hroutes)

/-- A route that is replaced under another spelling of its method. -/
def replacing : List Addition :=
  [⟨"GET", "/a/:x", "old"⟩, ⟨"*", "/:a/:b", "any"⟩, ⟨" get", "/a/:x", "new"⟩]

/-- The same routes in another order. -/
def reordered : List Addition := [⟨"ANY", "/:a/:b", "any"⟩, ⟨"Get", "/a/:x", "new"⟩]

theorem routes_replacing : (built replacing).routes = (built reordered).routes :=
  routes_eq_of_perm (by decide +kernel)

theorem replacing_resolves :
    Answers ((built replacing).under ((built replacing).answering "get" "/a/1")) "/a/1"
        ⟨"new", "/a/:x", [("x", "1")]⟩ ∧
      (built replacing).routes = (built reordered).routes ∧
      (built replacing).resolve "POST" "/a/1" = (built reordered).resolve "POST" "/a/1" := by
  obtain ⟨hanswers, -, hlisted⟩ := resolution_by_rank replacing
  exact ⟨(hanswers _ _ _).mp (by decide +kernel), routes_replacing,
    hlisted reordered routes_replacing _ _⟩

end Table
end GuestHost.Route
