import GuestHost.Proofs.Route.Resolution
/-!
Parameters and the paths that they stand for. A path that a pattern fits is the pattern again, with each
parameter replaced by what it is bound to. Replacing the parameters by any pieces makes a path that the
pattern fits, so a table that has the pattern answers it.
-/
namespace GuestHost.Route

/-- What a parameter can stand for: one piece of a path, which is not empty. -/
structure Fills (value : String) : Prop where
  ne_empty : value ≠ ""
  slash_notMem : '/' ∉ value.toList

namespace Segment

/-- How a segment is written in a pattern. -/
def text : Segment → String
  | literal text => text
  | param name => ":" ++ name

def name? : Segment → Option String
  | literal _ => none
  | param name => some name

/-- A segment is written as the piece that it was read from. -/
theorem text_ofPiece (piece : String) : (ofPiece piece).text = piece := by
  unfold ofPiece
  split
  · next c cs h =>
    apply String.toList_injective
    simp [text, h]
  · rfl

end Segment

/-- The names of the parameters, in order. -/
def paramNames (pattern : String) : List String := (segments pattern).filterMap Segment.name?

/-- The pieces of a pattern with values in the places of its parameters, in order. A parameter for which no
value is left stays as it is written. -/
def filledPieces : List Segment → List String → List String
  | [], _ => []
  | .param _ :: ss, v :: vs => v :: filledPieces ss vs
  | s :: ss, vs => s.text :: filledPieces ss vs

/-- The pattern with its parameters replaced by values, in order. -/
def filled (pattern : String) (values : List String) : String :=
  "/".intercalate (filledPieces (segments pattern) values)

/-! ### Pieces and slashes -/

theorem slash_notMem_splitSlash (cs : List Char) : ∀ piece ∈ splitSlash cs, '/' ∉ piece := by
  induction cs with
  | nil => simp [splitSlash]
  | cons c cs ih =>
    rw [splitSlash]
    split
    · simpa using ih
    · next hc =>
      rcases hs : splitSlash cs with _ | ⟨s, ss⟩
      · simp [Ne.symm hc]
      · rw [hs] at ih
        obtain ⟨hfirst, hrest⟩ := List.forall_mem_cons.mp ih
        have hpiece : '/' ∉ c :: s := by simp [Ne.symm hc, hfirst]
        exact List.forall_mem_cons.mpr ⟨hpiece, hrest⟩

theorem slash_notMem_pieces {path piece : String} (h : piece ∈ pieces path) : '/' ∉ piece.toList := by
  obtain ⟨cs, hcs, rfl⟩ := List.mem_map.mp h
  simpa using slash_notMem_splitSlash _ cs hcs

theorem splitSlash_of_slash_notMem {cs : List Char} (h : '/' ∉ cs) : splitSlash cs = [cs] := by
  induction cs with
  | nil => rfl
  | cons c cs ih =>
    obtain ⟨hc, hcs⟩ : '/' ≠ c ∧ '/' ∉ cs := by simpa using h
    rw [splitSlash, if_neg (Ne.symm hc), ih hcs]

/-- A piece is cut off at the slash behind it. -/
theorem splitSlash_append {cs : List Char} (h : '/' ∉ cs) (rest : List Char) :
    splitSlash (cs ++ '/' :: rest) = cs :: splitSlash rest := by
  induction cs with
  | nil => simp [splitSlash]
  | cons c cs ih =>
    obtain ⟨hc, hcs⟩ : '/' ≠ c ∧ '/' ∉ cs := by simpa using h
    rw [List.cons_append, splitSlash, if_neg (Ne.symm hc), ih hcs]

theorem splitSlash_intercalate {ps : List (List Char)} (hne : ps ≠ []) (h : ∀ p ∈ ps, '/' ∉ p) :
    splitSlash (['/'].intercalate ps) = ps := by
  induction ps with
  | nil => exact absurd rfl hne
  | cons p ps ih =>
    obtain ⟨hp, hps⟩ := List.forall_mem_cons.mp h
    cases ps with
    | nil => simp [splitSlash_of_slash_notMem hp]
    | cons q qs =>
      have hrest := ih (List.cons_ne_nil q qs) hps
      simp [List.intercalate_cons_cons, splitSlash_append hp, hrest]

/-- Pieces that are put together with slashes come back from the path. -/
theorem pieces_intercalate {ps : List String} (hne : ps ≠ []) (h : ∀ p ∈ ps, '/' ∉ p.toList) :
    pieces ("/".intercalate ps) = ps := by
  have hslash : "/".toList = ['/'] := rfl
  have hsplit : splitSlash (['/'].intercalate (ps.map String.toList)) = ps.map String.toList :=
    splitSlash_intercalate (by simpa using hne) (by simpa using h)
  simp [pieces, hslash, hsplit]

theorem intercalate_pieces (path : String) : "/".intercalate (pieces path) = path := by
  apply String.toList_injective
  simp [pieces, Function.comp_def, intercalate_splitSlash]

/-! ### Values in the places of parameters -/

/-- What fits is bound to the parameters in order, and fills them to the same pieces. -/
theorem filledPieces_boundPairs {ss : List Segment} {ps : List String}
    (h : List.Forall₂ Segment.Takes ss ps) :
    (boundPairs ss ps).map Prod.fst = ss.filterMap Segment.name? ∧
      (∀ v ∈ (boundPairs ss ps).map Prod.snd, v ∈ ps ∧ v ≠ "") ∧
      filledPieces ss ((boundPairs ss ps).map Prod.snd) = ps := by
  induction h with
  | nil => exact ⟨rfl, nofun, rfl⟩
  | @cons s p ss ps htakes _ ih =>
    obtain ⟨hnames, hvalues, hpieces⟩ := ih
    have hlater : ∀ v ∈ (boundPairs ss ps).map Prod.snd, v ∈ p :: ps ∧ v ≠ "" := fun v hv =>
      ⟨List.mem_cons_of_mem p (hvalues v hv).1, (hvalues v hv).2⟩
    cases s with
    | literal text =>
      obtain rfl : text = p := htakes
      exact ⟨hnames, hlater, congrArg (text :: ·) hpieces⟩
    | param name =>
      refine ⟨congrArg (name :: ·) hnames, ?_, congrArg (p :: ·) hpieces⟩
      exact List.forall_mem_cons.mpr ⟨⟨List.mem_cons_self, htakes⟩, hlater⟩

/-- Values for all parameters make pieces that the segments take. -/
theorem takes_filledPieces {ss : List Segment} {values : List String}
    (hlength : values.length = (ss.filterMap Segment.name?).length) (h : ∀ v ∈ values, v ≠ "") :
    List.Forall₂ Segment.Takes ss (filledPieces ss values) := by
  induction ss generalizing values with
  | nil => exact .nil
  | cons s ss ih =>
    cases s with
    | literal text => exact .cons rfl (ih hlength h)
    | param name =>
      cases values with
      | nil => cases hlength
      | cons v vs =>
        obtain ⟨hv, hvs⟩ := List.forall_mem_cons.mp h
        exact .cons hv (ih (Nat.succ.inj hlength) hvs)

/-- What is filled in comes from the pattern or from the values. -/
theorem mem_filledPieces {ss : List Segment} {values : List String} {p : String}
    (h : p ∈ filledPieces ss values) : (∃ s ∈ ss, p = s.text) ∨ p ∈ values := by
  fun_induction filledPieces ss values with
  | case1 => cases h
  | case2 name ss v vs ih =>
    rcases List.mem_cons.mp h with rfl | h
    · exact .inr List.mem_cons_self
    · refine (ih h).imp ?_ (List.mem_cons_of_mem v)
      rintro ⟨s, hs, rfl⟩
      exact ⟨s, List.mem_cons_of_mem _ hs, rfl⟩
  | case3 s ss vs _ ih =>
    rcases List.mem_cons.mp h with rfl | h
    · exact .inl ⟨s, List.mem_cons_self, rfl⟩
    · refine (ih h).imp_left ?_
      rintro ⟨s', hs', rfl⟩
      exact ⟨s', List.mem_cons_of_mem s hs', rfl⟩

/-- Each segment makes a piece. -/
theorem length_filledPieces (ss : List Segment) (values : List String) :
    (filledPieces ss values).length = ss.length := by
  fun_induction filledPieces ss values <;> simp [*]

variable {pattern path : String} {values : List String}

theorem pieces_filled (h : ∀ v ∈ values, '/' ∉ v.toList) :
    pieces (filled pattern values) = filledPieces (segments pattern) values := by
  apply pieces_intercalate
  · -- even the empty pattern has a segment
    have hne : segments pattern ≠ [] := by simp [segments, pieces, splitSlash_ne_nil]
    rw [← List.length_pos_iff, length_filledPieces]
    exact List.length_pos_iff.mpr hne
  · intro p hp
    rcases mem_filledPieces hp with ⟨s, hs, rfl⟩ | hp
    · obtain ⟨piece, hpiece, rfl⟩ := List.mem_map.mp hs
      rw [Segment.text_ofPiece]
      exact slash_notMem_pieces hpiece
    · exact h p hp

/-- A path that a pattern fits is the pattern with its parameters replaced by what they are bound to. -/
theorem Fits.rebuilt (h : Fits pattern path) :
    (bindings pattern path).map Prod.fst = paramNames pattern ∧
      (∀ v ∈ (bindings pattern path).map Prod.snd, Fills v) ∧
      filled pattern ((bindings pattern path).map Prod.snd) = path := by
  obtain ⟨hnames, hvalues, hpieces⟩ := filledPieces_boundPairs h
  refine ⟨hnames, fun v hv => ?_, ?_⟩
  · obtain ⟨hpiece, hne⟩ := hvalues v hv
    exact ⟨hne, slash_notMem_pieces hpiece⟩
  · unfold filled bindings
    rw [hpieces, intercalate_pieces]

theorem fits_filled (hlength : values.length = (paramNames pattern).length)
    (h : ∀ v ∈ values, Fills v) : Fits pattern (filled pattern values) := by
  unfold Fits
  rw [pieces_filled fun v hv => (h v hv).slash_notMem]
  exact takes_filledPieces hlength fun v hv => (h v hv).ne_empty

namespace Table

/-- An answer is the path itself as a pattern, or a pattern that fits the path. -/
theorem fits_of_resolve {t : Table} {method path : String} {m : Match}
    (h : t.resolve method path = some m) (hne : m.pattern ≠ path) :
    Fits m.pattern path ∧ m.params = bindings m.pattern path := by
  rw [resolve_eq, resolveAmong] at h
  split at h
  · cases h
    exact absurd rfl hne
  · rcases hc : candidates (t.under (t.answering method path)) path with _ | ⟨c, cs⟩
    · simp [hc] at h
    · obtain ⟨m', hm', hfold, -⟩ := foldl_choose_of_mem (hc ▸ List.mem_cons_self)
      cases hfold.symm.trans h
      obtain ⟨e, -, -, hfits, rfl⟩ := mem_candidates.mp hm'
      exact ⟨hfits, rfl⟩

/-- In an answer that is not the path itself, the parameters of the pattern are bound in order, each to a
piece of the path, and put in the places of the parameters these give the path. And whatever pieces are put
in the places of the parameters of a pattern that was added, its method finds a route for that path. -/
theorem parameters_rebuild_path :
    (∀ (t : Table) method path m, t.resolve method path = some m → m.pattern ≠ path →
      m.params.map Prod.fst = paramNames m.pattern ∧ (∀ v ∈ m.params.map Prod.snd, Fills v) ∧
        filled m.pattern (m.params.map Prod.snd) = path) ∧
    ∀ adds, ∀ a ∈ adds, ∀ values, values.length = (paramNames a.pattern).length →
      (∀ v ∈ values, Fills v) → (built adds).resolve a.method (filled a.pattern values) ≠ none := by
  constructor
  · intro t method path m hm hne
    obtain ⟨hfits, hparams⟩ := fits_of_resolve hm hne
    rw [hparams]
    exact hfits.rebuilt
  · intro adds a ha values hlength hvalues hnone
    obtain ⟨e, he, hmethod, hpattern⟩ := exists_entry_of_mem ha
    simp only [Addition.entry] at hmethod hpattern
    rw [resolve_eq_none_iff] at hnone
    apply hnone e he (.inl hmethod)
    rw [hpattern]
    exact fits_filled hlength hvalues

/-- A name that occurs twice, and a colon that is no parameter. -/
def repeating : List Addition := [⟨"GET", "/:a/:/:a", "twice"⟩, ⟨"GET", "/:a/x/1", "once"⟩]

theorem repeating_rebuilds :
    (built repeating).resolve "get" "/1/:/2" =
        some ⟨"twice", "/:a/:/:a", [("a", "1"), ("a", "2")]⟩ ∧
      paramNames "/:a/:/:a" = ["a", "a"] ∧ filled "/:a/:/:a" ["1", "2"] = "/1/:/2" ∧
      (built repeating).resolve "GET" (filled "/:a/:/:a" ["2", "1"]) ≠ none := by
  obtain ⟨hrebuilds, hfinds⟩ := parameters_rebuild_path
  have hfills : ∀ v ∈ ["2", "1"], Fills v := by
    simp only [List.forall_mem_cons]
    exact ⟨⟨by decide, by decide⟩, ⟨by decide, by decide⟩, nofun⟩
  have hresolve : (built repeating).resolve "get" "/1/:/2" =
      some ⟨"twice", "/:a/:/:a", [("a", "1"), ("a", "2")]⟩ := by
    decide +kernel
  obtain ⟨hnames, -, hpath⟩ := hrebuilds _ _ _ _ hresolve (by decide)
  exact ⟨hresolve, hnames.symm, hpath,
    hfinds repeating _ List.mem_cons_self ["2", "1"] (by decide +kernel) hfills⟩

end Table
end GuestHost.Route
