import GuestHost.Proofs.Bridge.Reading
import GuestHost.Proofs.Decimal.Doubles
import GuestHost.Value.Display
/-!
The text of arrays and objects. It is written in two ways: for display at once, and as JSON by way of a
document, which there is only if every float has digits. Where there is one the two texts are the same; where
there is none the first float without digits is named.
-/
namespace GuestHost

namespace Value

mutual

/-- The floats in a value, in the order of its items and members. -/
def floats : Value → List Float
  | float x => [x]
  | array items => floatsOfItems items
  | object members => floatsOfMembers members
  | _ => []

def floatsOfItems : List Value → List Float
  | [] => []
  | v :: rest => v.floats ++ floatsOfItems rest

def floatsOfMembers : List (String × Value) → List Float
  | [] => []
  | (_, v) :: rest => v.floats ++ floatsOfMembers rest

end

theorem mem_floatsOfItems_iff {x : Float} {vs : List Value} :
    x ∈ floatsOfItems vs ↔ ∃ v ∈ vs, x ∈ v.floats := by
  induction vs with
  | nil => simp [floatsOfItems]
  | cons v rest ih => simp [floatsOfItems, ih]

theorem mem_floatsOfMembers_iff {x : Float} {ms : List (String × Value)} :
    x ∈ floatsOfMembers ms ↔ ∃ m ∈ ms, x ∈ m.2.floats := by
  induction ms with
  | nil => simp [floatsOfMembers]
  | cons m rest ih => simp [floatsOfMembers, ih]

theorem PartAt.mem_floats {v p : Value} {n : Nat} (h : v.PartAt n p) {x : Float} (hx : p = float x) :
    x ∈ v.floats := by
  induction h with
  | self v =>
    subst hx
    exact List.mem_singleton_self x
  | item hv _ ih => exact mem_floatsOfItems_iff.mpr ⟨_, hv, ih hx⟩
  | member hv _ ih => exact mem_floatsOfMembers_iff.mpr ⟨_, hv, ih hx⟩

theorem exists_partAt_of_mem_floats {v : Value} {x : Float} (h : x ∈ v.floats) :
    ∃ n, v.PartAt n (float x) := by
  induction v using part_induction with
  | step v ih =>
    cases v with
    | float y =>
      obtain rfl := List.mem_singleton.mp h
      exact ⟨0, .self _⟩
    | array items =>
      obtain ⟨w, hw, hx⟩ := mem_floatsOfItems_iff.mp h
      obtain ⟨n, hpart⟩ := ih w (.item hw (.self w)) hx
      exact ⟨n + 1, .item hw hpart⟩
    | object members =>
      obtain ⟨m, hm, hx⟩ := mem_floatsOfMembers_iff.mp h
      obtain ⟨n, hpart⟩ := ih m.2 (.member hm (.self m.2)) hx
      exact ⟨n + 1, .member hm hpart⟩
    | _ => cases h

theorem mem_floats_iff {v : Value} {x : Float} : x ∈ v.floats ↔ ∃ n, v.PartAt n (float x) :=
  ⟨exists_partAt_of_mem_floats, fun ⟨_, h⟩ => h.mem_floats rfl⟩

mutual

/-- The text of a value in a container: undefined items are `null`, undefined members are left out, and a
comma stands between any two pieces that are written. -/
def nestedText : Value → List Char
  | undefined => "null".toList
  | null => "null".toList
  | boolean b => Json.booleanText b
  | integer n => Json.integerText n.toInt
  | float x => floatDisplay x
  | string s => Json.stringText s
  | array items => '[' :: [','].intercalate (itemTexts items) ++ [']']
  | object members => '{' :: [','].intercalate (memberTexts members) ++ ['}']

def itemTexts : List Value → List (List Char)
  | [] => []
  | v :: rest => v.nestedText :: itemTexts rest

def memberTexts : List (String × Value) → List (List Char)
  | [] => []
  | (k, v) :: rest =>
    if v.isUndefined then memberTexts rest
    else (Json.stringText k ++ ':' :: v.nestedText) :: memberTexts rest

end

/-- Pieces with a comma before each but perhaps the first. -/
def commas (first : Bool) : List (List Char) → List Char
  | [] => []
  | p :: rest => Json.separated first p ++ commas false rest

theorem commas_true (ps : List (List Char)) : commas true ps = [','].intercalate ps := by
  cases ps with
  | nil => rfl
  | cons p rest =>
    have hrest : ∀ p : List Char, p ++ commas false rest = [','].intercalate (p :: rest) := by
      induction rest with
      | nil => simp [commas]
      | cons q rest ih => simp [commas, Json.separated, ih]
    exact hrest p

theorem separated_append (first : Bool) (cs after : List Char) :
    Json.separated first cs ++ after = Json.separated first (cs ++ after) := by
  cases first <;> rfl

mutual

/-- What is written for display is the text with commas in their places. -/
theorem nestedBefore_eq : ∀ (v : Value) (after : List Char), v.nestedBefore after = v.nestedText ++ after
  | undefined, _ => rfl
  | null, _ => rfl
  | boolean _, _ => rfl
  | integer _, _ => rfl
  | float _, _ => rfl
  | string _, _ => rfl
  | array items, after => by
    show '[' :: nestedItems true items (']' :: after) =
      '[' :: [','].intercalate (itemTexts items) ++ [']'] ++ after
    rw [nestedItems_eq true items, commas_true]
    simp
  | object members, after => by
    show '\x7b' :: nestedMembers true members ('\x7d' :: after) =
      '\x7b' :: [','].intercalate (memberTexts members) ++ ['\x7d'] ++ after
    rw [nestedMembers_eq true members, commas_true]
    simp

theorem nestedItems_eq (first : Bool) : ∀ (vs : List Value) (after : List Char),
    nestedItems first vs after = commas first (itemTexts vs) ++ after
  | [], _ => rfl
  | v :: rest, after => by
    rw [nestedItems, itemTexts, commas, nestedItems_eq false rest, nestedBefore_eq v,
      List.append_assoc, separated_append]

theorem nestedMembers_eq (first : Bool) : ∀ (ms : List (String × Value)) (after : List Char),
    nestedMembers first ms after = commas first (memberTexts ms) ++ after
  | [], _ => rfl
  | (k, v) :: rest, after => by
    rw [nestedMembers, memberTexts]
    split
    · exact nestedMembers_eq first rest after
    · rw [commas, nestedMembers_eq false rest, nestedBefore_eq v, List.append_assoc, separated_append]
      simp

end

end Value

namespace Json.Document

open Value (floats floatsOfItems floatsOfMembers nestedItems nestedMembers)

/-- The test for floats that JSON has no number for. -/
def lacksDigits (x : Float) : Bool := !x.isFinite

mutual

/-- A document's text is the text that is written of its value for display. -/
theorem textBefore_ofValue : ∀ (v : Value) {d : Document} (after : List Char), ofValue v = .ok d →
    d.textBefore after = v.nestedBefore after
  | .undefined, _, _, h => by cases h; rfl
  | .null, _, _, h => by cases h; rfl
  | .boolean _, _, _, h => by cases h; rfl
  | .integer _, _, _, h => by cases h; rfl
  | .string _, _, _, h => by cases h; rfl
  | .float x, d, after, h => by
    rw [ofValue] at h
    split at h
    · next hx =>
      cases h
      obtain ⟨text, htext⟩ := Option.isSome_iff_exists.mp (Decimal.isSome_floatText? hx)
      show (Number.real x).text ++ after = Value.floatDisplay x ++ after
      rw [Number.text, Value.floatDisplay, htext]
      rfl
    · cases h
  | .array items, d, after, h => by
    obtain ⟨ds, hds, rfl⟩ := Except.map_eq_ok_iff.mp h
    exact congrArg ('[' :: ·) (itemsBefore_ofValues true items _ hds)
  | .object members, d, after, h => by
    obtain ⟨ds, hds, rfl⟩ := Except.map_eq_ok_iff.mp h
    exact congrArg ('\x7b' :: ·) (membersBefore_ofMembers true members _ hds)

theorem itemsBefore_ofValues (first : Bool) : ∀ (vs : List Value) {ds : List Document}
    (after : List Char), ofValues vs = .ok ds → itemsBefore first ds after = nestedItems first vs after
  | [], _, _, h => by cases h; rfl
  | v :: rest, ds, after, h => by
    simp only [ofValues, Except.bind_eq_ok_iff, Except.pure_eq_ok_iff] at h
    obtain ⟨d, hd, ds', hds, rfl⟩ := h
    rw [itemsBefore, nestedItems, itemsBefore_ofValues false rest after hds, textBefore_ofValue v _ hd]

theorem membersBefore_ofMembers (first : Bool) : ∀ (ms : List (String × Value))
    {ds : List (String × Document)} (after : List Char), ofMembers ms = .ok ds →
      membersBefore first ds after = nestedMembers first ms after
  | [], _, _, h => by cases h; rfl
  | (k, v) :: rest, ds, after, h => by
    rw [ofMembers] at h
    split at h
    · next hv =>
      rw [nestedMembers, if_pos hv]
      exact membersBefore_ofMembers first rest after h
    · next hv =>
      simp only [Except.bind_eq_ok_iff, Except.pure_eq_ok_iff] at h
      obtain ⟨d, hd, ds', hds, rfl⟩ := h
      rw [nestedMembers, if_neg hv, membersBefore, membersBefore_ofMembers false rest after hds,
        textBefore_ofValue v _ hd]

end

/-- The first failure of two parts is that of the first float without digits in both. -/
theorem error_append_iff {α β γ : Type} {a : Except Float α} {b : Except Float β} {f : α → β → γ}
    {xs ys : List Float} (ha : ∀ x, a = .error x ↔ xs.find? lacksDigits = some x)
    (hb : ∀ x, b = .error x ↔ ys.find? lacksDigits = some x) (x : Float) :
    (do return f (← a) (← b)) = (.error x : Except Float γ) ↔
      (xs ++ ys).find? lacksDigits = some x := by
  rw [List.find?_append]
  cases a with
  | error y =>
    have hy := (ha y).mp rfl
    simp [hy]
  | ok c =>
    have hnone : xs.find? lacksDigits = none := by
      cases hfind : xs.find? lacksDigits with
      | none => rfl
      | some y => cases (ha y).mpr hfind
    rw [hnone, Option.none_or, ← hb]
    cases b <;> simp [pure, Except.pure]

mutual

/-- There is a document for a value unless a float lacks digits; then the first such float is named. -/
theorem ofValue_eq_error_iff : ∀ (v : Value) (x : Float),
    ofValue v = .error x ↔ v.floats.find? lacksDigits = some x
  | .float y, x => by
    rw [ofValue, floats]
    cases hy : y.isFinite <;> simp [lacksDigits, hy]
  | .array items, x => by
    rw [ofValue, floats, Except.map_eq_error_iff]
    exact ofValues_eq_error_iff items x
  | .object members, x => by
    rw [ofValue, floats, Except.map_eq_error_iff]
    exact ofMembers_eq_error_iff members x
  | .undefined, _ => by simp [ofValue, floats]
  | .null, _ => by simp [ofValue, floats]
  | .boolean _, _ => by simp [ofValue, floats]
  | .integer _, _ => by simp [ofValue, floats]
  | .string _, _ => by simp [ofValue, floats]

theorem ofValues_eq_error_iff : ∀ (vs : List Value) (x : Float),
    ofValues vs = .error x ↔ (floatsOfItems vs).find? lacksDigits = some x
  | [], _ => by simp [ofValues, floatsOfItems]
  | v :: rest, x => error_append_iff (ofValue_eq_error_iff v) (ofValues_eq_error_iff rest) x

theorem ofMembers_eq_error_iff : ∀ (ms : List (String × Value)) (x : Float),
    ofMembers ms = .error x ↔ (floatsOfMembers ms).find? lacksDigits = some x
  | [], _ => by simp [ofMembers, floatsOfMembers]
  | (k, v) :: rest, x => by
    rw [ofMembers]
    split
    · next hv =>
      have hfloats : v.floats = [] := by
        cases v with
        | undefined => rfl
        | _ => cases hv
      rw [floatsOfMembers, hfloats, List.nil_append]
      exact ofMembers_eq_error_iff rest x
    · exact error_append_iff (ofValue_eq_error_iff v) (ofMembers_eq_error_iff rest) x

end

end Json.Document

namespace Json

open Document (lacksDigits)

theorem write_eq_error_iff {v : Value} {x : Float} :
    write v = .error x ↔ v.floats.find? lacksDigits = some x := by
  rw [write, Except.map_eq_error_iff, Document.ofValue_eq_error_iff]

/-- Writing fails where a float lacks digits. -/
theorem exists_write_eq_error_iff {v : Value} :
    (∃ x, write v = .error x) ↔
      ∃ n x, v.PartAt n (.float x) ∧ (x.isNaN = true ∨ x.isInf = true) := by
  simp only [write_eq_error_iff, ← Option.isSome_iff_exists, List.find?_isSome, Value.mem_floats_iff]
  constructor
  · rintro ⟨x, ⟨n, hpart⟩, hx⟩
    have hfinite : x.isFinite = false := by simpa [lacksDigits] using hx
    exact ⟨n, x, hpart, (Decimal.isFinite_eq_false_iff x).mp hfinite⟩
  · rintro ⟨n, x, hpart, hx⟩
    have hfinite := (Decimal.isFinite_eq_false_iff x).mpr hx
    exact ⟨x, ⟨n, hpart⟩, by simp [lacksDigits, hfinite]⟩

end Json

namespace Value

theorem display_container {v : Value} (hv : v.kind = .array ∨ v.kind = .object) :
    v.display = String.ofList v.nestedText := by
  have hnested : v.display = String.ofList (v.nestedBefore []) := by
    cases v <;> simp [kind] at hv <;> rfl
  rw [hnested, nestedBefore_eq, List.append_nil]

/-- An array or an object is always displayed, with commas in their places. Its JSON text is the same if
there is one; and there is none if NaN or an infinity lies anywhere in it, of which the first is named. -/
theorem display_agrees_with_json (v : Value) (hv : v.kind = .array ∨ v.kind = .object) :
    (∀ s, Json.write v = .ok s → v.display = s) ∧
      ((∃ x, Json.write v = .error x) ↔
        ∃ n x, v.PartAt n (.float x) ∧ (x.isNaN = true ∨ x.isInf = true)) ∧
      (∀ x, Json.write v = .error x ↔ v.floats.find? (fun x => !x.isFinite) = some x) ∧
      v.display = String.ofList v.nestedText := by
  have hdisplay := display_container hv
  refine ⟨fun s hs => ?_, Json.exists_write_eq_error_iff, fun x => Json.write_eq_error_iff, hdisplay⟩
  obtain ⟨d, hd, rfl⟩ := Except.map_eq_ok_iff.mp hs
  rw [hdisplay, Json.Document.text, Json.Document.textBefore_ofValue v [] hd, nestedBefore_eq,
    List.append_nil]

/-- What is left out leaves no comma behind; and of two infinities the first is named, while both are
displayed. -/
theorem infinities_displayed :
    let w : Value := .array [.object [("gone", .undefined), ("kept", .string "q")], .undefined]
    let v : Value := .array [.undefined, .float (Float.ofBits 0xFFF0000000000000),
      .float (Float.ofBits 0x7FF0000000000000)]
    (Json.write w = .ok "[\x7b\"kept\":\"q\"\x7d,null]" ∧ w.display = "[\x7b\"kept\":\"q\"\x7d,null]") ∧
      Json.write v = .error (Float.ofBits 0xFFF0000000000000) ∧ v.display = "[null,-Infinity,Infinity]" := by
  intro w v
  obtain ⟨hsame, -⟩ := display_agrees_with_json w (.inl rfl)
  obtain ⟨-, -, hfirst, hdisplay⟩ := display_agrees_with_json v (.inl rfl)
  have hwrite : Json.write w = .ok "[\x7b\"kept\":\"q\"\x7d,null]" := by cbv
  have htext : v.nestedText = "[null,-Infinity,Infinity]".toList := by decide
  refine ⟨⟨hwrite, hsame _ hwrite⟩, (hfirst _).mpr (by decide), ?_⟩
  rw [hdisplay, htext, String.ofList_toList]

end Value
end GuestHost
