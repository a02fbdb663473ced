import GuestHost.Proofs.Schema.Buffered
import Mathlib.Data.List.Forall2
import Mathlib.Logic.Relation
/-!
Unions among the variants of a union. Such a union can give way to its own variants, in their order, and
nothing that is decoded shows it: the first variant that fits is the same, and so is the last that does not.
-/
namespace GuestHost.Schema

/-- Somewhere in a schema a union that is a variant of another one gives way to its variants. It has to have
some: a union without variants rejects with a failure of its own. -/
inductive Flattens : Schema → Schema → Prop where
  | here (before : List Schema) (s : Schema) (inner after : List Schema) :
      Flattens (union (before ++ union (s :: inner) :: after)) (union (before ++ (s :: inner) ++ after))
  | items {s t : Schema} (h : Flattens s t) : Flattens (array s) (array t)
  | position {s t : Schema} (before after : List Schema) (h : Flattens s t) :
      Flattens (tuple (before ++ s :: after)) (tuple (before ++ t :: after))
  | field {s t : Schema} (before after : List (String × Schema)) (name : String)
      (index : Option Schema) (h : Flattens s t) :
      Flattens (object (before ++ (name, s) :: after) index) (object (before ++ (name, t) :: after) index)
  | index {s t : Schema} (fields : List (String × Schema)) (h : Flattens s t) :
      Flattens (object fields (some s)) (object fields (some t))
  | variant {s t : Schema} (before after : List Schema) (h : Flattens s t) :
      Flattens (union (before ++ s :: after)) (union (before ++ t :: after))

/-- Two schemas that no value and no missing field tells apart. -/
structure Alike (s t : Schema) : Prop where
  undefined : s.acceptsUndefined = t.acceptsUndefined
  fit (v : Value) : s.fit v = t.fit v

/-- Fields of one name that are alike. -/
def AlikeFields (f g : String × Schema) : Prop := f.1 = g.1 ∧ Alike f.2 g.2

@[simp] theorem someAcceptsUndefined_append (ss ts : List Schema) :
    someAcceptsUndefined (ss ++ ts) = (someAcceptsUndefined ss || someAcceptsUndefined ts) := by
  induction ss with
  | nil => rfl
  | cons s ss ih => simp [someAcceptsUndefined, ih, Bool.or_assoc]

/-- What has failed before counts only if no variant is left. -/
theorem fitUnion_cons_last (s : Schema) (ss : List Schema) (last last' : Option Rejection) (v : Value) :
    fitUnion (s :: ss) last v = fitUnion (s :: ss) last' v := by
  rw [fitUnion, fitUnion]

/-- Variants are tried one after the other, and so are lists of them. -/
theorem fitUnion_append (ss ts : List Schema) (last : Option Rejection) (v : Value) :
    fitUnion (ss ++ ts) last v = match fitUnion ss last v with
      | .ok w => .ok w
      | .error r => fitUnion ts (some r) v := by
  induction ss generalizing last with
  | nil =>
    cases ts with
    | nil => rfl
    | cons t ts => exact fitUnion_cons_last t ts _ _ v
  | cons s ss ih =>
    rw [List.cons_append, fitUnion, fitUnion]
    cases s.fit v with
    | ok w => rfl
    | error r => exact ih (some r)

/-- Replacing one of a list by something related relates the lists. -/
theorem forall₂_replaced {α : Type} {R : α → α → Prop} (hrefl : ∀ a, R a a) {a b : α} (h : R a b)
    (before after : List α) : List.Forall₂ R (before ++ a :: after) (before ++ b :: after) := by
  have hsame : ∀ l : List α, List.Forall₂ R l l := fun l =>
    List.forall₂_same.mpr fun a _ => hrefl a
  exact List.rel_append (hsame before) (.cons h (hsame after))

/-! ### What is made of schemas that are alike -/

theorem fitTuple_congr {ss ts : List Schema} (h : List.Forall₂ Alike ss ts) (index : Nat)
    (vs : List Value) : fitTuple ss index vs = fitTuple ts index vs := by
  induction h generalizing index vs with
  | nil => rfl
  | cons hfirst _ ih =>
    cases vs with
    | nil => rfl
    | cons v vs => simp only [fitTuple, hfirst.fit, ih]

theorem fitUnion_congr {ss ts : List Schema} (h : List.Forall₂ Alike ss ts) (last : Option Rejection)
    (v : Value) : fitUnion ss last v = fitUnion ts last v := by
  induction h generalizing last with
  | nil => rfl
  | cons hfirst _ ih => simp only [fitUnion, hfirst.fit, ih]

theorem someAcceptsUndefined_congr {ss ts : List Schema} (h : List.Forall₂ Alike ss ts) :
    someAcceptsUndefined ss = someAcceptsUndefined ts := by
  induction h with
  | nil => rfl
  | cons hfirst _ ih => simp only [someAcceptsUndefined, hfirst.undefined, ih]

theorem fitFields_congr {fs gs : List (String × Schema)} (h : List.Forall₂ AlikeFields fs gs)
    (members : List (String × Value)) (done : Members Value) :
    fitFields fs members done = fitFields gs members done := by
  induction h generalizing done with
  | nil => rfl
  | @cons f g fs gs hfirst _ ih =>
    obtain ⟨name, s⟩ := f
    obtain ⟨name', t⟩ := g
    obtain ⟨rfl, hst⟩ : name = name' ∧ Alike s t := hfirst
    simp only [fitFields, hst.fit, hst.undefined, ih]

theorem names_eq_of_alike {fs gs : List (String × Schema)} (h : List.Forall₂ AlikeFields fs gs) :
    fs.map Prod.fst = gs.map Prod.fst := by
  induction h with
  | nil => rfl
  | cons hfirst _ ih => simp only [List.map_cons, hfirst.1, ih]

namespace Alike

theorem refl (s : Schema) : Alike s s := ⟨rfl, fun _ => rfl⟩

theorem trans {s t u : Schema} (h : Alike s t) (h' : Alike t u) : Alike s u :=
  ⟨h.undefined.trans h'.undefined, fun v => (h.fit v).trans (h'.fit v)⟩

theorem among {s t : Schema} (h : Alike s t) (before after : List Schema) :
    List.Forall₂ Alike (before ++ s :: after) (before ++ t :: after) :=
  forall₂_replaced refl h before after

theorem amongFields {s t : Schema} (h : Alike s t) (name : String)
    (before after : List (String × Schema)) :
    List.Forall₂ AlikeFields (before ++ (name, s) :: after) (before ++ (name, t) :: after) :=
  forall₂_replaced (fun f => ⟨rfl, refl f.2⟩) ⟨rfl, h⟩ before after

theorem array {s t : Schema} (h : Alike s t) : Alike (array s) (array t) where
  undefined := rfl
  fit v := by
    have hfit : s.fit = t.fit := funext h.fit
    cases v <;> simp only [Schema.fit, hfit] <;> rfl

theorem tuple {ss ts : List Schema} (h : List.Forall₂ Alike ss ts) : Alike (tuple ss) (tuple ts) where
  undefined := rfl
  fit v := by
    cases v <;> simp only [Schema.fit, fitTuple_congr h, h.length_eq] <;> rfl

theorem fields {fs gs : List (String × Schema)} (h : List.Forall₂ AlikeFields fs gs)
    (index : Option Schema) : Alike (object fs index) (object gs index) where
  undefined := rfl
  fit v := by
    cases v <;> simp only [Schema.fit, fitFields_congr h, names_eq_of_alike h] <;> rfl

theorem index {s t : Schema} (h : Alike s t) (fs : List (String × Schema)) :
    Alike (object fs (some s)) (object fs (some t)) where
  undefined := rfl
  fit v := by
    have hfit : s.fit = t.fit := funext h.fit
    cases v <;> simp only [Schema.fit, hfit] <;> rfl

theorem union {ss ts : List Schema} (h : List.Forall₂ Alike ss ts) : Alike (union ss) (union ts) where
  undefined := by simp only [acceptsUndefined, someAcceptsUndefined_congr h]
  fit v := by simp only [Schema.fit, fitUnion_congr h]

/-- A union with variants stands for them: it passes with the first that fits, and if it fails then as the
last of them does. -/
theorem spliced (before : List Schema) (s : Schema) (inner after : List Schema) :
    Alike (.union (before ++ .union (s :: inner) :: after)) (.union (before ++ (s :: inner) ++ after)) where
  undefined := by
    simp [acceptsUndefined, someAcceptsUndefined, Bool.or_assoc]
  fit v := by
    rw [Schema.fit, Schema.fit, List.append_assoc, fitUnion_append, fitUnion_append before]
    cases fitUnion before none v with
    | ok w => rfl
    | error r =>
      change fitUnion (.union (s :: inner) :: after) (some r) v = fitUnion (s :: inner ++ after) (some r) v
      rewrite [fitUnion, Schema.fit, fitUnion_append, fitUnion_cons_last s inner (some r) none]
      cases fitUnion (s :: inner) none v <;> rfl

end Alike

/-- One step of flattening changes nothing that decoding shows. -/
theorem Flattens.alike {s t : Schema} (h : Flattens s t) : Alike s t := by
  induction h with
  | here before s inner after => exact .spliced before s inner after
  | items _ ih => exact ih.array
  | position before after _ ih => exact .tuple (ih.among before after)
  | field before after name index _ ih => exact .fields (ih.amongFields name before after) index
  | index fields _ ih => exact ih.index fields
  | variant before after _ ih => exact .union (ih.among before after)

theorem alike_of_flattened {s t : Schema} (h : Relation.ReflTransGen Flattens s t) : Alike s t := by
  induction h with
  | refl => exact .refl s
  | tail _ hstep ih => exact ih.trans hstep.alike

/-- Flattening unions, anywhere in a schema and any number of times, changes neither which fields may be
missing nor what a value is fitted to nor what a text is decoded to, failures with their paths included. -/
theorem flattened_decodes_alike {s t : Schema} (h : Relation.ReflTransGen Flattens s t) :
    s.acceptsUndefined = t.acceptsUndefined ∧ (∀ v, s.fit v = t.fit v) ∧
      ∀ text, s.decode text = t.decode text := by
  have halike := alike_of_flattened h
  refine ⟨halike.undefined, halike.fit, fun text => ?_⟩
  simp only [decode_eq]
  simp only [halike.fit]

/-- Items that may be null, undefined or a text, said in three unions. -/
def nestedItems : Schema := array (union [union [null, union [undefined, null]], string none])

/-- The same in one union. -/
def flatItems : Schema := array (union [null, undefined, null, string none])

theorem nestedItems_flatten : Relation.ReflTransGen Flattens nestedItems flatItems := by
  have houter : Flattens nestedItems (array (union [null, union [undefined, null], string none])) :=
    .items (.here [] null [union [undefined, null]] [string none])
  have hinner : Flattens (array (union [null, union [undefined, null], string none])) flatItems :=
    .items (.here [null] undefined [null] [string none])
  exact .tail (.single houter) hinner

theorem nestedItems_reject : Relation.ReflTransGen Flattens nestedItems flatItems ∧
    nestedItems.decode "[\"a\",true]" = .error "expected string, got boolean" (some "$[1]") := by
  have hparse : Json.parse "[\"a\",true]" = .ok (.array [.string "a", .boolean true]) := by cbv
  have hflat : flatItems.decode "[\"a\",true]" =
      .error "expected string, got boolean" (some "$[1]") := by
    have hmessage : (Reason.mismatch "string" .boolean).message = "expected string, got boolean" := by
      decide
    rw [decode_eq, hparse]
    exact congrArg (Value.error · _) hmessage
  obtain ⟨-, -, hdecode⟩ := flattened_decodes_alike nestedItems_flatten
  exact ⟨nestedItems_flatten, (hdecode _).trans hflat⟩

end GuestHost.Schema
