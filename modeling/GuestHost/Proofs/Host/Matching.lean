import GuestHost.Proofs.Bridge.Simulation
/-!
Calls under two bridges that a simulation relates. The same call, made with references that stand for the
same, ends alike under both.
-/
namespace GuestHost

open Host Host.Action

namespace Host

variable {γ δ : Type}

def Argument.map (f : γ → δ) : Argument γ → Argument δ
  | word n => word n
  | wide n => wide n
  | real x => real x
  | guest g => guest (f g)

/-- The call with other references in the places of its own. -/
def Call.map (f : γ → δ) : Call γ → Call δ
  | undefined => undefined
  | null => null
  | ofInteger n => ofInteger n
  | ofFloat x => ofFloat x
  | ofBoolean n => ofBoolean n
  | toInteger v => toInteger (f v)
  | toFloat v => toFloat (f v)
  | toBoolean v => toBoolean (f v)
  | kind v => kind (f v)
  | equal a b => equal (f a) (f b)
  | display v => display (f v)
  | isError v => isError (f v)
  | text p n => text p n
  | intern p n => intern p n
  | concat a b => concat (f a) (f b)
  | textEqual a b => textEqual (f a) (f b)
  | textLength v => textLength (f v)
  | writeText v p n => writeText (f v) p n
  | newArray n => newArray n
  | arrayGet a i => arrayGet (f a) i
  | arraySet a i v => arraySet (f a) i (f v)
  | arrayLength a => arrayLength (f a)
  | join a s => join (f a) (f s)
  | range a b => range a b
  | newObject => newObject
  | objectGet o k => objectGet (f o) (f k)
  | objectSet o k v => objectSet (f o) (f k) (f v)
  | objectKeys o => objectKeys (f o)
  | objectHas o k => objectHas (f o) (f k)
  | toJson v => toJson (f v)
  | parseJson v => parseJson (f v)
  | decodeJson v s => decodeJson (f v) (f s)
  | openDatabase p => openDatabase (f p)
  | registerTables b => registerTables (f b)
  | sql c s p => sql c (f s) (f p)
  | createServer => createServer
  | addRoute s m p h => addRoute s (f m) (f p) (f h)
  | listen s a => listen s (f a)
  | respond r v => respond r (f v)
  | respondJson v => respondJson (f v)
  | respondText r p n => respondText r p n
  | requestPart p r => requestPart p (f r)
  | writeValue n v => writeValue n (f v)
  | args => args
  | env n => env (f n)
  | collect => collect
  | fileWrite f b n w => fileWrite f b n w
  | exit c => exit c

end Host

namespace Simulation

variable {β β' γ γ' : Type} [Bridge β γ] [Bridge β' γ'] {S : Simulation β β'} {w : S.World}

namespace Twin

def fst (t : S.Twin w) : γ := t.val.1

def snd (t : S.Twin w) : γ' := t.val.2

theorem same (t : S.Twin w) : S.Same w t.fst t.snd := t.property

end Twin

/-- Answers of a call: the same, or references that stand for the same. -/
def Answers (w : S.World) (r : Option (Argument γ)) (r' : Option (Argument γ')) : Prop :=
  ∃ t : Option (Argument (S.Twin w)),
    t.map (Argument.map Twin.fst) = r ∧ t.map (Argument.map Twin.snd) = r'

namespace Answers

theorem none : Answers w (Option.none : Option (Argument γ)) (Option.none : Option (Argument γ')) :=
  ⟨Option.none, rfl, rfl⟩

theorem word (n : Int) : Answers w (some (.word n : Argument γ)) (some (.word n : Argument γ')) :=
  ⟨some (.word n), rfl, rfl⟩

theorem wide (n : Int64) : Answers w (some (.wide n : Argument γ)) (some (.wide n : Argument γ')) :=
  ⟨some (.wide n), rfl, rfl⟩

theorem real (x : Float) : Answers w (some (.real x : Argument γ)) (some (.real x : Argument γ')) :=
  ⟨some (.real x), rfl, rfl⟩

theorem guest {g : γ} {g' : γ'} (h : S.Same w g g') :
    Answers w (some (.guest g)) (some (.guest g')) := ⟨some (.guest ⟨(g, g'), h⟩), rfl, rfl⟩

end Answers

/-- The reference that an action makes is the answer. -/
theorem Matches.answer {a : Action β γ} {a' : Action β' γ'} (h : S.Matches w S.Same a a') :
    S.Matches w Answers (a >>= fun g => Pure.pure (some (.guest g)))
      (a' >>= fun g => Pure.pure (some (.guest g))) :=
  h.bindMade fun _ _ _ _ hg => Matches.pure (Answers.guest hg)

theorem performValue_matches (c : Call (S.Twin w)) :
    S.Matches w Answers (c.map Twin.fst).performValue (c.map Twin.snd).performValue := by
  cases c <;> simp only [Call.map, Call.performValue] <;> repeat' with_reducible first
    | exact Matches.pure Answers.none
    | exact Matches.pure (Answers.word _)
    | exact Matches.pure (Answers.wide _)
    | exact Matches.pure (Answers.real _)
    | exact Matches.pure (Answers.guest (S.undefined w))
    | exact Steady.toHost _ (Twin.same _)
    | exact Steady.ofBuiltin _
    | exact Steady.lift _ (S.kind (Linked.bridge ‹_›) (Twin.same _))
    | exact (Matches.toGuest _ (by simp)).answer
    | refine Matches.reading fun _ _ _ => ?_
    | refine Matches.bind ?_ fun _ _ => ?_

theorem performText_matches (c : Call (S.Twin w)) :
    S.Matches w Answers (c.map Twin.fst).performText (c.map Twin.snd).performText := by
  cases c <;> simp only [Call.map, Call.performText] <;> repeat' with_reducible first
    | exact Matches.pure Answers.none
    | exact Matches.pure (Answers.word _)
    | exact Matches.throw _
    | exact Steady.toHost _ (Twin.same _)
    | exact Steady.text _ (Twin.same _)
    | exact Steady.memory _
    | exact Steady.readText _ _ _
    | exact Steady.ofBuiltin _
    | exact Steady.modify (fun o => { o with memory := some _ }) (fun _ => rfl) (fun _ => rfl)
        (fun _ => rfl) (fun _ => rfl)
    | exact (Matches.toGuest _ (by simp)).answer
    | exact (Matches.toGuest _ (Builtin.wellFormed_concat _ _)).answer
    | exact (Matches.made _ fun h => S.intern h _ _ _).answer
    | refine Matches.bind ?_ fun _ _ => ?_
    | split

theorem performArray_matches (c : Call (S.Twin w)) :
    S.Matches w Answers (c.map Twin.fst).performArray (c.map Twin.snd).performArray := by
  cases c <;> simp only [Call.map, Call.performArray] <;> repeat' with_reducible first
    | exact Matches.pure Answers.none
    | exact Matches.pure (Answers.word _)
    | exact Matches.pure (Answers.guest (S.undefined w))
    | exact Steady.toHost _ (Twin.same _)
    | exact Steady.ofBuiltin _
    | exact Steady.lift _ (S.arrayLength (Linked.bridge ‹_›) (Twin.same _))
    | exact Steady.changed _ fun h => S.arraySet h (Twin.same _) _ (Twin.same _)
    | exact (Matches.made _ fun h => S.newArray h _).answer
    | exact (Matches.lift (V := S.Same) _ (S.arrayGet (Linked.bridge ‹_›) (Twin.same _) _)).answer
    | exact (Matches.toGuest _ (Builtin.wellFormed_join (Reached.ofBuiltin ‹_›))).answer
    | exact (Matches.toGuest _ (Builtin.wellFormed_range (Reached.ofBuiltin ‹_›))).answer
    | refine Matches.reading fun _ _ _ => ?_
    | refine Matches.bind ?_ fun _ _ => ?_
    | split

theorem has_matches (op : String) {o : γ} {o' : γ'} (ho : S.Same w o o') (key : String)
    {s : State β} {s' : State β'} (h : S.Linked w s s') :
    S.Matches w Answers
      (Action.lift (.bridge op) (Bridge.objectGet s.bridge o key) >>= fun r =>
        Pure.pure (some (truth r.isSome)))
      (Action.lift (.bridge op) (Bridge.objectGet s'.bridge o' key) >>= fun r =>
        Pure.pure (some (truth r.isSome))) := by
  refine (Matches.lift (V := fun w => Option.Rel (S.Same w)) _
    (S.objectGet h.bridge ho key)).bindMade ?_
  intro w' r r' _ hr
  cases hr with
  | some _ => exact Matches.pure (Answers.word 1)
  | none => exact Matches.pure (Answers.word 0)

theorem performObject_matches (c : Call (S.Twin w)) :
    S.Matches w Answers (c.map Twin.fst).performObject (c.map Twin.snd).performObject := by
  cases c <;> simp only [Call.map, Call.performObject] <;> repeat' with_reducible first
    | exact has_matches _ (Twin.same _) _ ‹_›
    | exact Matches.pure Answers.none
    | exact Steady.text _ (Twin.same _)
    | exact Steady.lift _ (S.objectKeys (Linked.bridge ‹_›) (Twin.same _))
    | exact Steady.changed _ fun h => S.objectSet h (Twin.same _) _ (Twin.same _)
    | exact (Matches.made _ S.newObject).answer
    | exact (Matches.field _ (Twin.same _) _).answer
    | exact (Matches.toGuest _ (Builtin.wellFormed_keysValue _)).answer
    | refine Matches.reading fun _ _ _ => ?_
    | refine Matches.bind ?_ fun _ _ => ?_

theorem performJson_matches (c : Call (S.Twin w)) :
    S.Matches w Answers (c.map Twin.fst).performJson (c.map Twin.snd).performJson := by
  cases c <;> simp only [Call.map, Call.performJson] <;> repeat' with_reducible first
    | exact Matches.pure Answers.none
    | exact Steady.toHost _ (Twin.same _)
    | exact Steady.ofBuiltin _
    | exact (Matches.toGuest _ (Builtin.wellFormed_toJson (Reached.ofBuiltin ‹_›))).answer
    | exact (Matches.toGuest _ (Builtin.wellFormed_fromJson (Reached.ofBuiltin ‹_›))).answer
    | exact (Matches.toGuest _ (Builtin.wellFormed_decodeJson (Reached.ofBuiltin ‹_›))).answer
    | refine Matches.bind ?_ fun _ _ => ?_

theorem wellFormed_of_reached_sql {c : SqlCall} {sql : String} {params : Value}
    {r : Except Store.StoreError Value}
    (h : Reached (Action.withDatabase fun db => runSql c db sql params : Action β _) r) (v : Value)
    (hv : r = .ok v) : v.WellFormed := by
  obtain ⟨db, hdb⟩ := h.withDatabase
  exact wellFormed_runSql (hdb.trans hv)

theorem performStore_matches (c : Call (S.Twin w)) :
    S.Matches w Answers (c.map Twin.fst).performStore (c.map Twin.snd).performStore := by
  have hnull : ∀ (r : Except Store.StoreError Unit) v, r.map (fun _ => Value.null) = .ok v →
      v.WellFormed := by
    intro r v h
    cases r <;> cases h
    exact trivial
  cases c <;> simp only [Call.map, Call.performStore] <;> repeat' with_reducible first
    | exact Matches.pure Answers.none
    | exact Steady.toHost _ (Twin.same _)
    | exact Steady.text _ (Twin.same _)
    | exact Steady.withDatabase _
    | exact Steady.storeResult _ _ _
    | exact (Matches.toGuest _ (Reached.storeResult ‹_› (hnull _))).answer
    | exact (Matches.toGuest _ (Reached.storeResult ‹_› (wellFormed_of_reached_sql ‹_›))).answer
    | refine Matches.bind ?_ fun _ _ => ?_

theorem performServe_matches (c : Call (S.Twin w)) :
    S.Matches w Answers (c.map Twin.fst).performServe (c.map Twin.snd).performServe := by
  cases c
  case createServer =>
    refine Matches.reading fun s s' h => ?_
    have hr : s.registry = s'.registry := h.congr State.registry
    rw [hr]
    refine Matches.bind (Steady.modify (fun o => { o with registry := s'.registry.create.2 })
      ?_ ?_ ?_ ?_) fun _ _ => ?_
    · exact fun _ => rfl
    · exact fun _ => rfl
    · exact fun _ => rfl
    · exact fun _ => rfl
    · exact Matches.pure (Answers.word _)
  all_goals
    simp only [Call.map, Call.performServe]
    repeat' with_reducible first
      | exact Matches.pure Answers.none
      | exact Steady.toHost _ (Twin.same _)
      | exact Steady.text _ (Twin.same _)
      | exact Steady.readText _ _ _
      | exact Steady.lift _ rfl
      | exact Steady.register _ _
      | exact (Matches.field _ (Twin.same _) _).answer
      | exact (Matches.toGuest _ (wellFormed_textResponse _ _)).answer
      | exact (Matches.toGuest _ (wellFormed_response _ _)).answer
      | refine Matches.bind ?_ fun _ _ => ?_

theorem performFileWrite_steady (file buffers count written : Int) :
    S.Steady w (Call.performFileWrite file buffers count written)
      (Call.performFileWrite file buffers count written) := by
  simp only [Call.performFileWrite]
  refine Steady.reading fun s s' h => ?_
  have hm : s.memory = s'.memory := h.congr State.memory
  rw [hm]
  repeat' with_reducible first
    | exact Steady.pure _
    | exact Steady.write _ _
    | exact Steady.modify (fun o => { o with memory := some _ }) (fun _ => rfl) (fun _ => rfl)
        (fun _ => rfl) (fun _ => rfl)
    | refine Steady.bind ?_ fun _ => ?_
    | split

theorem performHost_matches (c : Call (S.Twin w)) :
    S.Matches w Answers (c.map Twin.fst).performHost (c.map Twin.snd).performHost := by
  cases c
  case args =>
    simp only [Call.map, Call.performHost]
    refine Matches.reading fun s s' h => ?_
    have ha : s.args = s'.args := h.congr State.args
    rw [ha]
    exact (Matches.toGuest _ (by simp)).answer
  case env name =>
    simp only [Call.map, Call.performHost]
    refine Matches.bind (Steady.text _ (Twin.same _)) fun key _ => Matches.reading fun s s' h => ?_
    have he : s.env = s'.env := h.congr State.env
    rw [he]
    refine (Matches.toGuest _ ?_).answer
    cases s'.env.lookup key <;> simp
  case collect =>
    simp only [Call.map, Call.performHost]
    exact Matches.bind (Steady.modify (fun o => o.collect .explicit) (fun _ => rfl) (fun _ => rfl)
      (fun _ => rfl) (fun _ => rfl)) fun _ _ => Matches.pure Answers.none
  case exit code =>
    simp only [Call.map, Call.performHost]
    exact Matches.bind (Steady.modify (fun o => { o with exitCode := some code }) (fun _ => rfl)
      (fun _ => rfl) (fun _ => rfl) (fun _ => rfl)) fun _ _ => Matches.throw _
  all_goals
    simp only [Call.map, Call.performHost]
    repeat' with_reducible first
      | exact Matches.pure Answers.none
      | exact Matches.pure (Answers.word _)
      | exact Matches.throw _
      | exact Steady.toHost _ (Twin.same _)
      | exact Steady.write _ _
      | exact performFileWrite_steady _ _ _ _
      | refine Matches.bind ?_ fun _ _ => ?_
      | split

/-- The same call, with references that stand for the same, is answered alike under both bridges. -/
theorem perform_matches (c : Call (S.Twin w)) :
    S.Matches w Answers (c.map Twin.fst).perform (c.map Twin.snd).perform := by
  cases hc : c <;> first
    | (have h := performValue_matches c; rw [hc] at h; exact h)
    | (have h := performText_matches c; rw [hc] at h; exact h)
    | (have h := performArray_matches c; rw [hc] at h; exact h)
    | (have h := performObject_matches c; rw [hc] at h; exact h)
    | (have h := performJson_matches c; rw [hc] at h; exact h)
    | (have h := performStore_matches c; rw [hc] at h; exact h)
    | (have h := performServe_matches c; rw [hc] at h; exact h)
    | (have h := performHost_matches c; rw [hc] at h; exact h)

end Simulation
end GuestHost
