import GuestHost.Proofs.Bridge.ComingBack
import GuestHost.Proofs.Json.Ascending
import GuestHost.Proofs.Program.Performed
import GuestHost.Proofs.Schema.Conforming
import GuestHost.Proofs.Schema.Depth
/-!
Parsed data on its way to the program. What a text can be read as, and what a schema makes of it, nests far
less than a bridge carries; so the calls that read JSON end well, whatever text the program passes and
whatever it has done before.
-/
namespace GuestHost

namespace Value

mutual

/-- The innermost part lies in no more containers than lie inside one another. -/
theorem height_le_depth : ∀ v : Value, v.height ≤ v.depth
  | array items => heightOfItems_le_depth items
  | object members => heightOfMembers_le_depth members
  | undefined => Nat.le_refl 0
  | null => Nat.le_refl 0
  | boolean _ => Nat.le_refl 0
  | integer _ => Nat.le_refl 0
  | float _ => Nat.le_refl 0
  | string _ => Nat.le_refl 0

theorem heightOfItems_le_depth : ∀ vs : List Value, heightOfItems vs ≤ depthOfItems vs + 1
  | [] => Nat.zero_le _
  | v :: rest => by
    have hv := height_le_depth v
    have hrest := heightOfItems_le_depth rest
    rw [heightOfItems, depthOfItems]
    omega

theorem heightOfMembers_le_depth :
    ∀ ms : List (String × Value), heightOfMembers ms ≤ depthOfMembers ms + 1
  | [] => Nat.zero_le _
  | (_, v) :: rest => by
    have hv := height_le_depth v
    have hrest := heightOfMembers_le_depth rest
    rw [heightOfMembers, depthOfMembers]
    omega

end

/-- Whatever nests no deeper than text that can be read is carried by a bridge. -/
theorem height_le_maxDepth {v : Value} (h : v.depth ≤ Json.nestingLimit) : v.height ≤ maxDepth := by
  -- the reader stops at 127 containers, a bridge at 512
  have hlimit : Json.nestingLimit ≤ maxDepth := by decide
  exact Nat.le_trans v.height_le_depth (Nat.le_trans h hlimit)

end Value

namespace Builtin

/-- Reading a text always ends with a value, which may be the one that stands for a failure. -/
theorem exists_fromJson (text : String) :
    ∃ v, fromJson (.string text) = .ok v ∧ v.depth ≤ Json.nestingLimit := by
  cases hparse : Json.parse text with
  | ok v =>
    refine ⟨v, ?_, Json.depth_parse hparse⟩
    rw [fromJson, toText, Except.ok_bind, hparse]
    rfl
  | error f =>
    refine ⟨.error (parseMessage f) none, ?_, ?_⟩
    · rw [fromJson, toText, Except.ok_bind, hparse]
      rfl
    · rw [Schema.depth_error]
      decide

theorem decodeJson_of_parse {description : String} {schema : Schema}
    (h : Schema.parse description = .ok schema) (text : String) :
    decodeJson (.string text) (.string description) = .ok (schema.decode text) := by
  simp only [decodeJson, toText, Except.ok_bind, h]
  rfl

end Builtin

namespace Host

open Host.Action Host.Call

variable {β γ : Type} [Bridge β γ]

/-- A call answers with a reference that reads as the value. What the program holds reads as it did, and
nothing but the bridge has changed. -/
def Gives (c : Call γ) (s : State β) (held : List γ) (v : Value) : Prop :=
  ∃ g b, runOn c.perform s = (.ok (some (.guest g)), { s with bridge := b }) ∧
    Bridge.toHost b g = .ok v ∧ ∀ h ∈ held, Bridge.toHost b h = Bridge.toHost s.bridge h

variable {s : State β} {held : List γ} {v : Value}

/-- A call that ends with copying in a value gives that value. -/
theorem Gives.of_comesBack {c : Call γ} (op : String) (hback : ComesBack s.bridge held v)
    (hdepth : v.depth ≤ Json.nestingLimit)
    (hrun : runOn c.perform s = runOn (toGuest op v >>= fun g => pure (some (.guest g))) s) :
    Gives c s held v := by
  obtain ⟨g, hg⟩ := hback.fits.mpr (Value.height_le_iff.mp (Value.height_le_maxDepth hdepth))
  have hcopy : runOn (toGuest op v) s = (.ok g, { s with bridge := (Bridge.toGuest s.bridge v).2 }) := by
    rw [toGuest, runOn_made, hg]
    rfl
  exact ⟨g, _, hrun.trans (runOn_bind_of_ok hcopy), hback.back g hg, hback.held⟩

/-- An argument that reads as a value is read, and leaves everything alone. -/
theorem runOn_toHost_of_ok {op : String} {g : γ} (h : Bridge.toHost s.bridge g = .ok v) :
    runOn (toHost op g) s = (.ok v, s) := by
  rw [runOn_toHost, h]
  rfl

theorem runOn_ofBuiltin_of_ok {r : Except Builtin.Error Value} (h : r = .ok v) :
    runOn (ofBuiltin r) s = (.ok v, s) := by
  rw [ofBuiltin, runOn_lift, h]
  rfl

/-- The two calls that read JSON answer to every text with what the intrinsic makes of it, an error value
included, as long as there is room for that. -/
structure Crosses (s : State β) (held : List γ) (room : Value → Prop) : Prop where
  parses : ∀ g text, Bridge.toHost s.bridge g = .ok (.string text) →
    ∃ v, Builtin.fromJson (.string text) = .ok v ∧ (room v → Gives (.parseJson g) s held v)
  decodes : ∀ g d text description schema, Bridge.toHost s.bridge g = .ok (.string text) →
    Bridge.toHost s.bridge d = .ok (.string description) → Schema.parse description = .ok schema →
    Builtin.decodeJson (.string text) (.string description) = .ok (schema.decode text) ∧
      (room (schema.decode text) → Gives (.decodeJson g d) s held (schema.decode text))

theorem crosses_of_comesBack {room : Value → Prop} (h : ∀ v, room v → ComesBack s.bridge held v) :
    Crosses s held room where
  parses g text hg := by
    obtain ⟨v, hv, hdepth⟩ := Builtin.exists_fromJson text
    refine ⟨v, hv, fun hroom => .of_comesBack "json_parse" (h v hroom) hdepth ?_⟩
    change runOn (performJson (.parseJson g)) s = _
    rw [performJson, runOn_bind_of_ok (runOn_toHost_of_ok hg),
      runOn_bind_of_ok (runOn_ofBuiltin_of_ok hv)]
  decodes g d text description schema hg hd hschema := by
    have hv := Builtin.decodeJson_of_parse hschema text
    have hdepth := schema.depth_decode text
    refine ⟨hv, fun hroom => .of_comesBack "json_decode" (h _ hroom) hdepth ?_⟩
    change runOn (performJson (.decodeJson g d)) s = _
    rw [performJson, runOn_bind_of_ok (runOn_toHost_of_ok hg),
      runOn_bind_of_ok (runOn_toHost_of_ok hd), runOn_bind_of_ok (runOn_ofBuiltin_of_ok hv)]

end Host

open Host

/-- What is read from a text has nothing undefined in it, the names of every object in it ascend, and it
nests at most 127 containers. So under both encodings, in every state that a program can bring about, its
calls that read JSON answer with a value and never stop it, provided that a table of handles has slots left
for that value. -/
theorem parsed_data_crosses :
    (∀ text v, Json.parse text = .ok v → v.Defined ∧ v.Ascending ∧ v.depth ≤ 127) ∧
    (∀ (s : State HandleTable) held, Reached HandleTable.Free s.bridge held →
      Crosses s held (HandleTable.Room s.bridge)) ∧
    ∀ (s : State NodeHeap) held, Reached NodeHeap.Free s.bridge held → Crosses s held fun _ => True := by
  refine ⟨fun text v h => ?_, fun s held h => ?_, fun s held h => ?_⟩
  · exact ⟨Json.defined_parse h, Json.ascending_parse h, Json.depth_parse h⟩
  · exact crosses_of_comesBack fun v hroom => HandleTable.comesBack h hroom
  · exact crosses_of_comesBack fun v _ => NodeHeap.comesBack h v

/-- A state of the host in which the program has been given one text. -/
def givenText {β γ : Type} [Bridge β γ] (text : String) : State β :=
  { (State.start {} none : State β) with
    bridge := ((Exchange.copyIn (.string text)).perform (Bridge.start : β)).2 }

theorem reached_givenText {β γ : Type} [Bridge β γ] (free : γ → Prop) (text : String) :
    ∃ held, Reached free (givenText text : State β).bridge held :=
  ⟨_, Reached.start.step (.copyIn (.string text)) nofun⟩

/-- The text `["null"]` is read as a list, and as the description of a schema that the list does not fit.
Either way the program is given a value. -/
theorem list_crosses :
    (∃ held, Gives (.parseJson 2) (givenText "[\"null\"]" : State HandleTable) held
      (.array [.string "null"])) ∧
    ∃ held, Gives (.decodeJson (.node (.string "[\"null\"]")) (.node (.string "[\"null\"]")))
      (givenText "[\"null\"]" : State NodeHeap) held (.error "expected null, got array" (some "$")) := by
  have hparse : Json.parse "[\"null\"]" = .ok (.array [.string "null"]) := by cbv
  have hread : Builtin.fromJson (.string "[\"null\"]") = .ok (.array [.string "null"]) := by
    rw [Builtin.fromJson, Builtin.toText, Except.ok_bind, hparse]
    rfl
  have hschema : Schema.parse "[\"null\"]" = .ok .null := rfl
  have hdecode : Schema.null.decode "[\"null\"]" = .error "expected null, got array" (some "$") := by
    rw [Schema.decode_eq, hparse]
    have hmessage : (Schema.Reason.mismatch "null" .array).message = "expected null, got array" := by
      decide
    exact congrArg (Value.error · _) hmessage
  have hroom : HandleTable.Room (givenText "[\"null\"]" : State HandleTable).bridge
      (.array [.string "null"]) := by
    unfold HandleTable.Room
    decide
  obtain ⟨-, htable, hheap⟩ := parsed_data_crosses
  obtain ⟨held, hslots⟩ := reached_givenText (β := HandleTable) HandleTable.Free "[\"null\"]"
  obtain ⟨held', hcells⟩ := reached_givenText (β := NodeHeap) NodeHeap.Free "[\"null\"]"
  obtain ⟨v, hv, hgives⟩ := (htable _ _ hslots).parses 2 _ rfl
  obtain rfl := Except.ok.inj (hread.symm.trans hv)
  let text : Reference := .node (.string "[\"null\"]")
  obtain ⟨-, hgives'⟩ := (hheap _ _ hcells).decodes text text _ _ _ rfl rfl hschema
  exact ⟨⟨held, hgives hroom⟩, held', hdecode ▸ hgives' trivial⟩

end GuestHost
