/-
The handlers of the engine itself are tame. A message answers with a short object, and
leaves the context alone; setting a variable puts a value of the configuration into the
context, which is no deeper there than it was in the configuration.

What they answer and what they do to the context is told once (`Action.log_ok`,
`Action.updateVar_ok`); of an engine without other handlers this is all that an action
that succeeds can have done (`OnlyStandard.execute_ok`).
-/
import DurableWorkflow.Action.Standard
import DurableWorkflow.Proofs.Graph.Storable

namespace DurableWorkflow

open Json (maxDepth)

variable {σ : Type}

-- ===================================================== values in memory

namespace Document

mutual

/-- A value in memory is read as itself. -/
theorem value_ofValue (v : Value) (hfits : v.Every Value.fits) :
    Document.value (.ofValue .memory v) = .ok v := by
  match v with
  | .null => rfl
  | .bool _ => rfl
  | .int _ => rfl
  | .real _ => rfl
  | .string _ => rfl
  | .array items =>
      unfold ofValue Document.value
      rw [valueItems_ofItems items hfits.2]
      rfl
  | .object members =>
      unfold ofValue Document.value
      rw [valueMembers_ofMembers [] members hfits.1 hfits.2]
      rfl

theorem valueItems_ofItems (items : List Value) (hfits : Value.EveryItem Value.fits items) :
    valueItems (ofItems .memory items) = .ok items := by
  match items with
  | [] => rfl
  | v :: vs =>
      unfold ofItems valueItems
      rw [value_ofValue v hfits.1, valueItems_ofItems vs hfits.2]
      rfl

theorem valueMembers_ofMembers (found members : Dict Value)
    (hsorted : Dict.Sorted (found ++ members)) (hfits : Value.EveryMember Value.fits members) :
    valueMembers found (ofMembers .memory members) = .ok (found ++ members) := by
  match members with
  | [] =>
      rw [List.append_nil]
      rfl
  | (k, v) :: ms =>
      have happend : found ++ (k, v) :: ms = found ++ [(k, v)] ++ ms := by
        rw [List.append_assoc, List.singleton_append]
      rw [happend] at hsorted ⊢
      have hinsert : Dict.insert found k v = found ++ [(k, v)] :=
        Dict.insert_append (List.Pairwise.sublist (List.sublist_append_left _ _) hsorted)
      have hrest := valueMembers_ofMembers (found ++ [(k, v)]) ms hsorted hfits.2
      unfold ofMembers valueMembers
      rw [value_ofValue v hfits.1]
      simp only [bind, Except.bind, hinsert, hrest]

end

end Document

/-- A record that is filled in from members has a property that every field keeps,
whatever member it is set from. -/
theorem keeps_fill_ofMembers {ρ : Type} {shape : Decoder.Shape ρ} {p : ρ → Prop}
    {members : Dict Value} (hfields : ∀ f ∈ shape.fields, ∀ m ∈ members, ∀ r r',
      f.read (.ofValue .memory m.2) r = .ok r' → p r → p r')
    {seen seen' : List String} {r r' : ρ}
    (h : Decoder.fill shape seen r (Document.ofMembers .memory members) = .ok (seen', r'))
    (hr : p r) : p r' := by
  induction members generalizing seen r with
  | nil =>
      obtain ⟨-, rfl⟩ := Prod.mk.inj (Except.ok.inj h)
      exact hr
  | cons m ms ih =>
      have hrest : ∀ f ∈ shape.fields, ∀ m ∈ ms, ∀ r r',
          f.read (.ofValue .memory m.2) r = .ok r' → p r → p r' :=
        fun f hf x hx => hfields f hf x (List.mem_cons_of_mem m hx)
      rw [Document.ofMembers] at h
      obtain ⟨n, -, ⟨-, h⟩ | ⟨f, r₁, hfind, -, hread, h⟩⟩ := Decoder.fill_cons_ok h
      · exact ih hrest h hr
      · exact ih hrest h
          (hfields f (List.mem_of_find?_eq_some hfind) m List.mem_cons_self r r₁ hread hr)

-- ============================================================ actions

namespace Action

/-- The input of an action has a property that its fields keep. -/
theorem input_keeps {ρ : Type} {kind : ActionKind} {shape : Decoder.Shape ρ} {p : ρ → Prop}
    {config : Dict Value} {a : ρ} (hblank : p shape.blank)
    (hfields : ∀ f ∈ shape.fields, ∀ m ∈ config, ∀ r r',
      f.read (.ofValue .memory m.2) r = .ok r' → p r → p r')
    (h : input kind shape config = .ok a) : p a := by
  unfold input at h
  split at h
  next a' ha =>
    obtain rfl := Except.ok.inj h
    unfold Decoder.ofValue at ha
    split at ha
    next a'' hread =>
      obtain rfl := Except.ok.inj ha
      rw [Document.ofValue] at hread
      obtain ⟨seen, hfill⟩ := Decoder.record_object_ok hread
      exact keeps_fill_ofMembers hfields hfill hblank
    next => cases ha
  next => cases h

/-- The value that is to be set is one of the configuration, or `null`. -/
theorem storable_assignment {config : Dict Value} {a : Assignment} (hconfig : config.Storable 1)
    (h : input .updateVar assignmentShape config = .ok a) : a.value.Storable 1 := by
  have hblank : assignmentShape.blank.value.Storable 1 := ⟨trivial, trivial, trivial, by decide⟩
  refine input_keeps (p := fun a : Assignment => a.value.Storable 1) hblank
    (fun f hf m hm r r' hr hp => ?_) h
  simp only [assignmentShape, List.mem_cons, List.not_mem_nil, or_false] at hf
  rcases hf with rfl | rfl
  · obtain ⟨a, -, rfl⟩ := Decoder.may_read_ok hr
    exact hp
  · obtain ⟨v, hv, rfl⟩ := Decoder.may_read_ok hr
    have hm := hconfig.values m hm
    obtain rfl := Except.ok.inj ((Document.value_ofValue m.2 hm.fits).symm.trans hv)
    exact hm

/-- What the handlers of the engine answer: an object with one text. -/
inductive Answered : Value → Prop
  | logged (text : String) : Answered (.object [("logged", .string text)])
  | updated (name : String) : Answered (.object [("updated", .string name)])

variable {config : Dict Value} {context : Context} {v : Value}

/-- Writing a message leaves the context alone. -/
theorem log_ok (h : (log config context).outcome = .ok v) :
    Answered v ∧ (log config context).context = context := by
  unfold log at h ⊢
  split at h
  next => cases h
  next =>
    obtain rfl := Except.ok.inj h
    exact ⟨.logged _, rfl⟩

/-- Setting a variable sets the one of the configuration, if it has a name. -/
theorem updateVar_ok (h : (updateVar config context).outcome = .ok v) :
    Answered v ∧ ∃ a, input .updateVar assignmentShape config = .ok a ∧
      (updateVar config context).context
        = if a.name = "" then context else context.insert a.name a.value := by
  unfold updateVar at h ⊢
  split at h
  next => cases h
  next a ha =>
    obtain rfl := Except.ok.inj h
    exact ⟨.updated _, a, ha, rfl⟩

/-- An object of one short text can be stored. -/
theorem storable_object (k s : String) : (Value.object [(k, .string s)]).Storable 2 where
  fits := ⟨List.pairwise_singleton _ _, trivial, trivial⟩
  exact := ⟨trivial, trivial, trivial⟩
  short := ⟨trivial, trivial, trivial⟩
  levels := by
    show 2 + 1 ≤ maxDepth
    decide

theorem Answered.storable (h : Answered v) : v.Storable 2 := by
  cases h with
  | logged text => exact storable_object _ _
  | updated name => exact storable_object _ _

end Action

namespace Registry

/-- The handlers of the engine itself are tame. -/
theorem standard_tame : (standard : Registry σ).Tame := by
  intro kind h hkind config context world hconfig hcontext v hv
  cases kind with
  | log =>
      obtain rfl := Option.some.inj hkind
      obtain ⟨hanswer, hsame⟩ := Action.log_ok hv
      rw [hsame]
      exact ⟨hanswer.storable, hcontext⟩
  | updateVar =>
      obtain rfl := Option.some.inj hkind
      obtain ⟨hanswer, a, ha, hset⟩ := Action.updateVar_ok hv
      refine ⟨hanswer.storable, ?_⟩
      rw [hset]
      split
      next => exact hcontext
      next => exact hcontext.insert _ (Action.storable_assignment hconfig ha)
  | _ => cases hkind

/-- There is no handler but those of the engine itself. -/
def OnlyStandard (r : Registry σ) : Prop := ∀ kind h, r kind = some h → standard kind = some h

/-- An action that one of them has performed left the context as it was, or it set the variable
that its configuration names. -/
theorem OnlyStandard.execute_ok {r : Registry σ} (hr : r.OnlyStandard) {name : String}
    {config : Dict Value} {context left : Context} {seconds : UInt64} {world after : σ} {v : Value}
    (h : r.execute name config context seconds world = (.ok v, left, after)) :
    Action.Answered v ∧ (left = context ∨ ∃ a : Action.Assignment,
      name = ActionKind.updateVar.name ∧
      Action.input .updateVar Action.assignmentShape config = .ok a ∧ a.name ≠ "" ∧
      left = context.insert a.name a.value) := by
  obtain ⟨kind, handler, hname, hhandler, houtcome, rfl⟩ := Registry.execute_ok h
  have hstandard := hr kind handler hhandler
  cases kind with
  | log =>
      obtain rfl := Option.some.inj hstandard
      obtain ⟨hanswer, hsame⟩ := Action.log_ok houtcome
      exact ⟨hanswer, .inl hsame⟩
  | updateVar =>
      obtain rfl := Option.some.inj hstandard
      obtain ⟨hanswer, a, ha, hset⟩ := Action.updateVar_ok houtcome
      refine ⟨hanswer, ?_⟩
      by_cases hempty : a.name = ""
      · rw [if_pos hempty] at hset
        exact .inl hset
      · rw [if_neg hempty] at hset
        exact .inr ⟨a, hname, ha, hempty, hset⟩
  | _ => cases hstandard

end Registry

end DurableWorkflow
