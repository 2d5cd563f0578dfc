/-
How often a handler is called in one visit, and with what. A handler can do anything in
its world, so its world can as well hold a list of its calls: `Surroundings.noting` lets
every handler do what it does, and then notes what it was given and what it answered.
Nothing that a visit does depends on the notes (`forget_perform`), and what they say after
a visit is what happened in it.

They say this (`Attempts`): all calls of a visit were given the same, the configuration
of the node and the context that the visit began with, whatever the attempts before had
made of it. All calls but the last one ended with a failure that may pass, and the last
one ended otherwise, or was the last one that there may be. The induction is on the attempts
that are left; the calls made before count towards the number of the attempts, which is a
number of 32 bits, so that there is one more of them than the node may repeat only if that
is no more than such a number can be.
-/
import DurableWorkflow.Proofs.Graph.Rollback

namespace DurableWorkflow

-- ===================================================== passing failures

/-- The failures that may pass: an action that failed or was too slow, and a device. -/
inductive Failure.Passing : Failure → Prop
  | action (action reason : String) : Passing (.actionFailed action reason)
  | timeout (action : String) (seconds : UInt64) : Passing (.actionTimeout action seconds)
  | device (reason : String) : Passing (.io reason)

theorem Failure.isTransient_iff (f : Failure) : f.isTransient = true ↔ f.Passing := by
  constructor
  · intro h
    cases f with
    | actionFailed action reason => exact .action action reason
    | actionTimeout action seconds => exact .timeout action seconds
    | io reason => exact .device reason
    | _ => cases h
  · intro h
    cases h <;> rfl

namespace Graph

variable {σ : Type}

-- =============================================================== calls

/-- A call of a handler: what it was given, and what it answered. -/
structure Call where
  kind : ActionKind
  config : Dict Value
  context : Context
  answer : Answer

/-- How a call ended for one who gave it so many seconds. -/
def Call.result (seconds : UInt64) (c : Call) : Except Failure Value :=
  Registry.settle c.kind seconds c.answer

/-- The same handler, with its calls noted beside the world. -/
def notingHandler (kind : ActionKind) (handler : Handler σ) : Handler (σ × List Call) :=
  fun config context world =>
    let (answer, after) := handler config context world.1
    (answer, after, world.2 ++ [⟨kind, config, context, answer⟩])

/-- The same surroundings, with the calls of all handlers noted. -/
def Surroundings.noting (s : Surroundings σ) : Surroundings (σ × List Call) where
  registry kind := (s.registry kind).map (notingHandler kind)
  now world :=
    let (t, after) := s.now world.1
    (t, after, world.2)
  settings := s.settings

/-- A visit without the notes of it. -/
def Visit.forget (v : Visit (σ × List Call)) : Visit σ := ⟨v.step, v.outcome, v.world.1⟩

-- ============================================================ one call

variable {s : Surroundings σ} {n : Node} {spec : ActionSpec} {kind : ActionKind}
  {handler : Handler σ} {name : String}

theorem noting_registry (s : Surroundings σ) (kind : ActionKind) :
    s.noting.registry kind = (s.registry kind).map (notingHandler kind) := rfl

/-- A registered action is one call of its handler. -/
theorem execute_noting (hk : ActionKind.ofName? name = some kind)
    (hs : s.registry kind = some handler) (config : Dict Value) (context : Context)
    (seconds : UInt64) (world : σ) (calls : List Call) :
    ∃ (c : Call) (after : σ), (c.kind = kind ∧ c.config = config ∧ c.context = context) ∧
      s.noting.registry.execute name config context seconds (world, calls)
        = (c.result seconds, c.answer.context, after, calls ++ [c]) := by
  refine ⟨⟨kind, config, context, (handler config context world).1⟩,
    (handler config context world).2, ⟨rfl, rfl, rfl⟩, ?_⟩
  simp only [Registry.execute, ActionKind.ofText, hk, noting_registry, hs, Option.map_some]
  rfl

/-- Noting it changes nothing else. -/
theorem execute_noting_eq {config : Dict Value} {context written : Context} {seconds : UInt64}
    {world after : σ} {result : Except Failure Value}
    (hdone : s.registry.execute name config context seconds world = (result, written, after))
    (calls : List Call) :
    ∃ calls', s.noting.registry.execute name config context seconds (world, calls)
      = (result, written, after, calls') := by
  unfold Registry.execute at hdone ⊢
  cases hk : ActionKind.ofText name with
  | error f =>
      rw [hk] at hdone
      cases hdone
      exact ⟨calls, rfl⟩
  | ok kind =>
      simp only [hk, noting_registry] at hdone ⊢
      cases hs : s.registry kind with
      | none =>
          rw [hs] at hdone
          cases hdone
          exact ⟨calls, rfl⟩
      | some handler =>
          rw [hs] at hdone
          cases hdone
          exact ⟨_, rfl⟩

/-- Why an action is not performed at all: its name means nothing, or there is no handler
for its kind. -/
inductive Refused (s : Surroundings σ) (name : String) : Failure → Prop
  | unknown (hk : ActionKind.ofName? name = none) : Refused s name (.unknownAction name)
  | unregistered {kind : ActionKind} (hk : ActionKind.ofName? name = some kind)
    (hs : s.registry kind = none) : Refused s name (.actionNotRegistered kind.name)

/-- An action that is refused is no call. -/
theorem Refused.execute {f : Failure} (h : Refused s name f) (config : Dict Value)
    (context : Context) (seconds : UInt64) (world : σ) :
    s.registry.execute name config context seconds world = (.error f, context, world) := by
  unfold Registry.execute ActionKind.ofText
  cases h with
  | unknown hk => simp only [hk]
  | unregistered hk hs => simp only [hk, hs]

theorem Refused.noting {f : Failure} (h : Refused s name f) : Refused s.noting name f := by
  cases h with
  | unknown hk => exact .unknown hk
  | unregistered hk hs => exact .unregistered hk (by rw [noting_registry, hs, Option.map_none])

/-- It fails for good. -/
theorem Refused.not_passing {f : Failure} (h : Refused s name f) : ¬ f.Passing := by
  cases h <;> exact nofun

-- ======================================================== all attempts

/-- What the notes say about the calls of one visit, which are some calls and then a last
one, if `left` of them may be repeated. -/
structure Attempts (kind : ActionKind) (spec : ActionSpec) (context : Context) (seconds : UInt64)
    (left : Nat) (early : List Call) (last : Call) : Prop where
  /-- There are not too many. -/
  enough : early.length ≤ left
  /-- All were given the same. -/
  alike : ∀ c ∈ early ++ [last], c.kind = kind ∧ c.config = spec.config ∧ c.context = context
  /-- All but the last one ended with a failure that may pass. -/
  repeated : ∀ c ∈ early, ∃ f : Failure, c.result seconds = .error f ∧ f.Passing
  /-- If the last one did so as well, there could be no more. -/
  ended : ∀ f : Failure, last.result seconds = .error f → f.Passing → early.length = left

/-- What a visit has come to if this is its last call: the value that was answered, with
what the call made of the context, or the failure. -/
def Visit.EndsWith (v : Visit σ) (n : Node) (state : State) (last : Call) : Prop :=
  match last.result n.timeoutSeconds with
  | .ok value =>
    v.step.result = some value ∧
      v.outcome = .ok ⟨.goto n.next, last.answer.context.insert lastResultKey value, state.cursors⟩
  | .error f => v.outcome = .error f

/-- Noting the calls does not change how an action is performed. -/
theorem forget_perform (s : Surroundings σ) (n : Node) (spec : ActionSpec) (state : State)
    (step : Step) (left : Nat) (attempt : UInt32) (world : σ) (calls : List Call) :
    (perform s.noting n spec state step left attempt (world, calls)).forget
      = perform s n spec state step left attempt world := by
  induction left generalizing attempt world calls with
  | zero =>
      unfold perform
      cases hdone : s.registry.execute spec.kind spec.config state.context n.timeoutSeconds
          world with
      | mk result rest =>
          obtain ⟨calls', hnoted⟩ := execute_noting_eq hdone calls
          rw [hnoted]
          cases result <;> rfl
  | succ left ih =>
      unfold perform
      cases hdone : s.registry.execute spec.kind spec.config state.context n.timeoutSeconds
          world with
      | mk result rest =>
          obtain ⟨calls', hnoted⟩ := execute_noting_eq hdone calls
          rw [hnoted]
          cases result with
          | ok v => rfl
          | error f =>
              simp only
              by_cases htransient : f.isTransient = true
              · rw [if_pos htransient, if_pos htransient]
                exact ih _ _ _
              · rw [if_neg htransient, if_neg htransient]
                rfl

/-- What is left of a visit, and noted of it after some calls, if it may repeat `left` more
of them and some attempts were made before. -/
structure Tries (v : Visit (σ × List Call)) (kind : ActionKind) (n : Node) (spec : ActionSpec)
    (state : State) (left before : Nat) (calls early : List Call) (last : Call) : Prop where
  noted : v.world.2 = calls ++ (early ++ [last])
  attempts : Attempts kind spec state.context n.timeoutSeconds left early last
  ending : v.EndsWith n state last
  count : ∃ k, v.step.attempts = some k ∧ k.toNat = before + early.length + 1

/-- The number of an attempt is the number of those before it and one. -/
theorem toNat_next_attempt (attempt : UInt32) (h : attempt.toNat + 1 < UInt32.size) :
    (attempt + 1).toNat = attempt.toNat + 1 := by
  rw [UInt32.toNat_add]
  exact Nat.mod_eq_of_lt h

section

variable {c : Call} {after : σ} {calls : List Call} {state : State} {left : Nat} {world : σ}

/-- A call ends the visit unless it fails in a way that may pass and is not the last one that
there may be. -/
theorem tries_once (hgiven : c.kind = kind ∧ c.config = spec.config ∧ c.context = state.context)
    (hdone : s.noting.registry.execute spec.kind spec.config state.context n.timeoutSeconds
      (world, calls) = (c.result n.timeoutSeconds, c.answer.context, after, calls ++ [c]))
    (hfinal : ∀ f : Failure, c.result n.timeoutSeconds = .error f → f.Passing → left = 0)
    (step : Step) (attempt : UInt32) (hfits : attempt.toNat + 1 < UInt32.size) :
    Tries (perform s.noting n spec state step left attempt (world, calls)) kind n spec state left
      attempt.toNat calls [] c := by
  have hattempts : Attempts kind spec state.context n.timeoutSeconds left [] c :=
    ⟨Nat.zero_le left, by simpa using hgiven, by simp, fun f hf hp => (hfinal f hf hp).symm⟩
  have hcount := toNat_next_attempt attempt hfits
  unfold perform
  rw [hdone]
  cases hresult : c.result n.timeoutSeconds with
  | ok v =>
      refine ⟨rfl, hattempts, ?_, _, rfl, hcount⟩
      rw [Visit.EndsWith, hresult]
      exact ⟨rfl, rfl⟩
  | error f =>
      have hends {step : Step} {after : σ × List Call} :
          Visit.EndsWith ⟨step, .error f, after⟩ n state c := by
        rw [Visit.EndsWith, hresult]
      cases left with
      | zero => exact ⟨rfl, hattempts, hends, _, rfl, hcount⟩
      | succ left =>
          have hlasting : ¬ f.isTransient = true := fun h =>
            absurd (hfinal f hresult (f.isTransient_iff.mp h)) (Nat.succ_ne_zero left)
          simp only [if_neg hlasting]
          exact ⟨rfl, hattempts, hends, _, rfl, hcount⟩

/-- After a call that fails in a way that may pass the rest is tried, if any is left. -/
theorem tries_again {f : Failure} {early : List Call} {last : Call} {step : Step}
    {attempt : UInt32}
    (hgiven : c.kind = kind ∧ c.config = spec.config ∧ c.context = state.context)
    (hdone : s.noting.registry.execute spec.kind spec.config state.context n.timeoutSeconds
      (world, calls) = (c.result n.timeoutSeconds, c.answer.context, after, calls ++ [c]))
    (hresult : c.result n.timeoutSeconds = .error f) (hpassing : f.Passing)
    (hfits : attempt.toNat + 1 < UInt32.size)
    (h : Tries (perform s.noting n spec state step left (attempt + 1) (after, calls ++ [c])) kind n
      spec state left (attempt + 1).toNat (calls ++ [c]) early last) :
    Tries (perform s.noting n spec state step (left + 1) attempt (world, calls)) kind n spec state
      (left + 1) attempt.toNat calls (c :: early) last := by
  have hnext : perform s.noting n spec state step (left + 1) attempt (world, calls)
      = perform s.noting n spec state step left (attempt + 1) (after, calls ++ [c]) := by
    rw [perform, hdone, hresult]
    exact if_pos (f.isTransient_iff.mpr hpassing)
  rw [hnext]
  refine ⟨?_, ?_, h.ending, ?_⟩
  · rw [h.noted]
    simp
  · refine ⟨Nat.succ_le_succ h.attempts.enough, ?_, ?_, ?_⟩
    · exact List.forall_mem_cons.mpr ⟨hgiven, h.attempts.alike⟩
    · exact List.forall_mem_cons.mpr ⟨⟨f, hresult, hpassing⟩, h.attempts.repeated⟩
    · exact fun g hg hp => congrArg Nat.succ (h.attempts.ended g hg hp)
  · obtain ⟨k, hstep, hcount⟩ := h.count
    rw [toNat_next_attempt attempt hfits] at hcount
    refine ⟨k, hstep, ?_⟩
    rw [hcount, List.length_cons]
    omega

end

/-- What is tried of an action that a handler is there for. The induction is on the attempts
that are left. -/
theorem tries_perform (hk : ActionKind.ofName? spec.kind = some kind)
    (hs : s.registry kind = some handler) (state : State) (step : Step) (left : Nat)
    (attempt : UInt32) (hfits : attempt.toNat + left + 1 < UInt32.size) (world : σ)
    (calls : List Call) :
    ∃ early last, Tries (perform s.noting n spec state step left attempt (world, calls)) kind n
      spec state left attempt.toNat calls early last := by
  induction left generalizing attempt world calls with
  | zero =>
      obtain ⟨c, after, hgiven, hdone⟩ := execute_noting hk hs spec.config state.context
        n.timeoutSeconds world calls
      exact ⟨[], c, tries_once hgiven hdone (fun _ _ _ => rfl) step attempt hfits⟩
  | succ left ih =>
      obtain ⟨c, after, hgiven, hdone⟩ := execute_noting hk hs spec.config state.context
        n.timeoutSeconds world calls
      have hfits1 : attempt.toNat + 1 < UInt32.size := by omega
      by_cases hpasses : ∃ f : Failure, c.result n.timeoutSeconds = .error f ∧ f.Passing
      · obtain ⟨f, hresult, hpassing⟩ := hpasses
        have hleft : (attempt + 1).toNat + left + 1 < UInt32.size := by
          rw [toNat_next_attempt attempt hfits1]
          omega
        obtain ⟨early, last, hrest⟩ := ih (attempt + 1) hleft after (calls ++ [c])
        exact ⟨c :: early, last, tries_again hgiven hdone hresult hpassing hfits1 hrest⟩
      · have hfinal : ∀ f : Failure, c.result n.timeoutSeconds = .error f → f.Passing →
            left + 1 = 0 := fun f hf hp => absurd ⟨f, hf, hp⟩ hpasses
        exact ⟨[], c, tries_once hgiven hdone hfinal step attempt hfits1⟩

/-- An action that is refused is attempted once. -/
theorem Refused.perform {f : Failure} (h : Refused s spec.kind f) (n : Node) (state : State)
    (step : Step) (left : Nat) (attempt : UInt32) (world : σ) :
    Graph.perform s n spec state step left attempt world
      = ⟨{ step with attempts := some (attempt + 1) }, .error f, world⟩ := by
  unfold Graph.perform
  rw [h.execute]
  cases left with
  | zero => rfl
  | succ left => exact if_neg fun htransient => h.not_passing (f.isTransient_iff.mp htransient)

-- ============================================================ visits

/-- The context after a visit that fails is the one before it. -/
theorem settle_context_of_error {v : Visit σ} {state : State} {f : Failure}
    (h : v.outcome = .error f) : (settle n state v).2.1.context = state.context := by
  unfold settle
  rw [h]
  cases n.errorTarget <;> rfl

/-- A visit to a node with an action calls the handler for it, if there is one, once and
then again as often as the node allows, for as long as it fails in a way that may pass.
Each call is given the configuration of the node and the context that the visit began with.
The step tells the number of the calls. If the last one has answered with a value, then
this is the result of the step, and the run goes on with what this call made of the context,
with the value in it; otherwise the failure of the last call is that of the visit, and the
run goes on with the context as it was. A name that means nothing, or a kind without a
handler, counts as one attempt, without a call. -/
theorem action_calls (h : n.behaviour = .ok (.action spec))
    (hretries : n.retryCount.toNat < UInt32.size - 1) (state : State) (step : Step) (world : σ) :
    let v := visit s n state step world
    let noted := visit s.noting n state step (world, [])
    let after := (settle n state v).2.1
    noted.forget = v ∧
    (∀ kind handler, ActionKind.ofName? spec.kind = some kind → s.registry kind = some handler →
      ∃ early last k, noted.world.2 = early ++ [last] ∧
        Attempts kind spec state.context n.timeoutSeconds n.retryCount.toNat early last ∧
        v.step.attempts = some k ∧ k.toNat = noted.world.2.length ∧
        ((∃ value, last.result n.timeoutSeconds = .ok value ∧ v.step.result = some value ∧
            v.outcome = .ok ⟨.goto n.next, after.context, state.cursors⟩ ∧
            after.context = last.answer.context.insert lastResultKey value) ∨
          ∃ f : Failure, last.result n.timeoutSeconds = .error f ∧ v.outcome = .error f ∧
            after.context = state.context)) ∧
    ∀ f, Refused s spec.kind f →
      noted.world.2 = [] ∧ v.step.attempts = some 1 ∧ v.outcome = .error f ∧
        after.context = state.context := by
  have hvisit {σ : Type} (s : Surroundings σ) (world : σ) :
      visit s n state step world = perform s n spec state step n.retryCount.toNat 0 world := by
    unfold visit
    rw [h]
  have hforget := forget_perform s n spec state step n.retryCount.toNat 0 world []
  simp only [hvisit]
  refine ⟨hforget, ?_, ?_⟩
  · intro kind handler hk hs
    have hfits : (0 : UInt32).toNat + n.retryCount.toNat + 1 < UInt32.size := by
      rw [UInt32.toNat_zero]
      omega
    obtain ⟨early, last, htries⟩ :=
      tries_perform (n := n) hk hs state step n.retryCount.toNat 0 hfits world []
    generalize perform s.noting n spec state step n.retryCount.toNat 0 (world, []) = noted
      at hforget htries ⊢
    rw [← hforget]
    obtain ⟨k, hstep, hcount⟩ := htries.count
    refine ⟨early, last, k, htries.noted, htries.attempts, hstep, ?_, ?_⟩
    · rw [htries.noted, hcount]
      simp
    · have hends := htries.ending
      unfold Visit.EndsWith at hends
      cases hlast : last.result n.timeoutSeconds with
      | ok value =>
          rw [hlast] at hends
          have hafter : (settle n state noted.forget).2.1
              = ⟨n.next, last.answer.context.insert lastResultKey value, state.cursors⟩ := by
            unfold settle Visit.forget
            rw [hends.2]
          rw [hafter]
          exact .inl ⟨value, rfl, hends.1, hends.2, rfl⟩
      | error f =>
          rw [hlast] at hends
          exact .inr ⟨f, rfl, hends, settle_context_of_error hends⟩
  · intro f hrefused
    rw [hrefused.noting.perform, hrefused.perform]
    exact ⟨rfl, rfl, rfl, settle_context_of_error rfl⟩

-- ========================================================= an example

/-- A handler that is busy when it is called first, and leaves a mark in the context all
the same. The world counts its calls. -/
def Surroundings.busyOnce : Surroundings Nat where
  registry := Registry.empty.register .log fun _ context calls =>
    (⟨if calls = 0 then .error (.actionFailed "log" "busy") else .ok .null,
      context.insert ("mark " ++ toString calls) .null, 0⟩, calls + 1)
  now calls := (.epoch, calls)
  settings := .standard

/-- A node that is tried up to five times. -/
def stubborn : Node := (Node.action "try" "log" .null).withRetry 4 0

/-- What is asked for in it. -/
def stubbornSpec : ActionSpec := ⟨"log", [("action_type", .string "log")]⟩

/-- The handler is called twice; it does not find the mark of its first call, and that one
is not in the context after the visit. -/
theorem action_calls_stubborn :
    let v := visit Surroundings.busyOnce stubborn ⟨"try", [], []⟩ (.new "try" .action .epoch) 0
    let noted := visit Surroundings.busyOnce.noting stubborn ⟨"try", [], []⟩
      (.new "try" .action .epoch) (0, [])
    stubborn.retryCount.toNat < UInt32.size - 1 ∧ noted.forget = v ∧
      ∃ early last k, noted.world.2 = early ++ [last] ∧ early.length = 1 ∧
        Attempts .log stubbornSpec [] stubborn.timeoutSeconds 4 early last ∧
        v.step.attempts = some k ∧ k.toNat = 2 ∧
        (settle stubborn ⟨"try", [], []⟩ v).2.1.context
          = [("last_action_result", .null), ("mark 1", .null)] := by
  have hbehaviour : stubborn.behaviour = .ok (.action stubbornSpec) := rfl
  have hretries : stubborn.retryCount.toNat < UInt32.size - 1 := by decide
  obtain ⟨hforget, hcalls, -⟩ := action_calls (s := Surroundings.busyOnce) hbehaviour hretries
    ⟨"try", [], []⟩ (.new "try" .action .epoch) 0
  obtain ⟨early, last, k, hsplit, hattempts, hstep, hcount, -⟩ := hcalls .log _ rfl rfl
  have hlength : (visit Surroundings.busyOnce.noting stubborn ⟨"try", [], []⟩
      (.new "try" .action .epoch) (0, [])).world.2.length = 2 := by decide +kernel
  have hearly : early.length = 1 := by
    rw [hsplit, List.length_append, List.length_singleton] at hlength
    omega
  exact ⟨hretries, hforget, early, last, k, hsplit, hearly, hattempts, hstep,
    hcount.trans hlength, rfl⟩

end Graph

end DurableWorkflow
