/-
The number of an attempt. A visit to a node with an action counts its attempts in 32 bits,
and the node says in 32 bits how often an action is tried again. So there may be one attempt
more than can be counted.

The attempts of a visit follow each other (`Trial.Reached`): each one but the last failed in
a way that may pass and was not the last that there may be. From one to the next the number
of those that may follow falls by one and the number of those made before grows by one, and
it does not wrap as long as another attempt may follow. This is the invariant
(`Trial.Reached.count`): the attempts made before and those that may follow are as many as
the repetitions that the node allows. The number of an attempt is one more than those made
before it, so it is too large for 32 bits exactly at the last attempt of a node that allows
the most repetitions that there can be, if it comes to that (`Overruns`).
-/
import DurableWorkflow.Proofs.Graph.Attempts

namespace DurableWorkflow.Graph

variable {σ : Type} {s : Surroundings σ} {n : Node} {spec : ActionSpec} {context : Context}
  {world : σ}

-- ============================================================ trials

/-- An attempt: how many may follow it, how many were made before it, and the world that it
finds. -/
structure Trial (σ : Type) where
  left : Nat
  attempt : UInt32
  world : σ

/-- The first attempt of a visit. -/
def Trial.initial (n : Node) (world : σ) : Trial σ := ⟨n.retryCount.toNat, 0, world⟩

/-- The attempts that are made from a first one on. After one that fails in a way that may
pass the next one is made, if any may follow. -/
inductive Trial.Reached (s : Surroundings σ) (n : Node) (spec : ActionSpec) (context : Context)
    (first : Trial σ) : Trial σ → Prop
  | first : Reached s n spec context first first
  | again {left : Nat} {attempt : UInt32} {world after : σ} {f : Failure} {written : Context}
    (h : Reached s n spec context first ⟨left + 1, attempt, world⟩)
    (hfails : s.registry.execute spec.kind spec.config context n.timeoutSeconds world
      = (.error f, written, after))
    (hpasses : f.Passing) : Reached s n spec context first ⟨left, attempt + 1, after⟩

/-- The attempts made before and those that may follow do not change in sum, because the
number of an attempt that may be repeated does not wrap. -/
theorem Trial.Reached.count {first t : Trial σ} (h : Reached s n spec context first t)
    (hfits : first.attempt.toNat + first.left < UInt32.size) :
    t.attempt.toNat + t.left = first.attempt.toNat + first.left := by
  induction h with
  | first => rfl
  | @again left attempt _ _ _ _ _ _ _ ih =>
      have hsum : attempt.toNat + (left + 1) = first.attempt.toNat + first.left := ih
      have hnext := toNat_next_attempt attempt (by omega)
      show (attempt + 1).toNat + left = _
      omega

/-- An action that is performed is performed from each of its attempts on. -/
theorem Trial.Reached.perform_eq {first t : Trial σ} {state : State}
    (h : Reached s n spec state.context first t) (step : Step) :
    perform s n spec state step first.left first.attempt first.world
      = perform s n spec state step t.left t.attempt t.world := by
  induction h with
  | first => rfl
  | @again left attempt world after f _ _ hfails hpasses ih =>
      rw [ih]
      show perform s n spec state step (left + 1) attempt world = _
      rw [perform, hfails]
      exact if_pos (f.isTransient_iff.mpr hpasses)

/-- The step of the last attempt that may be made has its number. -/
theorem attempts_of_none_left (s : Surroundings σ) (n : Node) (spec : ActionSpec) (state : State)
    (step : Step) (attempt : UInt32) (world : σ) :
    (perform s n spec state step 0 attempt world).step.attempts = some (attempt + 1) := by
  rw [perform]
  cases s.registry.execute spec.kind spec.config state.context n.timeoutSeconds world with
  | mk result rest => cases result <;> rfl

/-- The step that is recorded has the number of an attempt that was made. The induction is on
the attempts that may follow. -/
theorem Trial.Reached.exists_last {first : Trial σ} {state : State} {left : Nat}
    {attempt : UInt32} {world : σ}
    (h : Reached s n spec state.context first ⟨left, attempt, world⟩) (step : Step) :
    ∃ last, Reached s n spec state.context first last ∧
      (perform s n spec state step left attempt world).step.attempts = some (last.attempt + 1) := by
  induction left generalizing attempt world with
  | zero => exact ⟨_, h, attempts_of_none_left s n spec state step attempt world⟩
  | succ left ih =>
      rw [perform]
      cases hdone : s.registry.execute spec.kind spec.config state.context n.timeoutSeconds
          world with
      | mk result rest =>
          cases result with
          | ok v => exact ⟨_, h, rfl⟩
          | error f =>
              by_cases htransient : f.isTransient = true
              · simp only [if_pos htransient]
                exact ih (h.again hdone (f.isTransient_iff.mp htransient))
              · simp only [if_neg htransient]
                exact ⟨_, h, rfl⟩

-- =========================================================== overruns

/-- A visit has an attempt with a number beyond 32 bits: the node allows as many repetitions
as it can say, and the last of them is made. -/
def Overruns (s : Surroundings σ) (n : Node) (spec : ActionSpec) (context : Context)
    (world : σ) : Prop :=
  n.retryCount.toNat + 1 = UInt32.size ∧
    ∃ t, Trial.Reached s n spec context (.initial n world) t ∧ t.left = 0

/-- The invariant of the attempts of a visit. -/
theorem Trial.Reached.count_initial {t : Trial σ}
    (h : Reached s n spec context (.initial n world) t) :
    t.attempt.toNat + t.left = n.retryCount.toNat := by
  have hfits : (0 : UInt32).toNat + n.retryCount.toNat < UInt32.size := by
    rw [UInt32.toNat_zero, Nat.zero_add]
    exact n.retryCount.toNat_lt
  have hsum : t.attempt.toNat + t.left = (0 : UInt32).toNat + n.retryCount.toNat := h.count hfits
  rwa [UInt32.toNat_zero, Nat.zero_add] at hsum

/-- An attempt with a number beyond 32 bits is the last one of as many as a node can allow. -/
theorem Trial.Reached.overruns {t : Trial σ}
    (h : Reached s n spec context (.initial n world) t) (hlarge : UInt32.size ≤ t.attempt.toNat + 1) :
    Overruns s n spec context world := by
  have hcount := h.count_initial
  have hretries := n.retryCount.toNat_lt_size
  exact ⟨by omega, t, h, by omega⟩

/-- If there is such an attempt, its number is recorded as zero. -/
theorem Overruns.exists_trial {state : State} (h : Overruns s n spec state.context world)
    (step : Step) :
    ∃ t, Trial.Reached s n spec state.context (.initial n world) t ∧
      t.attempt.toNat + 1 = UInt32.size ∧
      (perform s n spec state step n.retryCount.toNat 0 world).step.attempts = some 0 := by
  obtain ⟨hmost, ⟨left, attempt, after⟩, hreached, rfl⟩ := h
  have hcount : attempt.toNat + 0 = n.retryCount.toNat := hreached.count_initial
  have hlast : attempt.toNat + 1 = UInt32.size := by omega
  have hwraps : attempt + 1 = 0 := by
    rw [← UInt32.toNat_inj, UInt32.toNat_add, UInt32.toNat_one, hlast]
    rfl
  have hperform : perform s n spec state step n.retryCount.toNat 0 world
      = perform s n spec state step 0 attempt after := hreached.perform_eq step
  refine ⟨_, hreached, hlast, ?_⟩
  rw [hperform, attempts_of_none_left, hwraps]

/-- A visit to a node with an action performs it, with all repetitions left and no attempt
made. -/
theorem visit_of_action (h : n.behaviour = .ok (.action spec)) (state : State) (step : Step)
    (world : σ) :
    visit s n state step world = perform s n spec state step n.retryCount.toNat 0 world := by
  unfold visit
  rw [h]

/-- The counter of the attempts. Whatever a handler does, the attempts made before an attempt
and those that may follow it are the repetitions that the node allows. The number of an
attempt is one more than those made before it. It has room in 32 bits at each attempt of a
visit, and the number that is recorded is not zero, exactly if the visit does not overrun the
counter. It does so if the node allows as many repetitions as 32 bits can say and all of them
are made; then the last attempt is recorded as number zero. -/
theorem attempts_fit (h : n.behaviour = .ok (.action spec)) (state : State) (step : Step)
    (world : σ) :
    (∀ t, Trial.Reached s n spec state.context (.initial n world) t →
      t.attempt.toNat + t.left = n.retryCount.toNat) ∧
    ((∀ t, Trial.Reached s n spec state.context (.initial n world) t →
      t.attempt.toNat + 1 < UInt32.size) ↔ ¬ Overruns s n spec state.context world) ∧
    ∃ last k, Trial.Reached s n spec state.context (.initial n world) last ∧
      (visit s n state step world).step.attempts = some k ∧ k = last.attempt + 1 ∧
      (k = 0 ↔ Overruns s n spec state.context world) := by
  refine ⟨fun t ht => ht.count_initial, ⟨fun hfit hover => ?_, fun hnot t ht => ?_⟩, ?_⟩
  · obtain ⟨t, ht, hlast, -⟩ := hover.exists_trial step
    exact absurd (hfit t ht) (by omega)
  · exact Nat.not_le.mp fun hlarge => hnot (ht.overruns hlarge)
  · have hfirst : Trial.Reached s n spec state.context (.initial n world) (.initial n world) :=
      .first
    obtain ⟨last, hreached, hrecorded⟩ := hfirst.exists_last step
    rw [visit_of_action h]
    refine ⟨last, _, hreached, hrecorded, rfl, fun hzero => ?_, fun hover => ?_⟩
    · apply hreached.overruns
      by_contra hsmall
      have hnext := toNat_next_attempt last.attempt (Nat.not_le.mp hsmall)
      rw [hzero, UInt32.toNat_zero] at hnext
      omega
    · obtain ⟨-, -, -, hzero⟩ := hover.exists_trial step
      exact Option.some.inj (hrecorded.symm.trans hzero)

-- ========================================================= an example

/-- A handler that is busy for some calls, and then answers. The world counts its calls. -/
def Surroundings.busyFor (k : Nat) : Surroundings Nat where
  registry := Registry.empty.register .log fun _ context calls =>
    (⟨if calls < k then .error (.actionFailed "log" "busy") else .ok .null, context, 0⟩, calls + 1)
  now calls := (.epoch, calls)
  settings := .standard

/-- A node that allows as many repetitions as it can say. -/
def tireless : Node := (Node.action "try" "log" .null).withRetry 0xFFFFFFFF 0

/-- What is asked for in it. -/
def tirelessSpec : ActionSpec := ⟨"log", [("action_type", .string "log")]⟩

/-- With a handler that is busy long enough every attempt is reached that the node allows. -/
theorem reached_busyFor (k made : Nat) (hbusy : made ≤ k) (hmade : made ≤ 4294967295) :
    Trial.Reached (.busyFor k) tireless tirelessSpec [] (.initial tireless 0)
      ⟨4294967295 - made, .ofNat made, made⟩ := by
  induction made with
  | zero => exact .first
  | succ made ih =>
      have hreached := ih (by omega) (by omega)
      rw [show 4294967295 - made = 4294967295 - (made + 1) + 1 by omega] at hreached
      have hfails : (Surroundings.busyFor k).registry.execute tirelessSpec.kind
          tirelessSpec.config [] tireless.timeoutSeconds made
          = (.error (.actionFailed "log" "busy"), [], made + 1) := by
        show (Registry.settle .log 30 ⟨if made < k then _ else _, [], 0⟩, _, _) = _
        rw [if_pos (by omega)]
        rfl
      rw [UInt32.ofNat_add]
      exact hreached.again hfails (.action _ _)

/-- A handler that is busy for two calls is called a third time, and this is recorded, though
the node allows as many repetitions as it can say. -/
theorem attempts_fit_tireless :
    tireless.behaviour = .ok (.action tirelessSpec) ∧
      ¬ Overruns (.busyFor 2) tireless tirelessSpec [] 0 ∧
      (∀ t, Trial.Reached (.busyFor 2) tireless tirelessSpec [] (.initial tireless 0) t →
        t.attempt.toNat + 1 < UInt32.size) ∧
      (visit (.busyFor 2) tireless ⟨"try", [], []⟩ (.new "try" .action .epoch) 0).step.attempts
        = some 3 := by
  have hbehaviour : tireless.behaviour = .ok (.action tirelessSpec) := rfl
  obtain ⟨-, hfit, last, k, -, hrecorded, -, hzero⟩ := attempts_fit (s := .busyFor 2) hbehaviour
    ⟨"try", [], []⟩ (.new "try" .action .epoch) 0
  have hthree : (visit (.busyFor 2) tireless ⟨"try", [], []⟩
      (.new "try" .action .epoch) 0).step.attempts = some 3 := by decide +kernel
  have hnot : ¬ Overruns (.busyFor 2) tireless tirelessSpec [] 0 := by
    rw [← hzero, ← Option.some_inj, ← hrecorded, hthree]
    decide
  exact ⟨hbehaviour, hnot, hfit.mpr hnot, hthree⟩

/-- A handler that stays busy is called once more than can be counted, and this call is
recorded as number zero. -/
theorem attempts_overrun :
    tireless.behaviour = .ok (.action tirelessSpec) ∧
      ∃ t, Trial.Reached (.busyFor 4294967296) tireless tirelessSpec [] (.initial tireless 0) t ∧
        ¬ t.attempt.toNat + 1 < UInt32.size ∧
        (visit (.busyFor 4294967296) tireless ⟨"try", [], []⟩
          (.new "try" .action .epoch) 0).step.attempts = some 0 := by
  have hbehaviour : tireless.behaviour = .ok (.action tirelessSpec) := rfl
  have hover : Overruns (.busyFor 4294967296) tireless tirelessSpec
      (⟨"try", [], []⟩ : State).context 0 :=
    ⟨rfl, _, reached_busyFor 4294967296 4294967295 (by decide) (by decide), Nat.sub_self _⟩
  obtain ⟨t, ht, hlast, hzero⟩ := hover.exists_trial (.new "try" .action .epoch)
  have hvisit := visit_of_action (s := .busyFor 4294967296) hbehaviour ⟨"try", [], []⟩
    (.new "try" .action .epoch) 0
  exact ⟨hbehaviour, t, ht, by omega, hvisit ▸ hzero⟩

end DurableWorkflow.Graph
