/-
Suspending does not change what a run does. A drive that goes on at once at every
delay, and a series of drives that stop at every delay and are gone on with from
where they stopped, come to the same end and make the same steps; only the times
of the steps differ, and the delays of the series are marked as waiting.

# What the handlers may see

The two run at different times, so nothing of the kind holds of a handler that
looks at the clock. Of the world only a view is compared (`Blind`): what the
handlers answer and leave in it is told by the view before, and a reading of the
clock, like whatever happens while a run is parked, leaves the view as it is.

# The budgets

Every drive of the series is given the whole budget again, so it never has less
left than the one that does not stop. The induction is on what that one has left;
the budget of the drive of the series that is under way is any number that is not
smaller (`resumed_of_drive`).
-/
import DurableWorkflow.Proofs.Graph.Delay
import Mathlib.Data.List.Forall2

namespace DurableWorkflow

open Time (Instant)

-- ============================================================= steps

namespace Step

/-- Whether a visit is one to a delay that is not over at once. -/
def waits (step : Step) : Bool := step.delay.any (· ≠ 0)

/-- Whether a visit is one to a delay that leads out of the range of instants. -/
def refused (step : Step) : Bool := step.delay.isSome && step.status = .error

/-- How a step of a drive that stops at delays differs from that of a drive that does
not: in its time, and in waiting where the other one has gone on. -/
structure SameButPaused (whole part : Step) : Prop where
  goesOn : whole.waits → whole.status = .success
  same : part = { whole with
    timestamp := part.timestamp
    status := if whole.waits then .waiting else whole.status }

end Step

namespace Graph

variable {σ τ : Type}

-- ======================================================= the two modes

/-- The same surroundings, with another mode of delays. -/
def Surroundings.withDelays (s : Surroundings σ) (mode : DelayMode) : Surroundings σ :=
  { s with settings := { s.settings with delayMode := mode } }

/-- Handlers that do not observe the clock: whatever they do is told by a view of the
world that a reading of the clock does not change. -/
structure Blind (s : Surroundings σ) (view : σ → τ) : Prop where
  clock (world : σ) : view (s.now world).2 = view world
  handlers {kind : ActionKind} {h : Handler σ} (hk : s.registry kind = some h)
    (config : Dict Value) (context : Context) {world world' : σ} (hw : view world' = view world) :
    (h config context world').1 = (h config context world).1
      ∧ view (h config context world').2 = view (h config context world).2

-- ========================================================= going on

/-- What becomes of a drive that is gone on with each time it is suspended, at most
`pauses` times: each time from the state it left, with the same budget, after
something else has happened `meanwhile`. -/
def resumed (s : Surroundings σ) (nodes : List Node) (budget : Nat) :
    Nat → (Nat → σ → σ) → Outcome × σ → Outcome × σ
  | 0, _, first => first
  | pauses + 1, meanwhile, first =>
    match first.1.halt with
    | .suspended _ =>
      let (rest, world) := resumed s nodes budget pauses (fun i => meanwhile (i + 1))
        (drive s nodes budget first.1.state (meanwhile 0 first.2))
      (⟨rest.state, first.1.steps ++ rest.steps, rest.halt⟩, world)
    | _ => first

/-- A run as the engine goes through it where delays suspend: a drive with the budget
of the settings, and one more after each pause. -/
def driveAgain (s : Surroundings σ) (nodes : List Node) (pauses : Nat)
    (meanwhile : Nat → σ → σ) (state : State) (world : σ) : Outcome × σ :=
  resumed s nodes s.settings.maxSteps pauses meanwhile
    (drive s nodes s.settings.maxSteps state world)

variable {s : Surroundings σ} {nodes : List Node} {budget : Nat}

/-- A drive that is not suspended is not gone on with. -/
theorem resumed_of_ended (pauses : Nat) (meanwhile : Nat → σ → σ) {first : Outcome × σ}
    (h : ∀ t, first.1.halt ≠ .suspended t) :
    resumed s nodes budget pauses meanwhile first = first := by
  cases pauses with
  | zero => rfl
  | succ pauses =>
      rw [resumed]
      split
      next t ht => exact absurd ht (h t)
      next => rfl

/-- A drive that is suspended is gone on with. -/
theorem resumed_of_suspended (pauses : Nat) (meanwhile : Nat → σ → σ) {first : Outcome × σ}
    {t : Instant} (h : first.1.halt = .suspended t) :
    resumed s nodes budget (pauses + 1) meanwhile first =
      let (rest, world) := resumed s nodes budget pauses (fun i => meanwhile (i + 1))
        (drive s nodes budget first.1.state (meanwhile 0 first.2))
      (⟨rest.state, first.1.steps ++ rest.steps, rest.halt⟩, world) := by
  rw [resumed, h]

/-- A step that was made before stays before all others. -/
theorem resumed_cons (pauses : Nat) (meanwhile : Nat → σ → σ) (step : Step)
    (first : Outcome × σ) :
    resumed s nodes budget pauses meanwhile (first.1.cons step, first.2)
      = ((resumed s nodes budget pauses meanwhile first).1.cons step,
          (resumed s nodes budget pauses meanwhile first).2) := by
  cases pauses with
  | zero => rfl
  | succ pauses =>
      by_cases h : ∃ t, first.1.halt = .suspended t
      · obtain ⟨t, ht⟩ := h
        rw [resumed_of_suspended pauses meanwhile ht, resumed_of_suspended pauses meanwhile
          (show (first.1.cons step, first.2).1.halt = .suspended t from ht)]
        rfl
      · rw [not_exists] at h
        rw [resumed_of_ended _ _ h, resumed_of_ended _ _
          (show ∀ t, (first.1.cons step, first.2).1.halt ≠ .suspended t from h)]

-- ===================================================== visits compared

/-- Two visits that differ in the time of their steps only, as far as the handlers can
see; neither of them waits. -/
structure Visit.Alike (view : σ → τ) (v v' : Visit σ) : Prop where
  step : ∃ t, v'.step = { v.step with timestamp := t }
  waits : v.step.waits = false
  moves {a : Arrival} (ha : v.outcome = .ok a) (next : String) (due : Instant) :
    a.move ≠ .suspend next due
  outcome : v'.outcome = v.outcome
  world : view v'.world = view v.world

variable {view : σ → τ} {n : Node} {state : State} {step : Step} {world world' : σ}

/-- What is performed does not depend on the clock or the mode of delays. -/
theorem execute_blind (hb : Blind s view) (name : String) (config : Dict Value)
    (context : Context) (seconds : UInt64) (hw : view world' = view world) :
    let r := s.registry.execute name config context seconds world
    let r' := s.registry.execute name config context seconds world'
    r'.1 = r.1 ∧ r'.2.1 = r.2.1 ∧ view r'.2.2 = view r.2.2 := by
  unfold Registry.execute
  cases ActionKind.ofText name with
  | error e => exact ⟨rfl, rfl, hw⟩
  | ok kind =>
      cases hk : s.registry kind with
      | none => simpa only [hk] using ⟨trivial, trivial, hw⟩
      | some h =>
          obtain ⟨hanswer, hworld⟩ := hb.handlers hk config context hw
          simp only [hk, hanswer, hworld, and_self]

/-- An action with all its attempts. -/
theorem perform_alike (hb : Blind s view) (mode mode' : DelayMode) (spec : ActionSpec)
    (t : Instant) (left : Nat) (attempt : UInt32) (hw : view world' = view world)
    (hstep : step.waits = false) :
    (perform (s.withDelays mode) n spec state step left attempt world).Alike view
      (perform (s.withDelays mode') n spec state { step with timestamp := t } left attempt
        world') := by
  induction left generalizing attempt world world' with
  | zero =>
      obtain ⟨hresult, hcontext, hworld⟩ :=
        execute_blind hb spec.kind spec.config state.context n.timeoutSeconds hw
      unfold perform Surroundings.withDelays
      simp only [hresult, hcontext]
      split
      next => exact ⟨⟨t, rfl⟩, hstep, by simp, rfl, hworld⟩
      next => exact ⟨⟨t, rfl⟩, hstep, by simp, rfl, hworld⟩
  | succ left ih =>
      obtain ⟨hresult, hcontext, hworld⟩ :=
        execute_blind hb spec.kind spec.config state.context n.timeoutSeconds hw
      unfold perform
      simp only [Surroundings.withDelays] at ih ⊢
      simp only [hresult, hcontext]
      split
      next => exact ⟨⟨t, rfl⟩, hstep, by simp, rfl, hworld⟩
      next =>
        split
        next => exact ih (attempt + 1) hworld
        next => exact ⟨⟨t, rfl⟩, hstep, by simp, rfl, hworld⟩

/-- A visit to a node that is not a delay to be waited for. -/
theorem visit_alike (hb : Blind s view) (mode mode' : DelayMode) (n : Node) (state : State)
    {step : Step} (t : Instant)
    (hn : ∀ seconds, n.behaviour = .ok (.delay ⟨seconds⟩) → seconds = 0)
    (hw : view world' = view world) (hstep : step.waits = false) :
    (visit (s.withDelays mode) n state step world).Alike view
      (visit (s.withDelays mode') n state { step with timestamp := t } world') := by
  unfold visit
  cases hbehaviour : n.behaviour with
  | error e => exact ⟨⟨t, rfl⟩, hstep, by simp, rfl, hw⟩
  | ok behaviour =>
      cases behaviour with
      | trigger => exact ⟨⟨t, rfl⟩, hstep, by simp, rfl, hw⟩
      | unknown => exact ⟨⟨t, rfl⟩, hstep, by simp, rfl, hw⟩
      | finish => exact ⟨⟨t, rfl⟩, hstep, by simp, rfl, hw⟩
      | condition spec onTrue onFalse => exact ⟨⟨t, rfl⟩, hstep, by simp, rfl, hw⟩
      | branch spec => exact ⟨⟨t, rfl⟩, hstep, by simp, rfl, hw⟩
      | action spec => exact perform_alike hb mode mode' spec t _ 0 hw hstep
      | delay spec =>
          have hzero : spec.seconds = 0 := hn spec.seconds hbehaviour
          simp only
          unfold wait
          rw [if_pos (.inr hzero), if_pos (.inr hzero)]
          exact ⟨⟨t, rfl⟩, by simp [Step.waits, hzero], by simp, rfl, hw⟩
      | loop spec =>
          simp only
          unfold iterate
          cases loopItem spec n state with
          | error e => exact ⟨⟨t, rfl⟩, hstep, by simp, rfl, hw⟩
          | ok item =>
              cases item with
              | none => exact ⟨⟨t, rfl⟩, hstep, by simp, rfl, hw⟩
              | some item => exact ⟨⟨t, rfl⟩, hstep, by simp, rfl, hw⟩

/-- Visits that differ in their times only come to the same, which is no suspension. -/
theorem Visit.Alike.settle {v v' : Visit σ} (h : v.Alike view v') (n : Node) (state : State) :
    (Graph.settle n state v').2 = (Graph.settle n state v).2
      ∧ (Graph.settle n state v).1.SameButPaused (Graph.settle n state v').1
      ∧ ∀ due, (Graph.settle n state v).2.2 ≠ some (.suspended due) := by
  obtain ⟨⟨t, ht⟩, hwaits, hmoves, houtcome, -⟩ := h
  have hsame {whole part : Step} (hw : whole.waits = false)
      (hp : part = { whole with timestamp := part.timestamp }) : whole.SameButPaused part :=
    ⟨by simp [hw], by rw [hp]; simp [hw]⟩
  unfold Graph.settle
  rw [houtcome, ht]
  cases ho : v.outcome with
  | ok arrival =>
      cases hm : arrival.move with
      | goto next | finish =>
          simp only [hm, true_and]
          exact ⟨hsame hwaits rfl, by simp⟩
      | suspend next due => exact absurd hm (hmoves ho next due)
  | error e =>
      cases n.errorTarget with
      | some target => exact ⟨rfl, hsame hwaits rfl, by simp⟩
      | none => exact ⟨rfl, hsame hwaits rfl, by simp⟩

variable {seconds : UInt64}

/-- Where delays do not suspend, a delay is noted and gone on from. -/
theorem visit_delay_record (hmode : s.settings.delayMode = .record)
    (hn : n.behaviour = .ok (.delay ⟨seconds⟩)) (state : State) (step : Step) (world : σ) :
    visit s n state step world = ⟨{ step with delay := some seconds },
      .ok ⟨.goto n.next, state.context, state.cursors⟩, world⟩ := by
  unfold visit
  rw [hn]
  simp only
  unfold wait
  rw [if_pos (.inl hmode)]

/-- A visit to a delay notes it and reads the clock at most. -/
theorem visit_delay_noted (hb : Blind s view) (hn : n.behaviour = .ok (.delay ⟨seconds⟩))
    (state : State) (step : Step) (world : σ) :
    (visit s n state step world).step = { step with delay := some seconds }
      ∧ view (visit s n state step world).world = view world := by
  unfold visit
  rw [hn]
  simp only
  unfold wait
  split
  next => exact ⟨rfl, rfl⟩
  next =>
    split
    next => exact ⟨rfl, rfl⟩
    next =>
      simp only
      split
      next => exact ⟨rfl, hb.clock world⟩
      next => exact ⟨rfl, hb.clock world⟩

/-- One visit of the drive that does not stop, and the same visit of one that does:
unless it is to a delay that is refused, they leave the same state and the same
step, and end the drive in the same way, except that the second may be suspended
where the first goes on. -/
theorem advance_alike (hb : Blind s view) (n : Node) (state : State)
    (hw : view world' = view world) :
    let whole := advance (s.withDelays .record) n state world
    let part := advance (s.withDelays .suspend) n state world'
    part.1.1.refused = true
      ∨ (whole.1.1.SameButPaused part.1.1 ∧ part.1.2.1 = whole.1.2.1 ∧ view part.2 = view whole.2
        ∧ (part.1.2.2 = whole.1.2.2 ∧ (∀ due, whole.1.2.2 ≠ some (.suspended due))
          ∨ whole.1.2.2 = none ∧ ∃ due, part.1.2.2 = some (.suspended due))) := by
  have hclock : view (s.now world').2 = view (s.now world).2 := by
    rw [hb.clock, hb.clock, hw]
  intro whole part
  by_cases hwait : ∃ seconds, n.behaviour = .ok (.delay ⟨seconds⟩) ∧ seconds ≠ 0
  · obtain ⟨seconds, hn, hpos⟩ := hwait
    have hwhole : whole.1 = ({ Step.new n.id n.type (s.now world).1 with delay := some seconds },
        ⟨n.next, state.context, state.cursors⟩, none) ∧ whole.2 = (s.now world).2 := by
      have hvisit := visit_delay_record (s := s.withDelays .record) rfl hn state
        (.new n.id n.type (s.now world).1) (s.now world).2
      exact ⟨congrArg (settle n state) hvisit, congrArg Visit.world hvisit⟩
    obtain ⟨hstep, hworld⟩ := visit_delay_noted (s := s.withDelays .suspend)
      ⟨hb.clock, hb.handlers⟩ hn state (.new n.id n.type (s.now world').1) (s.now world').2
    have houtcome := visit_delay (s := s.withDelays .suspend) rfl hn hpos state
      (.new n.id n.type (s.now world').1) (s.now world').2
    have hpart : part.1 = settle n state (visit (s.withDelays .suspend) n state
        (.new n.id n.type (s.now world').1) (s.now world').2) := rfl
    rw [settle, hstep] at hpart
    cases hend : delayEnd ((s.withDelays .suspend).now (s.now world').2).1 seconds with
    | none =>
        left
        rw [houtcome, hend] at hpart
        simp only at hpart
        split at hpart
        next => rw [hpart]; rfl
        next => rw [hpart]; rfl
    | some due =>
        right
        rw [houtcome, hend] at hpart
        rw [hwhole.1, hwhole.2, hpart]
        refine ⟨⟨fun _ => rfl, ?_⟩, rfl, hworld.trans hclock, .inr ⟨rfl, due, rfl⟩⟩
        simp [Step.waits, Step.new, hpos]
  · have hnot (seconds : UInt64) (hn : n.behaviour = .ok (.delay ⟨seconds⟩)) : seconds = 0 :=
      by_contra fun hpos => hwait ⟨seconds, hn, hpos⟩
    have hnew : (Step.new n.id n.type (s.now world).1).waits = false := rfl
    have halike := visit_alike hb .record .suspend n state (s.now world').1 hnot hclock hnew
    obtain ⟨hrest, hstep, hends⟩ := halike.settle n state
    exact .inr ⟨hstep, congrArg Prod.fst hrest, halike.world,
      .inl ⟨congrArg Prod.snd hrest, hends⟩⟩

-- ==================================================== drives compared

/-- How the end of a series of drives that stop at delays compares with that of one
drive that does not: the same end and state, and the same steps, but for their
times and the delays that were waited for. -/
structure SameButPaused (view : σ → τ) (whole part : Outcome × σ) : Prop where
  halt : part.1.halt = whole.1.halt
  state : part.1.state = whole.1.state
  steps : List.Forall₂ Step.SameButPaused whole.1.steps part.1.steps
  world : view part.2 = view whole.2

/-- A step more at the beginning of both. -/
theorem SameButPaused.cons {whole part : Outcome × σ} (h : SameButPaused view whole part)
    {step step' : Step} (hstep : step.SameButPaused step') :
    SameButPaused view (whole.1.cons step, whole.2) (part.1.cons step', part.2) :=
  ⟨h.halt, h.state, .cons hstep h.steps, h.world⟩

/-- From some number of pauses on a series of drives has the end of one drive. -/
def ComesTo (s : Surroundings σ) (nodes : List Node) (budget : Nat) (view : σ → τ)
    (whole : Outcome × σ) (meanwhile : Nat → σ → σ) (first : Outcome × σ) : Prop :=
  ∃ pauses, ∀ more, pauses ≤ more →
    SameButPaused view whole (resumed s nodes budget more meanwhile first)

/-- Where both have ended, nothing is gone on with. -/
theorem ComesTo.of_ended {meanwhile : Nat → σ → σ} {whole first : Outcome × σ}
    (h : SameButPaused view whole first) (hends : ∀ due, whole.1.halt ≠ .suspended due) :
    ComesTo s nodes budget view whole meanwhile first := by
  refine ⟨0, fun more _ => ?_⟩
  rw [resumed_of_ended more meanwhile (h.halt ▸ hends)]
  exact h

/-- A step more at the beginning of both. -/
theorem ComesTo.cons {meanwhile : Nat → σ → σ} {whole first : Outcome × σ}
    (h : ComesTo s nodes budget view whole meanwhile first) {step step' : Step}
    (hstep : step.SameButPaused step') :
    ComesTo s nodes budget view (whole.1.cons step, whole.2) meanwhile
      (first.1.cons step', first.2) := by
  obtain ⟨pauses, hpauses⟩ := h
  refine ⟨pauses, fun more hmore => ?_⟩
  rw [resumed_cons]
  exact (hpauses more hmore).cons hstep

/-- A pause at the beginning of the series, which is gone on with with its whole budget. -/
theorem ComesTo.paused {meanwhile : Nat → σ → σ} {whole : Outcome × σ} {after : σ} {due : Instant}
    (h : ComesTo s nodes budget view whole (fun i => meanwhile (i + 1))
      (drive s nodes budget state (meanwhile 0 after))) {step step' : Step}
    (hstep : step.SameButPaused step') :
    ComesTo s nodes budget view (whole.1.cons step, whole.2) meanwhile
      (⟨state, [step'], .suspended due⟩, after) := by
  obtain ⟨pauses, hpauses⟩ := h
  refine ⟨pauses + 1, fun more hmore => ?_⟩
  obtain ⟨more, rfl⟩ : ∃ m, more = m + 1 := ⟨more - 1, by omega⟩
  rw [resumed_of_suspended more meanwhile rfl]
  exact (hpauses more (Nat.le_of_succ_le_succ hmore)).cons hstep

/-- A drive that never stops has the same end as a drive with at least as much of its
budget left that stops at every delay and is gone on with. -/
theorem resumed_of_drive (hb : Blind s view) {left left' : Nat} (hleft : left ≤ left')
    (hbudget : left ≤ budget) {meanwhile : Nat → σ → σ}
    (hm : ∀ i world, view (meanwhile i world) = view world) (hw : view world' = view world)
    (hrange : ∀ pauses, ∀ step ∈ (resumed (s.withDelays .suspend) nodes budget pauses meanwhile
      (drive (s.withDelays .suspend) nodes left' state world')).1.steps, step.refused = false)
    (hend : (drive (s.withDelays .record) nodes left state world).1.halt ≠ .budgetSpent) :
    ComesTo (s.withDelays .suspend) nodes budget view
      (drive (s.withDelays .record) nodes left state world) meanwhile
      (drive (s.withDelays .suspend) nodes left' state world') := by
  induction left generalizing left' meanwhile state world world' with
  | zero =>
      by_cases hempty : state.current = ""
      · rw [drive_of_empty _ nodes 0 world hempty, drive_of_empty _ nodes left' world' hempty]
        exact ComesTo.of_ended ⟨rfl, rfl, .nil, hw⟩ (by simp)
      · rw [drive_zero _ nodes world hempty] at hend
        exact absurd rfl hend
  | succ left ih =>
      obtain ⟨left', rfl⟩ : ∃ m, left' = m + 1 := ⟨left' - 1, by omega⟩
      by_cases hempty : state.current = ""
      · rw [drive_of_empty _ nodes _ world hempty, drive_of_empty _ nodes _ world' hempty]
        exact ComesTo.of_ended ⟨rfl, rfl, .nil, hw⟩ (by simp)
      cases hn : find? nodes state.current with
      | none =>
          rw [drive_of_missing _ nodes left world hempty hn,
            drive_of_missing _ nodes left' world' hempty hn]
          exact ComesTo.of_ended ⟨rfl, rfl, .nil, hw⟩ (by simp)
      | some n =>
          rw [drive_succ _ nodes left world hempty hn] at hend ⊢
          rw [drive_succ _ nodes left' world' hempty hn] at hrange ⊢
          have hone := advance_alike hb n state hw
          revert hend hrange hone
          generalize advance (s.withDelays .record) n state world = whole
          generalize advance (s.withDelays .suspend) n state world' = part
          obtain ⟨⟨step, next, halt⟩, after⟩ := whole
          obtain ⟨⟨step', next', halt'⟩, after'⟩ := part
          intro hrange hend hone
          rcases hone with hrefused | ⟨hstep, rfl, hview, ⟨rfl, hends⟩ | ⟨rfl, due, rfl⟩⟩
          · -- the step of a delay that is refused is there before any pause
            have hmem := hrange 0 step'
            rw [hrefused] at hmem
            cases halt' with
            | none => simp [resumed, Outcome.cons] at hmem
            | some halt => simp [resumed] at hmem
          · cases halt' with
            | some halt =>
                exact ComesTo.of_ended ⟨rfl, rfl, .cons hstep .nil, hview⟩
                  (fun due => by simpa using hends due)
            | none =>
                simp only [resumed_cons] at hrange hend
                have hrest := ih (Nat.le_of_succ_le_succ hleft) (Nat.le_of_succ_le hbudget) hm hview
                  (fun pauses st hst => hrange pauses st (List.mem_cons_of_mem _ hst)) hend
                exact hrest.cons hstep
          · have hrest := ih (Nat.le_of_succ_le hbudget) (Nat.le_of_succ_le hbudget)
              (fun i world => hm (i + 1) world) ((hm 0 after').trans hview)
              (fun pauses st hst => hrange (pauses + 1) st (by
                rw [resumed_of_suspended pauses meanwhile rfl]
                exact List.mem_cons_of_mem _ hst)) hend
            exact hrest.paused hstep

/-- A series of drives makes no other steps than one that came to an end. -/
theorem mem_steps_of_ended {pauses : Nat} {meanwhile : Nat → σ → σ} {first : Outcome × σ}
    (hends : ∀ due, (resumed s nodes budget pauses meanwhile first).1.halt ≠ .suspended due)
    (fewer : Nat) {step : Step}
    (hstep : step ∈ (resumed s nodes budget fewer meanwhile first).1.steps) :
    step ∈ (resumed s nodes budget pauses meanwhile first).1.steps := by
  induction pauses generalizing fewer meanwhile first with
  | zero =>
      have hfirst : ∀ due, first.1.halt ≠ .suspended due := hends
      rw [resumed_of_ended fewer meanwhile hfirst] at hstep
      exact hstep
  | succ pauses ih =>
      by_cases h : ∃ due, first.1.halt = .suspended due
      · obtain ⟨due, hdue⟩ := h
        rw [resumed_of_suspended pauses meanwhile hdue] at hends ⊢
        cases fewer with
        | zero => exact List.mem_append_left _ hstep
        | succ fewer =>
            rw [resumed_of_suspended fewer meanwhile hdue] at hstep
            rcases List.mem_append.mp hstep with hstep | hstep
            · exact List.mem_append_left _ hstep
            · exact List.mem_append_right _ (ih hends fewer hstep)
      · rw [not_exists] at h
        rw [resumed_of_ended fewer meanwhile h] at hstep
        rw [resumed_of_ended _ meanwhile h]
        exact hstep

/-- Suspending does not change what a run does. If a drive that goes on at once at
every delay ends before its budget is spent, then the series of drives that stop at
every delay, each with that budget and from the state the one before left, comes to
the same end in the same state, after some number of pauses, and then is gone on
with no more. Its steps are the same, but for their times and the delays, which are
waiting instead of done. The handlers must not observe the clock, and no delay that
the series visits may lead out of the range of instants. -/
theorem suspending_changes_nothing (s : Surroundings σ) (nodes : List Node) (state : State)
    (world : σ) (meanwhile : Nat → σ → σ) (view : σ → τ) (hb : Blind s view)
    (hm : ∀ i world, view (meanwhile i world) = view world)
    (hrange : ∀ pauses, ∀ step ∈
      (driveAgain (s.withDelays .suspend) nodes pauses meanwhile state world).1.steps,
      step.refused = false)
    (hend : (drive (s.withDelays .record) nodes s.settings.maxSteps state world).1.halt
      ≠ .budgetSpent) :
    ∃ pauses, ∀ more, pauses ≤ more →
      SameButPaused view (drive (s.withDelays .record) nodes s.settings.maxSteps state world)
        (driveAgain (s.withDelays .suspend) nodes more meanwhile state world) :=
  resumed_of_drive hb (Nat.le_refl _) (Nat.le_refl _) hm rfl hrange hend

-- ================================================== a loop with a delay

/-- A clock that goes on by a second with each reading, and a handler that counts
its calls. The world is what the clock shows next, and the count. -/
def Surroundings.counting : Surroundings (Nat × Nat) where
  registry := Registry.empty.register .log fun _ context world =>
    (⟨.ok (.int world.2), context, 0⟩, (world.1, world.2 + 1))
  now world := (⟨world.1, 0⟩, (world.1 + 1, world.2))
  settings := EngineSettings.standard

/-- Waits a minute for each item and tells of it. -/
def minuteEach : List Node :=
  [(Node.loopOver "each" "items" "item" "wait").withNext "end",
    (Node.delay "wait" 60).withNext "tell",
    (Node.action "tell" "log" .null).withNext "each",
    .finish "end"]

/-- At the loop, with two items. -/
def atEach : State := ⟨"each", [("items", .array [.null, .bool true])], []⟩

/-- A minute goes by while a run is parked. -/
def aMinute (_ : Nat) (world : Nat × Nat) : Nat × Nat := (world.1 + 60, world.2)

/-- The handler that counts does not observe the clock. -/
theorem blind_counting : Blind Surroundings.counting Prod.snd where
  clock _ := rfl
  handlers {kind h} hk config context world world' hw := by
    unfold Surroundings.counting Registry.register at hk
    simp only at hk
    split at hk
    next =>
      injection hk with hk
      simp only [← hk, hw, and_self]
    next => cases hk

/-- The loop waits twice, and has then come as far as without waiting. -/
theorem suspending_loop :
    ∃ pauses, ∀ more, pauses ≤ more →
      SameButPaused Prod.snd
        (drive (Surroundings.counting.withDelays .record) minuteEach 100 atEach (0, 0))
        (driveAgain (Surroundings.counting.withDelays .suspend) minuteEach more aMinute atEach
          (0, 0)) := by
  have hended : (driveAgain (Surroundings.counting.withDelays .suspend) minuteEach 2 aMinute
      atEach (0, 0)).1.halt = .completed := by decide +kernel
  have hrange : ∀ step ∈ (driveAgain (Surroundings.counting.withDelays .suspend) minuteEach 2
      aMinute atEach (0, 0)).1.steps, step.refused = false := by decide +kernel
  refine suspending_changes_nothing Surroundings.counting minuteEach atEach (0, 0) aMinute Prod.snd
    blind_counting (fun _ _ => rfl) ?_ ?_
  · intro pauses step hstep
    exact hrange step (mem_steps_of_ended
      (fun due hdue => nomatch hended.symm.trans hdue) pauses hstep)
  · decide +kernel

end Graph

end DurableWorkflow
