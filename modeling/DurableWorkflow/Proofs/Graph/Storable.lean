/-
What a drive leaves behind can be stored and read back: its context, its cursors and
its steps. This asks the same of what the drive begins with and of the nodes, that
clocks show possible instants, and that handlers are tame: given what can be stored
they answer with what can be stored, nested less deeply than the reader follows.

The invariant is `State.Storable`. One visit keeps it and makes a step that can be
stored (`visit_storable`); so does a whole drive, by induction on its budget
(`drive_storable`).
-/
import DurableWorkflow.Proofs.Graph.Delay
import DurableWorkflow.Proofs.Store.Columns

namespace DurableWorkflow

open Json (maxDepth)
open Time (Instant)

-- ============================================================ values

/-- A value that is no list, or a list whose items can be counted in 64 bits. -/
def Value.short : Value → Prop
  | .array items => items.length < 0x10000000000000000
  | _ => True

/-- A value that is read back where it is written at some depth. -/
structure Value.Storable (depth : Nat) (v : Value) : Prop where
  fits : v.Every Value.fits
  exact : v.Every Value.exact
  short : v.Every Value.short
  levels : depth + v.levels ≤ maxDepth

/-- A map whose values are read back. -/
structure Dict.Storable (depth : Nat) (m : Dict Value) : Prop where
  sorted : m.Sorted
  values : ∀ e ∈ m, e.2.Storable depth

/-- A step that is read back from the list of all steps. -/
structure Step.Storable (t : Step) : Prop where
  bounded : t.Bounded 2
  exact : t.Exact

variable {depth : Nat} {v : Value} {m : Dict Value} {k : String}

theorem Dict.Storable.bounded (hm : m.Storable depth) : Json.Bounded depth m where
  sorted := hm.sorted
  fits e he := (hm.values e he).fits
  levels e he := (hm.values e he).levels

theorem Dict.Storable.exact (hm : m.Storable depth) : ∀ e ∈ m, e.2.Every Value.exact :=
  fun e he => (hm.values e he).exact

theorem Dict.Storable.insert (hm : m.Storable depth) (k : String) (hv : v.Storable depth) :
    Dict.Storable depth (m.insert k v) where
  sorted := hm.sorted.insert k v
  values := Dict.of_insert (p := fun e : String × Value => e.2.Storable depth) hm.values hv

theorem Dict.Storable.find? (hm : m.Storable depth) (h : m.find? k = some v) : v.Storable depth :=
  hm.values (k, v) (Dict.mem_of_find? h)

/-- What is written less deeply is read back as well. -/
theorem Value.Storable.mono {less : Nat} (hv : v.Storable depth) (h : less ≤ depth) :
    v.Storable less :=
  ⟨hv.fits, hv.exact, hv.short, Nat.le_trans (Nat.add_le_add_right h _) hv.levels⟩

theorem Value.storable_bool (b : Bool) (h : depth ≤ maxDepth) : (Value.bool b).Storable depth :=
  ⟨trivial, trivial, trivial, h⟩

theorem Value.storable_string (s : String) (h : depth ≤ maxDepth) :
    (Value.string s).Storable depth :=
  ⟨trivial, trivial, trivial, h⟩

/-- The items of a list are read back one level further in, and are fewer than 64 bits can
count. -/
theorem Value.Storable.items {items : List Value} (h : (Value.array items).Storable depth) :
    (∀ v ∈ items, v.Storable (depth + 1)) ∧ items.length < 0x10000000000000000 := by
  obtain ⟨hfits, hexact, hshort, hlevels⟩ := h
  rw [Value.levels] at hlevels
  refine ⟨fun v hv => ⟨Value.everyItem_iff.mp hfits.2 v hv, Value.everyItem_iff.mp hexact.2 v hv,
    Value.everyItem_iff.mp hshort.2 v hv, ?_⟩, hshort.1⟩
  have := Value.itemLevels_le_iff.mp (Nat.le_refl _) v hv
  omega

/-- The members of an object are read back one level further in. -/
theorem Value.Storable.members {members : Dict Value}
    (h : (Value.object members).Storable depth) : members.Storable (depth + 1) := by
  obtain ⟨hfits, hexact, hshort, hlevels⟩ := h
  rw [Value.levels] at hlevels
  refine ⟨hfits.1, fun e he => ⟨Value.everyMember_iff.mp hfits.2 e he,
    Value.everyMember_iff.mp hexact.2 e he, Value.everyMember_iff.mp hshort.2 e he, ?_⟩⟩
  have := Value.memberLevels_le_iff.mp (Nat.le_refl _) e he
  omega

theorem Dict.storable_nil : Dict.Storable depth [] :=
  ⟨Dict.sorted_nil, fun _ h => (List.not_mem_nil h).elim⟩

-- ========================================================== handlers

variable {σ : Type}

/-- A handler that answers with what can be stored, if it is given such: its result two
levels inside of the steps of a run, and the values of the context one level inside of
it. -/
def Handler.Tame (h : Handler σ) : Prop :=
  ∀ config context world, Dict.Storable 1 config → Dict.Storable 1 context →
    ∀ v, (h config context world).1.outcome = .ok v →
      v.Storable 2 ∧ Dict.Storable 1 (h config context world).1.context

/-- Handlers that are all tame. -/
def Registry.Tame (r : Registry σ) : Prop := ∀ kind h, r kind = some h → Handler.Tame h

/-- A kind is asked for by its name. -/
theorem ActionKind.name_of_ofText {text : String} {kind : ActionKind} (h : ofText text = .ok kind) :
    text = kind.name := by
  unfold ofText at h
  split at h
  next hfound =>
    obtain rfl := Except.ok.inj h
    exact (name_of_ofName? hfound).symm
  next => cases h

/-- An action that succeeds was performed by the handler of its kind, which was in time. -/
theorem Registry.execute_ok {r : Registry σ} {name : String} {config : Dict Value}
    {context context' : Context} {seconds : UInt64} {world world' : σ}
    (h : r.execute name config context seconds world = (.ok v, context', world')) :
    ∃ kind handler, name = kind.name ∧ r kind = some handler ∧
      (handler config context world).1.outcome = .ok v ∧
      (handler config context world).1.context = context' := by
  unfold execute at h
  split at h
  next => cases (Prod.mk.inj h).1
  next kind hkind =>
    split at h
    next => cases (Prod.mk.inj h).1
    next handler hhandler =>
      obtain ⟨hsettle, hrest⟩ := Prod.mk.inj h
      unfold settle at hsettle
      split at hsettle
      next => cases hsettle
      next =>
        exact ⟨kind, handler, ActionKind.name_of_ofText hkind, hhandler, hsettle,
          (Prod.mk.inj hrest).1⟩

/-- An action that succeeds has a result that can be stored. -/
theorem Registry.Tame.execute {r : Registry σ} (hr : r.Tame) {name : String}
    {config context context' : Dict Value} {seconds : UInt64} {world world' : σ}
    (hconfig : config.Storable 1) (hcontext : context.Storable 1)
    (h : r.execute name config context seconds world = (.ok v, context', world')) :
    v.Storable 2 ∧ context'.Storable 1 := by
  obtain ⟨kind, handler, -, hhandler, houtcome, rfl⟩ := Registry.execute_ok h
  exact hr kind handler hhandler config context world hconfig hcontext v houtcome

namespace Graph

-- ============================================================ visits

/-- Cursors that are read back. -/
structure CursorsFit (c : Cursors) : Prop where
  sorted : Dict.Sorted c
  fit : ∀ e ∈ c, e.2 < 0x10000000000000000

/-- A state that is read back. -/
structure State.Storable (state : State) : Prop where
  context : Dict.Storable 1 state.context
  cursors : CursorsFit state.cursors

/-- A clock that shows possible instants. -/
def Surroundings.Timely (s : Surroundings σ) : Prop :=
  ∀ world, (s.now world).1.Valid ∧ Instant.inRange (s.now world).1.seconds = true

/-- A visit that leaves behind what can be stored. -/
structure Visit.Storable (v : Visit σ) : Prop where
  step : v.step.Storable
  arrival : ∀ a, v.outcome = .ok a → Dict.Storable 1 a.context ∧ CursorsFit a.cursors ∧
    ∀ next t, a.move = .suspend next t → t.Valid

variable {s : Surroundings σ} {n : Node} {state : State} {step : Step}

/-- A step without a result can be stored. -/
theorem storable_new (id : String) (type : NodeType) {t : Instant} (ht : t.Valid)
    (hrange : Instant.inRange t.seconds = true) : (Step.new id type t).Storable :=
  ⟨⟨ht, hrange, fun _ h => (Option.not_mem_none _ h).elim,
    fun _ h => (Option.not_mem_none _ h).elim, fun _ h => (Option.not_mem_none _ h).elim⟩,
    fun _ h => (Option.not_mem_none _ h).elim⟩

/-- A result that can be stored may be set. -/
theorem storable_result (h : step.Storable) {v : Value} (hv : v.Storable 2)
    (attempts : Option UInt32) :
    Step.Storable { step with attempts := attempts, result := some v } := by
  obtain ⟨⟨hvalid, hrange, -, -, hiteration⟩, -⟩ := h
  refine ⟨⟨hvalid, hrange, ?_, ?_, hiteration⟩, ?_⟩
  · intro w hw
    obtain rfl := Option.some.inj hw
    exact hv.fits
  · intro w hw
    obtain rfl := Option.some.inj hw
    exact hv.levels
  · intro w hw
    obtain rfl := Option.some.inj hw
    exact hv.exact

/-- Going on from a state as it is. -/
theorem storable_arrive {world : σ} {move : Move} (hstate : state.Storable) (hstep : step.Storable)
    (hmove : ∀ next t, move = .suspend next t → t.Valid) :
    Visit.Storable ⟨step, .ok ⟨move, state.context, state.cursors⟩, world⟩ where
  step := hstep
  arrival a ha := by
    obtain rfl := Except.ok.inj ha
    exact ⟨hstate.context, hstate.cursors, hmove⟩

/-- A visit that fails. -/
theorem storable_failed {world : σ} {e : Failure} (hstep : step.Storable) :
    Visit.Storable ⟨step, .error e, world⟩ :=
  ⟨hstep, fun _ ha => by cases ha⟩

/-- The number of attempts may be set. -/
theorem storable_attempts (h : step.Storable) (attempts : Option UInt32) :
    Step.Storable { step with attempts := attempts } :=
  ⟨⟨h.bounded.1, h.bounded.2, h.bounded.3, h.bounded.4, h.bounded.5⟩, h.exact⟩

/-- However often an action is performed, it leaves behind what can be stored. -/
theorem perform_storable (hr : s.registry.Tame) {spec : ActionSpec}
    (hconfig : Dict.Storable 1 spec.config) (hstate : state.Storable) (hstep : step.Storable)
    (left : Nat) (attempt : UInt32) (world : σ) :
    (perform s n spec state step left attempt world).Storable := by
  have hok : ∀ {attempt : UInt32} {world world' : σ} {v : Value} {context : Context},
      s.registry.execute spec.kind spec.config state.context n.timeoutSeconds world
        = (.ok v, context, world') →
      Visit.Storable ⟨{ step with attempts := some (attempt + 1), result := some v },
        .ok ⟨.goto n.next, context.insert lastResultKey v, state.cursors⟩, world'⟩ := by
    intro attempt world world' v context h
    obtain ⟨hv, hcontext⟩ := hr.execute hconfig hstate.context h
    refine ⟨storable_result hstep hv _, fun a ha => ?_⟩
    obtain rfl := Except.ok.inj ha
    exact ⟨hcontext.insert _ (hv.mono (by decide)), hstate.cursors, fun _ _ h => by cases h⟩
  induction left generalizing attempt world with
  | zero =>
      unfold perform
      split
      next hexec =>
        split
        next => exact hok hexec
        next => exact storable_failed (storable_attempts hstep _)
  | succ left ih =>
      unfold perform
      split
      next hexec =>
        split
        next => exact hok hexec
        next =>
          simp only
          split
          next => exact ih _ _
          next => exact storable_failed (storable_attempts hstep _)

/-- A delay leaves the state as it is, and the time to go on is a possible instant. -/
theorem wait_storable (hs : s.Timely) (spec : DelaySpec) (hstate : state.Storable)
    (hstep : step.Storable) (world : σ) : (wait s n spec state step world).Storable := by
  have hdelay : Step.Storable { step with delay := some spec.seconds } :=
    ⟨⟨hstep.bounded.1, hstep.bounded.2, hstep.bounded.3, hstep.bounded.4, hstep.bounded.5⟩,
      hstep.exact⟩
  unfold wait
  simp only
  split
  next => exact storable_arrive hstate hdelay fun _ _ h => by cases h
  next hgo =>
    have hpos : spec.seconds ≠ 0 := fun h => hgo (.inr h)
    split
    next => exact storable_failed hdelay
    next hlong =>
      split
      next t ht =>
        refine storable_arrive hstate hdelay fun _ _ h => ?_
        obtain ⟨-, rfl⟩ := Move.suspend.inj h
        refine valid_delayEnd (hs world).1 hpos ?_
        unfold delayEnd
        rw [if_neg hlong, ht]
      next => exact storable_failed hdelay

/-- The item that a loop goes on with is one of a list of the context, and there may be
a next one. -/
theorem loopItem_storable {spec : LoopSpec} {index : Nat} {v : Value} (hstate : state.Storable)
    (h : loopItem spec n state = .ok (some (index, v))) :
    v.Storable 1 ∧ index + 1 < 0x10000000000000000 := by
  unfold loopItem at h
  split at h
  next => cases h
  next items hfound =>
    obtain ⟨w, hw, heq⟩ := Option.map_eq_some_iff.mp (Except.ok.inj h)
    obtain ⟨rfl, rfl⟩ := Prod.mk.inj heq
    obtain ⟨hlt, hget⟩ := List.getElem?_eq_some_iff.mp hw
    cases hlist : Dict.find? state.context spec.listName with
    | none =>
        rw [hlist] at hfound
        cases hfound
    | some list =>
        rw [hlist] at hfound
        obtain rfl : list = .array items := hfound
        obtain ⟨hvalues, hlength⟩ := (hstate.context.find? hlist).items
        exact ⟨(hvalues _ (hget ▸ List.getElem_mem hlt)).mono (by decide), by omega⟩
  next => cases h

/-- A loop goes on with an item, or past its end. -/
theorem iterate_storable (spec : LoopSpec) (hstate : state.Storable) (hstep : step.Storable)
    (world : σ) : (iterate n spec state step world).Storable := by
  unfold iterate
  split
  next => exact storable_failed hstep
  next =>
    refine ⟨hstep, fun a ha => ?_⟩
    obtain rfl := Except.ok.inj ha
    refine ⟨hstate.context, ⟨hstate.cursors.sorted.erase _, fun e he => ?_⟩,
      fun _ _ h => by cases h⟩
    exact hstate.cursors.fit e (Dict.mem_erase he)
  next index v hitem =>
    obtain ⟨hv, hindex⟩ := loopItem_storable hstate hitem
    refine ⟨⟨⟨hstep.bounded.1, hstep.bounded.2, hstep.bounded.3, hstep.bounded.4, ?_⟩,
      hstep.exact⟩, fun a ha => ?_⟩
    · intro i hi
      obtain rfl := Option.some.inj hi
      omega
    · obtain rfl := Except.ok.inj ha
      refine ⟨hstate.context.insert _ hv, ⟨hstate.cursors.sorted.insert _ _, ?_⟩,
        fun _ _ h => by cases h⟩
      exact Dict.of_insert (p := fun e : String × Nat => e.2 < 0x10000000000000000)
        hstate.cursors.fit hindex

/-- The configuration of an action is that of its node, or there is none. -/
theorem config_of_actionSpec {spec : ActionSpec} (h : n.actionSpec = .ok spec) :
    spec.config = [] ∨ n.config = .object spec.config := by
  unfold Node.actionSpec at h
  simp only at h
  split at h
  next =>
    left
    obtain ⟨config, hconfig, h⟩ := Decoder.bind_eq_ok.mp h
    obtain rfl := Except.ok.inj hconfig
    split at h
    next => rw [← Except.ok.inj h]
    next => rw [← Except.ok.inj h]
    next => cases h
  next members hmembers =>
    right
    obtain ⟨config, hconfig, h⟩ := Decoder.bind_eq_ok.mp h
    obtain rfl := Except.ok.inj hconfig
    rw [hmembers]
    split at h
    next => rw [← Except.ok.inj h]
    next => rw [← Except.ok.inj h]
    next => cases h
  next => cases h

/-- The configuration of an action can be stored if that of its node can. -/
theorem config_of_behaviour {spec : ActionSpec} (hn : n.config.Storable 0)
    (h : n.behaviour = .ok (.action spec)) : Dict.Storable 1 spec.config := by
  unfold Node.behaviour at h
  split at h
  next => cases h
  next => obtain ⟨_, -, h⟩ := Decoder.bind_eq_ok.mp h; cases h
  next =>
    obtain ⟨spec', hspec, h⟩ := Decoder.bind_eq_ok.mp h
    obtain rfl := Behaviour.action.inj (Except.ok.inj h)
    rcases config_of_actionSpec hspec with hnone | hsame
    · rw [hnone]
      exact Dict.storable_nil
    · rw [hsame] at hn
      exact hn.members
  next => obtain ⟨_, -, h⟩ := Decoder.bind_eq_ok.mp h; cases h
  next => obtain ⟨_, -, h⟩ := Decoder.bind_eq_ok.mp h; cases h
  next => obtain ⟨_, -, h⟩ := Decoder.bind_eq_ok.mp h; cases h
  next => cases h
  next => cases h

/-- A visit leaves behind what can be stored. -/
theorem visit_storable (hs : s.Timely) (hr : s.registry.Tame) (hn : n.config.Storable 0)
    (hstate : state.Storable) (hstep : step.Storable) (world : σ) :
    (visit s n state step world).Storable := by
  unfold visit
  simp only
  split
  next => exact storable_failed hstep
  next => exact storable_arrive hstate hstep fun _ _ h => by cases h
  next => exact storable_arrive hstate hstep fun _ _ h => by cases h
  next =>
    exact storable_arrive hstate (storable_result hstep (Value.storable_bool _ (by decide)) _)
      fun _ _ h => by cases h
  next spec hspec =>
    exact perform_storable hr (config_of_behaviour hn hspec) hstate hstep _ _ _
  next spec _ => exact wait_storable hs spec hstate hstep world
  next spec _ =>
    refine storable_arrive hstate ?_ fun _ _ h => by cases h
    exact ⟨⟨hstep.bounded.1, hstep.bounded.2, hstep.bounded.3, hstep.bounded.4, hstep.bounded.5⟩,
      hstep.exact⟩
  next spec _ => exact iterate_storable spec hstate hstep world
  next =>
    exact storable_arrive hstate (storable_result hstep (Value.storable_string _ (by decide)) _)
      fun _ _ h => by cases h

-- ============================================================ drives

/-- An end of a drive that can be stored: a run that is suspended goes on at a possible
instant. -/
structure Outcome.Storable (o : Outcome) : Prop where
  state : o.state.Storable
  steps : ∀ t ∈ o.steps, t.Storable
  halt : ∀ t, o.halt = .suspended t → t.Valid

/-- What a visit means for a drive can be stored. -/
theorem settle_storable {v : Visit σ} (hv : v.Storable) (hstate : state.Storable) :
    (settle n state v).1.Storable ∧ (settle n state v).2.1.Storable ∧
      ∀ t, (settle n state v).2.2 = some (.suspended t) → t.Valid := by
  have hmarked : ∀ (status : StepStatus) (error : Option String),
      Step.Storable { v.step with status := status, error := error } := fun _ _ =>
    ⟨⟨hv.step.bounded.1, hv.step.bounded.2, hv.step.bounded.3, hv.step.bounded.4,
      hv.step.bounded.5⟩, hv.step.exact⟩
  unfold settle
  split
  next a ha =>
    obtain ⟨hcontext, hcursors, hmove⟩ := hv.arrival a ha
    split
    next => exact ⟨hv.step, ⟨hcontext, hcursors⟩, fun _ h => by cases h⟩
    next => exact ⟨hv.step, ⟨hcontext, hcursors⟩, fun _ h => by cases h⟩
    next next t heq =>
      refine ⟨hmarked _ _, ⟨hcontext, hcursors⟩, fun t' h => ?_⟩
      obtain rfl := Halt.suspended.inj (Option.some.inj h)
      exact hmove next t heq
  next =>
    simp only
    split
    next => exact ⟨hmarked _ _, ⟨hstate.context, hstate.cursors⟩, fun _ h => by cases h⟩
    next => exact ⟨hmarked _ _, hstate, fun _ h => by cases h⟩

/-- What a drive leaves behind can be stored. -/
theorem drive_storable (hs : s.Timely) (hr : s.registry.Tame) {nodes : List Node}
    (hnodes : ∀ n ∈ nodes, n.config.Storable 0) (budget : Nat) (hstate : state.Storable)
    (world : σ) : (drive s nodes budget state world).1.Storable := by
  induction budget generalizing state world with
  | zero =>
      refine ⟨hstate, fun _ h => (List.not_mem_nil h).elim, fun t h => ?_⟩
      unfold drive at h
      simp only at h
      split at h <;> cases h
  | succ budget ih =>
      by_cases hcurrent : state.current = ""
      · rw [drive_of_empty s nodes (budget + 1) world hcurrent]
        exact ⟨hstate, fun _ h => (List.not_mem_nil h).elim, fun _ h => by cases h⟩
      cases hfind : find? nodes state.current with
      | none =>
          rw [drive_of_missing s nodes budget world hcurrent hfind]
          exact ⟨hstate, fun _ h => (List.not_mem_nil h).elim, fun _ h => by cases h⟩
      | some n =>
          have hn : n.config.Storable 0 :=
            hnodes n (mem_of_find? hfind)
          obtain ⟨hvalid, hrange⟩ := hs world
          have hvisit := visit_storable hs hr hn hstate (storable_new n.id n.type hvalid hrange)
            (s.now world).2
          obtain ⟨hstep, hafter, hhalt⟩ := settle_storable (n := n) hvisit hstate
          rw [drive_succ s nodes budget world hcurrent hfind]
          unfold advance
          simp only
          generalize settle n state _ = settled at hstep hafter hhalt
          obtain ⟨step, state', halt⟩ := settled
          cases halt with
          | some halt =>
              refine ⟨hafter, fun t ht => ?_, fun t h => hhalt t (congrArg _ h)⟩
              rw [List.mem_singleton.mp ht]
              exact hstep
          | none =>
              obtain ⟨hend, hsteps, hwhen⟩ := ih hafter _
              exact ⟨hend, List.forall_mem_cons.mpr ⟨hstep, hsteps⟩, hwhen⟩

end Graph

end DurableWorkflow
