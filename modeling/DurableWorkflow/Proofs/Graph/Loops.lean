/-
Loops count exactly. A loop keeps one number in the state of a run, its cursor, and this
number is all that it has to tell one item from the next across visits to other nodes,
across other loops, and across drives.

# What is counted

The number is compared with the record. `rounds` counts, in the steps of a run, how often
a loop has gone to its body since it was over the last time; it reads nothing but the
steps. That a state is `Counted` by the steps before it says that the cursors are these
numbers, for all loops at once, and that a loop with no rounds has no cursor. One visit
keeps this (`Counted.visit`): it changes the cursor of no loop but the one it is at. So
nested loops need no argument of their own, and neither do loops whose bodies overlap.

# Passes

Between two ends of a loop lies a pass through its list. A visit only sees the number
and the list of that moment, so that the items come in order, each once, needs that the
list has been the same at each visit. Then the rounds so far are always an initial piece
of the list, and the pass is over when the piece is the whole (`roundsMade_of_pass`).
-/
import DurableWorkflow.Proofs.Graph.Legs
import DurableWorkflow.Proofs.Graph.Pauses

namespace DurableWorkflow

open Time (Instant)

-- ============================================================= rounds

/-- Whether a loop has gone to its body with this step. -/
def Step.enters (loop : String) (t : Step) : Bool :=
  t.node = loop && t.type = .loop && t.status = .success && t.iteration.isSome

/-- Whether a loop was over with this step. -/
def Step.leaves (loop : String) (t : Step) : Bool :=
  t.node = loop && t.type = .loop && t.status = .success && t.iteration.isNone

/-- Such steps are at the loop. -/
theorem Step.node_of_enters {loop : String} {t : Step} (h : t.enters loop = true) :
    t.node = loop := by
  unfold enters at h
  simp only [Bool.and_eq_true, decide_eq_true_eq] at h
  exact h.1.1.1

theorem Step.node_of_leaves {loop : String} {t : Step} (h : t.leaves loop = true) :
    t.node = loop := by
  unfold leaves at h
  simp only [Bool.and_eq_true, decide_eq_true_eq] at h
  exact h.1.1.1

namespace Graph

/-- How often a loop has gone to its body since it was over the last time. -/
def rounds (loop : String) (steps : List Step) : Nat :=
  (steps.reverse.takeWhile fun t => !t.leaves loop).countP fun t => t.enters loop

/-- One step more. -/
theorem rounds_concat (loop : String) (steps : List Step) (t : Step) :
    rounds loop (steps ++ [t])
      = if t.leaves loop then 0 else if t.enters loop then rounds loop steps + 1
        else rounds loop steps := by
  unfold rounds
  rw [List.reverse_append, List.reverse_singleton, List.singleton_append, List.takeWhile_cons]
  by_cases hleaves : t.leaves loop = true
  · simp [hleaves]
  · rw [Bool.not_eq_true] at hleaves
    simp only [hleaves, Bool.not_false, if_true, List.countP_cons, Bool.false_eq_true, if_false]
    by_cases henters : t.enters loop = true
    · simp [henters]
    · simp [henters]

-- ==================================================== the next item

/-- Whether there is nothing left of what a loop goes through, from an index on: it is
missing, it is null, or it is a list that is no longer. -/
def Exhausted (list : Option Value) (index : Nat) : Prop :=
  list = none ∨ list = some .null ∨ ∃ items, list = some (.array items) ∧ items.length ≤ index

variable {spec : LoopSpec} {n : Node} {state : State}

/-- There is a next item if there is a list that is long enough. -/
theorem loopItem_eq_some {index : Nat} {v : Value} :
    loopItem spec n state = .ok (some (index, v)) ↔
      index = (Dict.find? state.cursors n.id).getD 0 ∧
      ∃ items, Dict.find? state.context spec.listName = some (.array items) ∧
        items[index]? = some v := by
  unfold loopItem
  cases hlist : Dict.find? state.context spec.listName with
  | none => simp
  | some list =>
      cases list with
      | array items =>
          simp only [Option.getD_some, Except.ok.injEq, Option.map_eq_some_iff, Prod.mk.injEq,
            Option.some.injEq, Value.array.injEq]
          constructor
          · rintro ⟨w, hw, rfl, rfl⟩
            exact ⟨rfl, items, rfl, hw⟩
          · rintro ⟨rfl, _, rfl, hv⟩
            exact ⟨v, hv, rfl, rfl⟩
      | _ => simp

/-- A loop is over when nothing is left of its list. -/
theorem loopItem_eq_none :
    loopItem spec n state = .ok none ↔
      Exhausted (Dict.find? state.context spec.listName)
        ((Dict.find? state.cursors n.id).getD 0) := by
  unfold loopItem Exhausted
  cases hlist : Dict.find? state.context spec.listName with
  | none => simp
  | some list =>
      cases list with
      | array items => simp
      | _ => simp

-- ========================================================== one visit

/-- What a visit to a node means for the loops. -/
inductive Round (n : Node) (l : Leg) : Prop
  /-- The node is a loop, and it goes to its body. -/
  | enters {spec : LoopSpec} {index : Nat} {v : Value} (htype : n.type = .loop)
    (hspec : n.spec LoopSpec.shape = .ok spec)
    (hitem : loopItem spec n l.before = .ok (some (index, v)))
    (hstatus : l.step.status = .success) (hiteration : l.step.iteration = some index)
    (hafter : l.after = ⟨loopEntry spec n, Dict.insert l.before.context spec.itemName v,
      Dict.insert l.before.cursors n.id (index + 1)⟩)
  /-- The node is a loop, and it is over. -/
  | leaves {spec : LoopSpec} (htype : n.type = .loop) (hspec : n.spec LoopSpec.shape = .ok spec)
    (hitem : loopItem spec n l.before = .ok none)
    (hstatus : l.step.status = .success) (hiteration : l.step.iteration = none)
    (hafter : l.after = ⟨n.next, l.before.context, Dict.erase l.before.cursors n.id⟩)
  /-- The visit touches no cursor. Of a loop this is so only if the visit fails, and that
  is for want of a list, if the configuration can be read. -/
  | none (hcursors : l.after.cursors = l.before.cursors)
    (hfails : n.type = .loop → l.step.status = .error ∧
      ∀ spec, n.spec LoopSpec.shape = .ok spec → ∃ e, loopItem spec n l.before = .error e)

variable {σ : Type} {s : Surroundings σ} {state' : State} {t : Instant} {step : Step}
  {halt : Option Halt}

/-- A node that behaves in another way than a loop is none. -/
theorem type_ne_loop {b : Behaviour} (h : n.behaviour = .ok b) (hne : ∀ spec, b ≠ .loop spec) :
    n.type ≠ .loop := by
  intro htype
  unfold Node.behaviour at h
  rw [htype] at h
  obtain ⟨spec, -, rfl⟩ := exists_spec h
  exact hne spec rfl

/-- A loop whose configuration can be read fails only for want of a list. -/
theorem Trouble.loopItem {attempts : Option UInt32} {delay : Option UInt64} {e : Failure}
    (h : Trouble s n state attempts delay e) (htype : n.type = .loop)
    (hspec : n.spec LoopSpec.shape = .ok spec) : ∃ e, loopItem spec n state = .error e := by
  have hbehaviour : n.behaviour = .ok (.loop spec) := by
    unfold Node.behaviour
    rw [htype]
    simp only [hspec]
    rfl
  cases h with
  | unreadable h => cases h.symm.trans hbehaviour
  | action h _ => cases h.symm.trans hbehaviour
  | delay h => cases h.symm.trans hbehaviour
  | loop h hitem =>
      cases h.symm.trans hbehaviour
      exact ⟨_, hitem⟩

/-- What each course of a visit means for the loops. -/
theorem Course.round (h : Course s n state t step state' halt) : Round n ⟨state, step, state'⟩ := by
  have hother {b : Behaviour} (h : n.behaviour = .ok b) (hne : ∀ spec, b ≠ .loop spec)
      (hcursors : state'.cursors = state.cursors) : Round n ⟨state, step, state'⟩ :=
    .none hcursors fun htype => absurd htype (type_ne_loop h hne)
  cases h with
  | enters h hitem =>
      obtain ⟨htype, hspec⟩ := Node.behavesAs_of_behaviour h
      exact .enters htype hspec hitem rfl rfl rfl
  | leaves h hitem =>
      obtain ⟨htype, hspec⟩ := Node.behavesAs_of_behaviour h
      exact .leaves htype hspec hitem rfl rfl rfl
  | passes h => rcases h with h | h <;> exact hother h nofun rfl
  | decides h _ => exact hother h nofun rfl
  | acts h _ => exact hother h nofun rfl
  | waits h => exact hother h nofun rfl
  | parks h => exact hother h nofun rfl
  | branches h _ => exact hother h nofun rfl
  | finishes h => exact hother h nofun rfl
  | redirects h _ => exact .none rfl fun htype => ⟨rfl, fun _ => h.loopItem htype⟩
  | fails h _ => exact .none rfl fun htype => ⟨rfl, fun _ => h.loopItem htype⟩

variable {nodes : List Node} {l : Leg} {id : String}

/-- What a leg means for the loops, and the node that it is a visit to. -/
theorem Leg.Made.round (h : l.Made nodes) :
    ∃ n, find? nodes l.step.node = some n ∧ n.id = l.step.node ∧ n.type = l.step.type ∧
      Round n l := by
  obtain ⟨n, -, hn, hid, htype⟩ := h.node
  obtain ⟨_, _, _, _, hcourse⟩ := h.course hn
  exact ⟨n, hn, hid, htype, hcourse.round⟩

/-- The node with an id is a loop, and what its configuration is read as. -/
structure IsLoop (nodes : List Node) (id : String) (n : Node) (spec : LoopSpec) : Prop where
  found : find? nodes id = some n
  isLoop : n.type = .loop
  isRead : n.spec LoopSpec.shape = .ok spec

/-- There is one such node at most, and it is read in one way. -/
theorem IsLoop.unique {m : Node} {spec' : LoopSpec} (h : IsLoop nodes id n spec)
    (h' : IsLoop nodes id m spec') : n = m ∧ spec = spec' := by
  obtain rfl := Option.some.inj (h.found.symm.trans h'.found)
  exact ⟨rfl, Except.ok.inj (h.isRead.symm.trans h'.isRead)⟩

/-- A loop has gone to its body. -/
theorem Leg.Made.of_enters (h : l.Made nodes) (henters : l.step.enters id = true) :
    ∃ n spec index v, IsLoop nodes id n spec ∧ loopItem spec n l.before = .ok (some (index, v)) ∧
      l.step.iteration = some index ∧
      l.after = ⟨loopEntry spec n, Dict.insert l.before.context spec.itemName v,
        Dict.insert l.before.cursors id (index + 1)⟩ := by
  obtain ⟨n, hn, hid, htype, hround⟩ := h.round
  unfold Step.enters at henters
  simp only [Bool.and_eq_true, decide_eq_true_eq] at henters
  obtain ⟨⟨⟨rfl, hloop⟩, hstatus⟩, hsome⟩ := henters
  cases hround with
  | enters hloop hspec hitem _ hiteration hafter =>
      rw [hid] at hafter
      exact ⟨n, _, _, _, ⟨hn, hloop, hspec⟩, hitem, hiteration, hafter⟩
  | leaves _ _ _ _ hiteration _ =>
      rw [hiteration] at hsome
      cases hsome
  | none _ hfails =>
      rw [(hfails (htype.trans hloop)).1] at hstatus
      cases hstatus

/-- A loop was over. -/
theorem Leg.Made.of_leaves (h : l.Made nodes) (hleaves : l.step.leaves id = true) :
    ∃ n spec, IsLoop nodes id n spec ∧ loopItem spec n l.before = .ok none ∧
      l.after = ⟨n.next, l.before.context, Dict.erase l.before.cursors id⟩ := by
  obtain ⟨n, hn, hid, htype, hround⟩ := h.round
  unfold Step.leaves at hleaves
  simp only [Bool.and_eq_true, decide_eq_true_eq] at hleaves
  obtain ⟨⟨⟨rfl, hloop⟩, hstatus⟩, hnone⟩ := hleaves
  cases hround with
  | enters _ _ _ _ hiteration _ =>
      rw [hiteration] at hnone
      cases hnone
  | leaves hloop hspec hitem _ _ hafter =>
      rw [hid] at hafter
      exact ⟨n, _, ⟨hn, hloop, hspec⟩, hitem, hafter⟩
  | none _ hfails =>
      rw [(hfails (htype.trans hloop)).1] at hstatus
      cases hstatus

/-- A visit leaves the cursor of a loop alone that has neither gone to its body nor was
over with it: it was a failure, or a visit to another node. -/
theorem Leg.Made.of_neither (h : l.Made nodes) (henters : ¬ l.step.enters id = true)
    (hleaves : ¬ l.step.leaves id = true) :
    Dict.find? l.after.cursors id = Dict.find? l.before.cursors id := by
  obtain ⟨n, -, hid, htype, hround⟩ := h.round
  cases hround with
  | enters hloop _ _ hstatus hiteration hafter =>
      have hother : n.id ≠ id := by
        intro hsame
        apply henters
        simp [Step.enters, ← hid, ← htype, hsame, hloop, hstatus, hiteration]
      rw [hafter, Dict.find?_insert, if_neg hother]
  | leaves hloop _ _ hstatus hiteration hafter =>
      have hother : n.id ≠ id := by
        intro hsame
        apply hleaves
        simp [Step.leaves, ← hid, ← htype, hsame, hloop, hstatus, hiteration]
      rw [hafter, Dict.find?_erase, if_neg hother]
  | none hcursors _ => rw [hcursors]

-- ============================================================ cursors

/-- The cursors count the rounds in these steps: a loop has one if there were any, and
nothing else has one. -/
structure Counted (nodes : List Node) (steps : List Step) (cursors : Cursors) : Prop where
  count : ∀ id, Dict.find? cursors id
    = if rounds id steps = 0 then none else some (rounds id steps)
  loops : ∀ id, (Dict.find? cursors id).isSome →
    ∃ n, find? nodes id = some n ∧ n.type = .loop

variable {steps : List Step} {cursors : Cursors}

/-- Nothing is counted before the first step. -/
theorem counted_nil (nodes : List Node) : Counted nodes [] [] where
  count _ := rfl
  loops _ h := by cases h

/-- The next index of a loop is the number of its rounds. -/
theorem Counted.next (h : Counted nodes steps cursors) (id : String) :
    (Dict.find? cursors id).getD 0 = rounds id steps := by
  rw [h.count id]
  by_cases hzero : rounds id steps = 0
  · rw [if_pos hzero, hzero]
    rfl
  · rw [if_neg hzero]
    rfl

/-- A loop goes to its body with the item at the number of its rounds. -/
theorem Counted.item_eq_some (h : Counted nodes steps l.before.cursors)
    (hloop : IsLoop nodes id n spec) {index : Nat} {v : Value} :
    loopItem spec n l.before = .ok (some (index, v)) ↔ index = rounds id steps ∧
      ∃ items, Dict.find? l.before.context spec.listName = some (.array items) ∧
        items[index]? = some v := by
  rw [loopItem_eq_some, id_of_find? hloop.found, h.next]

/-- It is over if nothing is left of its list from there on. -/
theorem Counted.item_eq_none (h : Counted nodes steps l.before.cursors)
    (hloop : IsLoop nodes id n spec) :
    loopItem spec n l.before = .ok none ↔
      Exhausted (Dict.find? l.before.context spec.listName) (rounds id steps) := by
  rw [loopItem_eq_none, id_of_find? hloop.found, h.next]

/-- One visit more. It changes no cursor but that of the loop it is at. -/
theorem Counted.visit (h : Counted nodes steps l.before.cursors) (hl : l.Made nodes) :
    Counted nodes (steps ++ [l.step]) l.after.cursors := by
  constructor
  · intro id
    rw [rounds_concat]
    by_cases hleaves : l.step.leaves id = true
    · obtain ⟨_, _, -, -, hafter⟩ := hl.of_leaves hleaves
      rw [if_pos hleaves, hafter, Dict.find?_erase, if_pos rfl]
      rfl
    rw [if_neg hleaves]
    by_cases henters : l.step.enters id = true
    · obtain ⟨n, spec, index, v, hloop, hitem, -, hafter⟩ := hl.of_enters henters
      have hindex : index = rounds id steps := ((h.item_eq_some hloop).mp hitem).1
      rw [if_pos henters, hafter, Dict.find?_insert, if_pos rfl, hindex,
        if_neg (Nat.succ_ne_zero _)]
    · rw [if_neg henters, hl.of_neither henters hleaves]
      exact h.count id
  · intro id hsome
    by_cases hleaves : l.step.leaves id = true
    · obtain ⟨n, _, hloop, -⟩ := hl.of_leaves hleaves
      exact ⟨n, hloop.found, hloop.isLoop⟩
    by_cases henters : l.step.enters id = true
    · obtain ⟨n, _, _, _, hloop, -⟩ := hl.of_enters henters
      exact ⟨n, hloop.found, hloop.isLoop⟩
    · rw [hl.of_neither henters hleaves] at hsome
      exact h.loops id hsome

variable {start final : State} {ls : List Leg}

/-- The cursors count all along a route that begins without cursors. -/
theorem Route.counted (h : Route nodes start ls final) (hstart : start.cursors = []) :
    Counted nodes (ls.map Leg.step) final.cursors := by
  induction h with
  | rest =>
      rw [hstart]
      exact counted_nil nodes
  | go _ hl ih =>
      rw [List.map_append]
      exact ih.visit hl

-- ============================================================= passes

/-- A pass of a loop through its list, in the legs of a run: it begins with the run, or
after the loop was over, and ends when the loop is over the next time. -/
structure IsPass (loop : String) (ls before pass : List Leg) (exit : Leg) : Prop where
  within : ∃ rest, ls = before ++ (pass ++ exit :: rest)
  fresh : ∀ l, before.getLast? = some l → l.step.leaves loop = true
  inside : ∀ l ∈ pass, ¬ l.step.leaves loop = true
  ended : exit.step.leaves loop = true

/-- The elements of a list, each with its index, and the body of a loop: what the rounds
of a pass through the list are to be. -/
def roundsOver (entry : String) (items : List Value) :
    List (Option Nat × Option Value × String) :=
  items.mapIdx fun i v => (some i, some v, entry)

/-- What the rounds among these legs were: the iteration that the step records, and the
item in the context and the node with which the run goes on. -/
def roundsMade (loop itemName : String) (ls : List Leg) :
    List (Option Nat × Option Value × String) :=
  (ls.filter fun l => l.step.enters loop).map fun l =>
    (l.step.iteration, Dict.find? l.after.context itemName, l.after.current)

/-- One round more over a list. -/
theorem roundsOver_take_succ {items : List Value} {index : Nat} {v : Value}
    (h : items[index]? = some v) (entry : String) :
    roundsOver entry (items.take (index + 1))
      = roundsOver entry (items.take index) ++ [(some index, some v, entry)] := by
  obtain ⟨hlt, rfl⟩ := List.getElem?_eq_some_iff.mp h
  unfold roundsOver
  rw [List.take_succ_eq_append_getElem hlt, List.mapIdx_concat,
    List.length_take_of_le (Nat.le_of_lt hlt)]

/-- One leg more. -/
theorem roundsMade_concat (loop itemName : String) (ls : List Leg) (l : Leg) :
    roundsMade loop itemName (ls ++ [l])
      = if l.step.enters loop then roundsMade loop itemName ls
          ++ [(l.step.iteration, Dict.find? l.after.context itemName, l.after.current)]
        else roundsMade loop itemName ls := by
  unfold roundsMade
  rw [List.filter_append, List.map_append]
  by_cases henters : l.step.enters loop = true
  · simp [henters]
  · simp [henters]

/-- There are no rounds in steps that begin a pass. -/
theorem rounds_of_fresh {ls : List Leg}
    (h : ∀ l, ls.getLast? = some l → l.step.leaves id = true) :
    rounds id (ls.map Leg.step) = 0 := by
  rcases List.eq_nil_or_concat ls with rfl | ⟨init, l, rfl⟩
  · rfl
  · rw [List.concat_eq_append] at h ⊢
    rw [List.map_append, List.map_singleton, rounds_concat, if_pos]
    exact h l List.getLast?_concat

/-- As long as a pass lasts and the list stays the same, its rounds are those over an
initial piece of the list, as long as the number of rounds. The induction is on the pass
from its end. -/
theorem roundsMade_of_pass {before pass : List Leg} {items : List Value}
    (h : Route nodes start (before ++ pass) final) (hstart : start.cursors = [])
    (hloop : IsLoop nodes id n spec)
    (hfresh : ∀ l, before.getLast? = some l → l.step.leaves id = true)
    (hinside : ∀ l ∈ pass, ¬ l.step.leaves id = true)
    (hitems : ∀ l ∈ pass, l.step.node = id →
      Dict.find? l.before.context spec.listName = some (.array items)) :
    roundsMade id spec.itemName pass
      = roundsOver (loopEntry spec n)
          (items.take (rounds id ((before ++ pass).map Leg.step))) := by
  induction pass using List.reverseRecOn generalizing final with
  | nil =>
      rw [List.append_nil, rounds_of_fresh hfresh]
      rfl
  | append_singleton pass l ih =>
      rw [← List.append_assoc] at h ⊢
      obtain ⟨hinit, hl, -⟩ := h.last
      have hmem : l ∈ pass ++ [l] := List.mem_append_right _ (List.mem_singleton_self l)
      have hpass := ih hinit (fun k hk => hinside k (List.mem_append_left _ hk))
        (fun k hk => hitems k (List.mem_append_left _ hk))
      rw [List.map_append, List.map_singleton, rounds_concat, if_neg (hinside l hmem),
        roundsMade_concat, hpass]
      by_cases henters : l.step.enters id = true
      · obtain ⟨m, spec', index, v, hloop', hitem, hiteration, hafter⟩ := hl.of_enters henters
        obtain ⟨rfl, rfl⟩ := hloop.unique hloop'
        obtain ⟨hindex, items', hlist, hv⟩ :=
          ((hinit.counted hstart).item_eq_some hloop).mp hitem
        rw [hitems l hmem (Step.node_of_enters henters)] at hlist
        obtain rfl := Value.array.inj (Option.some.inj hlist)
        rw [if_pos henters, if_pos henters, ← hindex, roundsOver_take_succ hv, hiteration, hafter,
          Dict.find?_insert, if_pos rfl]
      · rw [if_neg henters, if_neg henters]

/-- A pass through a list that stays the same has one round for each of its elements, in
their order. -/
theorem roundsMade_eq {before pass : List Leg} {exit : Leg} {items : List Value}
    (h : Route nodes start ls final) (hstart : start.cursors = [])
    (hpass : IsPass id ls before pass exit) (hloop : IsLoop nodes id n spec)
    (hitems : ∀ l ∈ pass ++ [exit], l.step.node = id →
      Dict.find? l.before.context spec.listName = some (.array items)) :
    roundsMade id spec.itemName pass = roundsOver (loopEntry spec n) items := by
  obtain ⟨⟨rest, rfl⟩, hfresh, hinside, hended⟩ := hpass
  rw [← List.append_assoc] at h
  obtain ⟨hbefore, hexit, -⟩ := h.around
  obtain ⟨m, spec', hloop', hitem, -⟩ := hexit.of_leaves hended
  obtain ⟨rfl, rfl⟩ := hloop.unique hloop'
  have hlist := hitems exit (List.mem_append_right _ (List.mem_singleton_self exit))
    (Step.node_of_leaves hended)
  rw [(hbefore.counted hstart).item_eq_none hloop, hlist] at hitem
  have hlength : items.length ≤ rounds id ((before ++ pass).map Leg.step) := by
    simpa [Exhausted] using hitem
  rw [roundsMade_of_pass hbefore hstart hloop hfresh hinside
      fun l hl => hitems l (List.mem_append_left _ hl),
    List.take_of_length_le hlength]

/-- After each round of a pass the run is at the body of the loop. -/
theorem follows_of_enters {before pass : List Leg} {exit l : Leg} {i : Nat}
    (h : Route nodes start ls final) (hpass : IsPass id ls before pass exit)
    (hloop : IsLoop nodes id n spec) (hi : pass[i]? = some l)
    (henters : l.step.enters id = true) :
    ∃ next, (pass ++ [exit])[i + 1]? = some next ∧ next.before = l.after ∧
      next.step.node = loopEntry spec n := by
  obtain ⟨⟨rest, rfl⟩, -, -, -⟩ := hpass
  rw [show exit :: rest = [exit] ++ rest from rfl, ← List.append_assoc pass] at h
  obtain ⟨_, -, h⟩ := h.split
  obtain ⟨_, h, -⟩ := h.split
  have hlt : i < pass.length := (List.getElem?_eq_some_iff.mp hi).1
  have hi' : (pass ++ [exit])[i]? = some l := by rw [List.getElem?_append_left hlt, hi]
  obtain ⟨next, hnext⟩ : ∃ next, (pass ++ [exit])[i + 1]? = some next := by
    apply Option.isSome_iff_exists.mp
    simpa using hlt
  have hlink : next.before = l.after := h.link hi' hnext
  obtain ⟨m, spec', _, _, hloop', _, _, hafter⟩ := (h.at hi').2.1.of_enters henters
  obtain ⟨rfl, rfl⟩ := hloop.unique hloop'
  refine ⟨next, hnext, hlink, ?_⟩
  rw [(h.at hnext).2.1.names, hlink, hafter]

-- ======================================================= any chain of drives

/-- Drives one after another, in whatever surroundings, each from the state that the one
before it left; with all their legs, and the state that the last one left. -/
inductive Drives (nodes : List Node) (start : State) : List Leg → State → Prop
  | start : Drives nodes start [] start
  | again {ls : List Leg} {state : State} (h : Drives nodes start ls state) {σ : Type}
    (s : Surroundings σ) (budget : Nat) (world : σ) :
    Drives nodes start (ls ++ legs s nodes budget state world)
      (drive s nodes budget state world).1.state

/-- Drives one after another are a route. -/
theorem Drives.route (h : Drives nodes start ls final) : Route nodes start ls final := by
  induction h with
  | start => exact .rest
  | again _ s budget world ih => exact ih.append (route_legs s nodes budget _ world)

/-- A visit to a loop is over with it exactly when nothing is left of its list. -/
theorem Counted.leaves_iff (h : Counted nodes steps l.before.cursors) (hl : l.Made nodes)
    (hnode : l.step.node = id) (hloop : IsLoop nodes id n spec) :
    l.step.leaves id = true ↔
      Exhausted (Dict.find? l.before.context spec.listName) (rounds id steps) := by
  rw [← h.item_eq_none hloop]
  constructor
  · intro hleaves
    obtain ⟨m, spec', hloop', hitem, -⟩ := hl.of_leaves hleaves
    obtain ⟨rfl, rfl⟩ := hloop.unique hloop'
    exact hitem
  · intro hitem
    obtain ⟨m, hm, -, htype, hround⟩ := hl.round
    rw [hnode, hloop.found] at hm
    obtain rfl := Option.some.inj hm
    cases hround with
    | enters _ hspec hitem' _ _ _ =>
        obtain rfl := Except.ok.inj (hloop.isRead.symm.trans hspec)
        cases hitem.symm.trans hitem'
    | leaves hisLoop _ _ hstatus hiteration _ =>
        simp [Step.leaves, hnode, ← htype, hisLoop, hstatus, hiteration]
    | none _ hfails =>
        obtain ⟨e, he⟩ := (hfails hloop.isLoop).2 spec hloop.isRead
        cases hitem.symm.trans he

/-- What a visit to a loop is, when it was made after so many rounds. Where it goes to the
body, it has their number as its iteration; where it is over, the cursor is gone; it is one
of these if it succeeds, and then the configuration can be read; and if that can be read,
it is over exactly when the list is exhausted after so many items. -/
structure Visits (nodes : List Node) (made : Nat) (l : Leg) : Prop where
  enters : l.step.enters l.step.node = true → l.step.iteration = some made
  leaves : l.step.leaves l.step.node = true → Dict.find? l.after.cursors l.step.node = none
  succeeds : l.step.status = .success → ∃ n spec, IsLoop nodes l.step.node n spec ∧
    (l.step.enters l.step.node = true ∨ l.step.leaves l.step.node = true)
  over_iff : ∀ n spec, IsLoop nodes l.step.node n spec →
    (l.step.leaves l.step.node = true ↔
      Exhausted (Dict.find? l.before.context spec.listName) made)

/-- A visit to a loop after steps that the cursors count. -/
theorem Counted.visits (h : Counted nodes steps l.before.cursors) (hl : l.Made nodes)
    (htype : l.step.type = .loop) : Visits nodes (rounds l.step.node steps) l where
  enters henters := by
    obtain ⟨n, spec, index, v, hloop, hitem, hiteration, -⟩ := hl.of_enters henters
    rw [hiteration, ((h.item_eq_some hloop).mp hitem).1]
  leaves hleaves := by
    obtain ⟨_, _, -, -, hafter⟩ := hl.of_leaves hleaves
    rw [hafter, Dict.find?_erase, if_pos rfl]
  succeeds hsuccess := by
    have heither : l.step.enters l.step.node = true ∨ l.step.leaves l.step.node = true := by
      cases hiteration : l.step.iteration with
      | some index => simp [Step.enters, htype, hsuccess, hiteration]
      | none => simp [Step.leaves, htype, hsuccess, hiteration]
    rcases heither with henters | hleaves
    · obtain ⟨n, spec, _, _, hloop, -⟩ := hl.of_enters henters
      exact ⟨n, spec, hloop, .inl henters⟩
    · obtain ⟨n, spec, hloop, -⟩ := hl.of_leaves hleaves
      exact ⟨n, spec, hloop, .inr hleaves⟩
  over_iff _ _ hloop := h.leaves_iff hl rfl hloop

/-- Loops count exactly, over any chain of drives that begins without cursors.

At every point the cursors count the rounds in the steps so far: those of each loop since
it was over the last time, and of nothing else. A visit to a loop that goes to the body
records this number, and so the iterations 0, 1, 2 and so on in turn; it is over, and its
cursor is gone, exactly when its list is missing, null, or no longer than this number.

Hence a pass through a list that is the same at each visit has one round for each element,
in their order, and after each round the run goes on at the body with that element. -/
theorem loops_count_exactly {nodes : List Node} {start final : State} {ls : List Leg}
    (hstart : start.cursors = []) (h : Drives nodes start ls final) :
    (∀ i l, ls[i]? = some l → Counted nodes ((ls.take i).map Leg.step) l.before.cursors) ∧
    Counted nodes (ls.map Leg.step) final.cursors ∧
    (∀ i l, ls[i]? = some l → l.step.type = .loop →
      Visits nodes (rounds l.step.node ((ls.take i).map Leg.step)) l) ∧
    ∀ loop before pass exit, IsPass loop ls before pass exit →
      ∃ n spec, IsLoop nodes loop n spec ∧
        (∀ items, (∀ l ∈ pass ++ [exit], l.step.node = loop →
            Dict.find? l.before.context spec.listName = some (.array items)) →
          roundsMade loop spec.itemName pass = roundsOver (loopEntry spec n) items) ∧
        ∀ i l, pass[i]? = some l → l.step.enters loop = true →
          ∃ next, (pass ++ [exit])[i + 1]? = some next ∧ next.before = l.after ∧
            next.step.node = loopEntry spec n := by
  have hroute : Route nodes start ls final := h.route
  refine ⟨?_, hroute.counted hstart, ?_, ?_⟩
  · intro i l hi
    exact (hroute.at hi).1.counted hstart
  · intro i l hi htype
    obtain ⟨hbefore, hl, -⟩ := hroute.at hi
    exact (hbefore.counted hstart).visits hl htype
  · intro loop before pass exit hpass
    obtain ⟨rest, hls⟩ := hpass.within
    rw [← List.append_assoc] at hls
    obtain ⟨n, spec, hloop, -, -⟩ := (hls ▸ hroute).around.2.1.of_leaves hpass.ended
    refine ⟨n, spec, hloop, ?_, ?_⟩
    · intro items hitems
      exact roundsMade_eq hroute hstart hpass hloop hitems
    · intro i l hi henters
      exact follows_of_enters hroute hpass hloop hi henters

-- ======================================================= a loop in a loop

/-- Waits a minute for each column of each row. -/
def everyCell : List Node :=
  [(Node.loopOver "rows" "all_rows" "row" "columns").withNext "end",
    (Node.loopOver "columns" "all_columns" "column" "wait").withNext "rows",
    (Node.delay "wait" 60).withNext "columns",
    .finish "end"]

/-- At the first of two rows, with two columns. -/
def atRows : State :=
  ⟨"rows", [("all_columns", .array [.null, .bool true]), ("all_rows", .array [.null, .null])], []⟩

/-- One of a chain of drives that stop at every delay. -/
theorem Drives.once {ls : List Leg} {state : State} (h : Drives everyCell atRows ls state)
    (world : Nat × Nat) :
    Drives everyCell atRows
      (ls ++ legs (Surroundings.counting.withDelays .suspend) everyCell 100 state world)
      (drive (Surroundings.counting.withDelays .suspend) everyCell 100 state world).1.state :=
  h.again _ _ _

/-- With the third drive the second row has begun, with its first column. -/
theorem loops_count_nested :
    ∃ ls final, Drives everyCell atRows ls final ∧ final.current = "columns" ∧
      Dict.find? final.cursors "rows" = some 2 ∧ Dict.find? final.cursors "columns" = some 1 := by
  have h := ((Drives.start.once (0, 0)).once (60, 0)).once (120, 0)
  have hcounted := (loops_count_exactly rfl h).2.1
  refine ⟨_, _, h, ?_, (hcounted.count "rows").trans ?_, (hcounted.count "columns").trans ?_⟩
  · decide +kernel
  · decide +kernel
  · decide +kernel

end Graph

end DurableWorkflow
