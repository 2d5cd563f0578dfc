/-
What runs write into their context, where there are no handlers but those of the engine itself.

A graph declares the keys that its runs write: that of the last result, the item of each loop,
and the variable of each action that sets one. `Written` is the invariant: the context of a run is
had from the one at the start by writes under declared keys alone (`Write`). A visit makes one
of them, two or none, whatever failed attempts it took and wherever it goes then
(`written_of_course`), so a drive keeps the invariant, and so does any number of drives.

What follows is told from the writes and not from the visits: a key that is not declared is as it
was, no key is ever taken away, and every value is one of the start, an answer of a handler, the
value in a configuration, or an item of a list that is one of these (`Stems`). The place that a
loop has come to is none of them: it is kept beside the context and does not get there.
-/
import DurableWorkflow.Proofs.Action.Standard
import DurableWorkflow.Proofs.Graph.Loops

namespace DurableWorkflow

open Time (Instant)

variable {σ : Type}

-- =========================================================== declared

namespace Node

/-- The name of the item of a loop. -/
def itemName? (n : Node) : Option String :=
  match n.behaviour with
  | .ok (.loop spec) => some spec.itemName
  | _ => none

/-- The variable that a node sets, and its value. -/
def assignment? (n : Node) : Option Action.Assignment :=
  match n.behaviour with
  | .ok (.action spec) =>
    if spec.kind = ActionKind.updateVar.name then
      match Action.input .updateVar Action.assignmentShape spec.config with
      | .ok a => if a.name = "" then none else some a
      | .error _ => none
    else none
  | _ => none

/-- A variable is set by an action of the right kind that has a name for it. -/
theorem assignment?_eq_some {n : Node} {spec : ActionSpec} {a : Action.Assignment}
    (h : n.behaviour = .ok (.action spec)) (hkind : spec.kind = ActionKind.updateVar.name)
    (hinput : Action.input .updateVar Action.assignmentShape spec.config = .ok a)
    (hname : a.name ≠ "") : n.assignment? = some a := by
  simp only [assignment?, h, hinput, if_pos hkind, if_neg hname]

end Node

namespace Graph

variable {nodes : List Node} {n : Node} {first context : Context} {key : String} {v : Value}

-- ============================================================= writes

/-- The keys that the runs of a graph write: that of the last result, the items of its loops, and
the variables that its actions set. -/
def declared (nodes : List Node) : List String :=
  lastResultKey :: (nodes.filterMap Node.itemName?
    ++ nodes.filterMap fun n => n.assignment?.map (·.name))

/-- A write into a context: under which key, and of what value. -/
inductive Write (nodes : List Node) (context : Context) : String → Value → Prop
  | result {v : Value} (h : Action.Answered v) : Write nodes context lastResultKey v
  | item {n : Node} {spec : LoopSpec} {items : List Value} {v : Value} (hn : n ∈ nodes)
    (h : n.behaviour = .ok (.loop spec))
    (hlist : Dict.find? context spec.listName = some (.array items)) (hv : v ∈ items) :
    Write nodes context spec.itemName v
  | assigned {n : Node} {a : Action.Assignment} (hn : n ∈ nodes) (h : n.assignment? = some a) :
    Write nodes context a.name a.value

theorem Write.declared (h : Write nodes context key v) : key ∈ declared nodes := by
  unfold Graph.declared
  cases h with
  | result _ => exact List.mem_cons_self
  | item hn h _ _ =>
      refine List.mem_cons_of_mem _ (List.mem_append_left _ (List.mem_filterMap.mpr ⟨_, hn, ?_⟩))
      rw [Node.itemName?, h]
  | assigned hn h =>
      refine List.mem_cons_of_mem _ (List.mem_append_right _ (List.mem_filterMap.mpr ⟨_, hn, ?_⟩))
      rw [h, Option.map_some]

/-- The contexts that are had from one by the writes of a graph. -/
inductive Written (nodes : List Node) (first : Context) : Context → Prop
  | start : Written nodes first first
  | write {context : Context} {key : String} {v : Value} (h : Written nodes first context)
    (hw : Write nodes context key v) : Written nodes first (Dict.insert context key v)

/-- Where the values of a context come from, if nothing but the writes of a graph was done to
it. -/
inductive Stems (nodes : List Node) (first : Context) : Value → Prop
  | found {key : String} {v : Value} (h : Dict.find? first key = some v) : Stems nodes first v
  | answered {v : Value} (h : Action.Answered v) : Stems nodes first v
  | assigned {n : Node} {a : Action.Assignment} (hn : n ∈ nodes) (h : n.assignment? = some a) :
    Stems nodes first a.value
  | item {items : List Value} {v : Value} (h : Stems nodes first (.array items)) (hv : v ∈ items) :
    Stems nodes first v

namespace Written

/-- What is not declared is as it was. -/
theorem find?_eq (h : Written nodes first context) (hkey : key ∉ declared nodes) :
    Dict.find? context key = Dict.find? first key := by
  induction h with
  | start => rfl
  | write _ hw ih =>
      rw [Dict.find?_insert, if_neg, ih]
      rintro rfl
      exact hkey hw.declared

/-- What was there is there, under its key. -/
theorem has_of_has (h : Written nodes first context) (hkey : Dict.has first key = true) :
    Dict.has context key = true := by
  induction h with
  | start => exact hkey
  | write _ _ ih =>
      rw [Dict.has, Dict.find?_insert]
      split
      · rfl
      · exact ih

/-- Each value stems from the start or from the graph. -/
theorem stems (h : Written nodes first context) (hv : Dict.find? context key = some v) :
    Stems nodes first v := by
  induction h generalizing key v with
  | start => exact .found hv
  | write _ hw ih =>
      rw [Dict.find?_insert] at hv
      split at hv
      next =>
        obtain rfl := Option.some.inj hv
        cases hw with
        | result h => exact .answered h
        | item _ _ hlist hmem => exact .item (ih hlist) hmem
        | assigned hn h => exact .assigned hn h
      next => exact ih hv

end Written

-- ============================================================= visits

variable {s : Surroundings σ} {state state' : State} {t : Instant} {step : Step}
  {halt : Option Halt}

/-- A visit does no more to the context than the writes of its node. -/
theorem written_of_course (hs : s.registry.OnlyStandard) (hn : n ∈ nodes)
    (hcourse : Course s n state t step state' halt)
    (h : Written nodes first state.context) : Written nodes first state'.context := by
  cases hcourse with
  | @acts spec v left attempts world after hspec hdone =>
      obtain ⟨hv, rfl | ⟨a, hkind, hinput, hname, rfl⟩⟩ := hs.execute_ok hdone
      · exact .write h (.result hv)
      · have hset := Node.assignment?_eq_some hspec hkind hinput hname
        exact .write (.write h (.assigned hn hset)) (.result hv)
  | enters hspec hitem =>
      obtain ⟨-, items, hlist, hitem⟩ := loopItem_eq_some.mp hitem
      exact .write h (.item hn hspec hlist (List.mem_of_getElem? hitem))
  | passes | decides | waits | parks | branches | leaves | finishes | redirects | fails => exact h

/-- So does a drive, visit by visit. -/
theorem written_drive (hs : s.registry.OnlyStandard) (budget : Nat) (state : State) (world : σ)
    (h : Written nodes first state.context) :
    Written nodes first (drive s nodes budget state world).1.state.context := by
  induction budget, state, world using drive_induction s nodes with
  | rests budget state world halt hrests =>
      rw [hrests]
      exact h
  | ends budget state world n step state' halt after hcurrent hn ha =>
      rw [drive_of_halt hcurrent hn ha]
      exact written_of_course hs (mem_of_find? hn) (course_advance ha) h
  | goes budget state world n step state' after hcurrent hn ha ih =>
      rw [drive_of_goesOn hcurrent hn ha]
      exact ih (written_of_course hs (mem_of_find? hn) (course_advance ha) h)

-- ============================================================= drives

/-- Drives one after another, each from the state that the one before it left, with any
settings, clocks and budgets, but with no handlers other than those of the engine. -/
inductive StandardDrives (nodes : List Node) (start : State) : State → Prop
  | start : StandardDrives nodes start start
  | again {state : State} (h : StandardDrives nodes start state) {σ : Type} (s : Surroundings σ)
    (hs : s.registry.OnlyStandard) (budget : Nat) (world : σ) :
    StandardDrives nodes start (drive s nodes budget state world).1.state

variable {start final : State}

/-- They keep to the writes of the graph, drive by drive. -/
theorem StandardDrives.written (h : StandardDrives nodes start final) :
    Written nodes start.context final.context := by
  induction h with
  | start => exact .start
  | again _ s hs budget world ih => exact written_drive hs budget _ world ih

/-- Runs write nothing but what their graph declares. Without other handlers than those of the
engine, however often a run is driven on: a key that is neither that of the last result nor the
item of a loop nor a variable that an action sets is as it was at the start, or as absent; no
key is taken away; and what is found under any key comes from the start, from a configuration or
from an answer, so nothing is found there of how far loops have come. -/
theorem writes_declared (h : StandardDrives nodes start final) :
    (∀ key, key ∉ declared nodes →
        Dict.find? final.context key = Dict.find? start.context key)
      ∧ (∀ key, Dict.has start.context key = true → Dict.has final.context key = true)
      ∧ ∀ key v, Dict.find? final.context key = some v → Stems nodes start.context v := by
  have hwritten := h.written
  exact ⟨fun key hkey => hwritten.find?_eq hkey, fun key hkey => hwritten.has_of_has hkey,
    fun key v hv => hwritten.stems hv⟩

/-- The engine with nothing but its own handlers, and a clock that stands. -/
def Surroundings.plain : Surroundings Unit where
  registry := .standard
  now _ := (.epoch, ())
  settings := .standard

/-- Notes for each item of a list that it was seen. -/
def noteEach : List Node :=
  [(Node.loopOver "each" "items" "item" "note").withNext "end",
    (Node.action "note" "update_var"
      (.object [("value", .bool true), ("variable", .string "seen")])).withNext "each",
    .finish "end"]

/-- A run of it that is cut in the middle and driven on leaves alone what it does not declare. -/
theorem writes_declared_noteEach :
    let start : State := ⟨"each", [("items", .array [.int 7]), ("owner", .string "Bob")], []⟩
    let cut := (drive .plain noteEach 2 start ()).1.state
    let final := (drive .plain noteEach 100 cut ()).1.state
    StandardDrives noteEach start final
      ∧ final.context.keys = ["item", "items", "last_action_result", "owner", "seen"]
      ∧ Dict.find? final.context "owner" = some (.string "Bob") := by
  intro start cut final
  have hplain : Surroundings.plain.registry.OnlyStandard := fun _ _ h => h
  have hdrives : StandardDrives noteEach start final :=
    .again (.again .start .plain hplain 2 ()) .plain hplain 100 ()
  refine ⟨hdrives, by decide +kernel, ?_⟩
  rw [(writes_declared hdrives).1 "owner" (by decide +kernel)]
  rfl

end Graph

end DurableWorkflow
