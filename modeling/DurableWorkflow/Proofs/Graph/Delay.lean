/-
What a drive does at a delay when delays suspend it: it ends there, and the time at
which it may go on is the reading of the clock, moved by the seconds of the delay.
A delay that would lead out of the range of instants is refused instead
(`visit_delay`).

A drive comes to a delay after some visits, within its budget. That it ends there,
whatever is left of the budget, follows from the cut that may be made before the
delay (`drive_of_delay`).
-/
import DurableWorkflow.Proofs.Graph.Budget
import DurableWorkflow.Proofs.Time.Order

namespace DurableWorkflow.Graph

open Time (Instant)

variable {σ : Type}

-- ========================================================= addition

/-- The instant at which a delay is over, if there is one. -/
def delayEnd (t : Instant) (seconds : UInt64) : Option Instant :=
  if maxDelay < seconds.toNat then none else t.addSeconds seconds.toNat

/-- Seconds are added as such. From within a leap second they are counted from the
second after it. -/
theorem addSeconds_eq {t : Instant} (ht : t.Valid) {n : Int} (hn : 0 < n) :
    t.addSeconds n = if Instant.inRange (t.seconds + n) = true
      then some ⟨t.seconds + n, t.nanos % Time.second⟩ else none := by
  have hnanos := ht.nanos
  unfold Instant.addSeconds Instant.shift
  unfold Time.second at *
  by_cases hleap : 1000000000 ≤ t.nanos
  · have hlow : ¬ (t.nanos : Int) - (1000000000 : Nat) + 0 < 0 := by omega
    have hhigh : ¬ ((1000000000 : Nat) : Int) ≤ (t.nanos : Int) - (1000000000 : Nat) + 0 := by omega
    rw [if_pos hleap, if_pos (.inl hn)]
    simp only [hlow, hhigh, if_false]
    rw [show ((t.nanos : Int) - (1000000000 : Nat) + 0).toNat = t.nanos % 1000000000 by omega]
  · have hlow : ¬ (t.nanos : Int) + 0 < 0 := by omega
    have hhigh : ¬ ((1000000000 : Nat) : Int) ≤ (t.nanos : Int) + 0 := by omega
    rw [if_neg hleap]
    simp only [hlow, hhigh, if_false]
    rw [show ((t.nanos : Int) + 0).toNat = t.nanos % 1000000000 by omega]

/-- A delay is over so many seconds later. -/
theorem delayEnd_eq {t due : Instant} {seconds : UInt64} (ht : t.Valid) (hpos : seconds ≠ 0)
    (h : delayEnd t seconds = some due) :
    due.seconds = t.seconds + seconds.toNat ∧ due.nanos = t.nanos % Time.second := by
  have hsecs : (0 : Int) < seconds.toNat := by
    have : seconds.toNat ≠ 0 := fun h0 => hpos (UInt64.toNat_inj.mp h0)
    omega
  unfold delayEnd at h
  rw [addSeconds_eq ht hsecs] at h
  split at h
  next => cases h
  next =>
    split at h
    next =>
      injection h with h
      rw [← h]
      exact ⟨rfl, rfl⟩
    next => cases h

/-- Nobody is told to go on in a leap second. -/
theorem valid_delayEnd {t due : Instant} {seconds : UInt64} (ht : t.Valid) (hpos : seconds ≠ 0)
    (h : delayEnd t seconds = some due) : due.Valid := by
  obtain ⟨-, hnanos⟩ := delayEnd_eq ht hpos h
  have hlt : due.nanos < Time.second := by
    rw [hnanos]
    exact Nat.mod_lt _ (by decide)
  unfold Time.second at hlt
  exact ⟨by unfold Time.second; omega, by unfold Time.second; omega⟩

-- ============================================================ visits

variable {s : Surroundings σ} {nodes : List Node} {n : Node} {seconds : UInt64}

/-- A visit to a delay, where delays suspend. -/
theorem visit_delay (hmode : s.settings.delayMode = .suspend)
    (hn : n.behaviour = .ok (.delay ⟨seconds⟩)) (hpos : seconds ≠ 0) (state : State) (step : Step)
    (world : σ) :
    (visit s n state step world).outcome =
      match delayEnd (s.now world).1 seconds with
      | some due => .ok ⟨.suspend n.next due, state.context, state.cursors⟩
      | none => .error (.nodeConfig n.id
          ("delay of " ++ toString seconds.toNat ++ "s is out of range")) := by
  have hgo : ¬ (s.settings.delayMode = .record ∨ seconds = 0) := by
    rw [hmode]
    simp [hpos]
  unfold visit
  rw [hn]
  simp only
  unfold wait delayEnd
  rw [if_neg hgo]
  by_cases hlong : maxDelay < seconds.toNat
  · rw [if_pos hlong, if_pos hlong]
  · rw [if_neg hlong, if_neg hlong]
    simp only
    cases (s.now world).1.addSeconds seconds.toNat with
    | none => rfl
    | some due => rfl

/-- A drive that comes to a delay within its budget, when the clock shows some
time. -/
def Meets (s : Surroundings σ) (nodes : List Node) (budget : Nat) (start : State) (world : σ)
    (t : Instant) (seconds : UInt64) : Prop :=
  ∃ visits state steps world' n, visits < budget ∧
    drive s nodes visits start world = (⟨state, steps, .budgetSpent⟩, world') ∧
    find? nodes state.current = some n ∧ n.behaviour = .ok (.delay ⟨seconds⟩) ∧
    (s.now (s.now world').2).1 = t

/-- A drive that comes to a delay that is accepted is suspended there until the delay
is over. -/
theorem drive_of_delay {budget : Nat} {start : State} {world : σ} {t due : Instant}
    (hmode : s.settings.delayMode = .suspend) (hpos : seconds ≠ 0)
    (hmeets : Meets s nodes budget start world t seconds) (hend : delayEnd t seconds = some due) :
    (drive s nodes budget start world).1.halt = .suspended due := by
  obtain ⟨visits, state, steps, world', n, hlt, hdrive, hfind, hn, rfl⟩ := hmeets
  obtain ⟨rest, rfl⟩ : ∃ rest, budget = visits + (rest + 1) := ⟨budget - visits - 1, by omega⟩
  have hcurrent : state.current ≠ "" := by
    have hne : (drive s nodes visits start world).1.state.current ≠ "" :=
      current_ne_of_budgetSpent s nodes visits (by rw [hdrive])
    rwa [hdrive] at hne
  have hvisit := visit_delay hmode hn hpos state
    (.new n.id n.type (s.now world').1) (s.now world').2
  rw [hend] at hvisit
  rw [drive_add, hdrive, goOn, if_pos rfl, driveWithin_eq, drive_succ s nodes rest world' hcurrent
    hfind]
  unfold advance settle
  simp only [hvisit]

end DurableWorkflow.Graph
