/-
What is read from a text is an instant as clocks show it: its nanoseconds are less
than a second, but for a leap second, which is the last of a minute. That the minute
is kept is owed to the offset, which is one of whole minutes; that nothing lies
outside of the range of instants is checked where the pieces are put together.
-/
import DurableWorkflow.Proofs.Json.Bounds
import DurableWorkflow.Proofs.Time.Stamps

namespace DurableWorkflow.Time

open Decimal (isDigit ofDigits)

variable {n : Nat} {o : Int} {cs ds rest : List Char}

-- ============================================================ fields

/-- Digits write a number that has no more of them. -/
theorem ofDigits_lt (hds : ∀ c ∈ ds, isDigit c = true) : ofDigits ds < 10 ^ ds.length := by
  have hfold : ∀ m, ds.foldl (fun n c => 10 * n + (c.toNat - 48)) m < (m + 1) * 10 ^ ds.length := by
    induction ds with
    | nil => intro m; simp
    | cons c ds ih =>
        intro m
        obtain ⟨hc, hds⟩ := List.forall_mem_cons.mp hds
        have hdigit : c.toNat - 48 < 10 :=
          Json.digit?_lt (Json.digit?_of_isDigit hc)
        rw [List.foldl_cons, List.length_cons, Nat.pow_succ', ← Nat.mul_assoc]
        refine Nat.lt_of_lt_of_le (ih hds _) (Nat.mul_le_mul_right _ ?_)
        omega
  have := hfold 0
  rwa [Nat.zero_add, Nat.one_mul] at this

/-- A number has no more digits than were read. -/
theorem number_lt {least most : Nat} (h : number least most cs = .ok (n, rest)) :
    cs.length - rest.length ≤ most ∧ n < 10 ^ (cs.length - rest.length) := by
  unfold number at h
  simp only at h
  split at h
  next => split at h <;> cases h
  next =>
    split at h
    next => cases h
    next =>
      obtain ⟨rfl, rfl⟩ := Prod.mk.inj (Except.ok.inj h)
      have hprefix := List.takeWhile_prefix isDigit (l := cs.take most)
      have hle := hprefix.length_le
      rw [List.length_take] at hle
      have hlength : cs.length - (cs.drop ((cs.take most).takeWhile isDigit).length).length
          = ((cs.take most).takeWhile isDigit).length := by
        rw [List.length_drop]
        omega
      rw [hlength]
      exact ⟨by omega, ofDigits_lt fun c hc => List.mem_takeWhile_imp hc⟩

theorem le_of_within {low high : Nat} {r : Scan (Nat × List Char)}
    (h : within low high r = .ok (n, rest)) : n ≤ high := by
  obtain ⟨⟨m, left⟩, -, h⟩ := Decoder.bind_eq_ok.mp h
  simp only at h
  split at h
  next hm =>
    obtain ⟨rfl, -⟩ := Prod.mk.inj (Except.ok.inj h)
    exact hm.2
  next => cases h

/-- A fraction is less than a second. -/
theorem fraction_lt (h : fraction cs = .ok (n, rest)) : n < second := by
  unfold fraction at h
  split at h
  next r =>
    obtain ⟨⟨m, left⟩, hm, h⟩ := Decoder.bind_eq_ok.mp h
    obtain ⟨rfl, -⟩ := Prod.mk.inj (Except.ok.inj h)
    obtain ⟨hdigits, hlt⟩ := number_lt hm
    have hnine : 10 ^ (r.length - left.length) * 10 ^ (9 - (r.length - left.length)) = second := by
      rw [← Nat.pow_add, Nat.add_sub_cancel' hdigits]
      rfl
    rw [← hnine]
    exact Nat.mul_lt_mul_of_pos_right hlt (Nat.pow_pos (by decide))
  next =>
    obtain ⟨rfl, -⟩ := Prod.mk.inj (Except.ok.inj h)
    decide

/-- An offset is one of whole minutes. -/
theorem offset_minutes {colon : List Char → Scan (List Char)}
    (h : offset colon cs = .ok (o, rest)) : o % 60 = 0 := by
  unfold offset at h
  split at h
  next => cases h
  next =>
    split at h
    next =>
      obtain ⟨rfl, -⟩ := Prod.mk.inj (Except.ok.inj h)
      rfl
    next =>
      split at h
      next =>
        obtain ⟨⟨a, b, r⟩, -, h⟩ := Decoder.bind_eq_ok.mp h
        obtain ⟨r', -, h⟩ := Decoder.bind_eq_ok.mp h
        obtain ⟨⟨m, k, r''⟩, -, h⟩ := Decoder.bind_eq_ok.mp h
        simp only at h
        split at h
        next => cases h
        next =>
          obtain ⟨rfl, -⟩ := Prod.mk.inj (Except.ok.inj h)
          split <;> omega
      next => cases h

theorem looseOffset_minutes (h : looseOffset cs = .ok (o, rest)) : o % 60 = 0 := by
  unfold looseOffset at h
  split at h
  next =>
    split at h
    next =>
      obtain ⟨rfl, -⟩ := Prod.mk.inj (Except.ok.inj h)
      rfl
    next => exact offset_minutes h
  next => exact offset_minutes h

-- =========================================================== instants

/-- Pieces that are put together are those of an instant as clocks show it. -/
theorem Pieces.valid_instant {p : Pieces} {t : Instant} (hsecond : p.second ≤ 60)
    (hnanos : p.nanos < Time.second) (hoffset : p.offset % 60 = 0) (h : p.instant = .ok t) :
    t.Valid ∧ Instant.inRange t.seconds = true := by
  unfold Pieces.instant at h
  simp only at h
  split at h
  next => cases h
  next =>
    split at h
    next => cases h
    next =>
      -- the sixtieth second is the second before it with a whole second more
      obtain ⟨s, nanos, heq, hs, hlow, hhigh⟩ : ∃ s nanos,
          (if p.second = 60 then (59, p.nanos + Time.second) else (p.second, p.nanos)) = (s, nanos)
            ∧ s < 60 ∧ nanos < 2 * Time.second ∧ (Time.second ≤ nanos → s = 59) := by
        split
        next => exact ⟨_, _, rfl, by omega, by omega, fun _ => rfl⟩
        next => exact ⟨_, _, rfl, by omega, by omega, fun _ => by omega⟩
      rw [heq] at h
      simp only at h
      split at h
      next hrange =>
        obtain rfl := Except.ok.inj h
        refine ⟨⟨hlow, fun hleap => ?_⟩, hrange⟩
        have := hhigh hleap
        show (_ * 86400 + ((p.hour * 3600 + p.minute * 60 + s : Nat) : Int) - p.offset) % 60 = 59
        omega
      next => cases h

namespace Instant

variable {s : String} {t : Instant}

/-- What is read from outside is an instant as clocks show it. -/
theorem valid_of_ofText (h : ofText s = .ok t) : t.Valid ∧ inRange t.seconds = true := by
  unfold ofText at h
  obtain ⟨⟨year, r⟩, -, h⟩ := Decoder.bind_eq_ok.mp h
  obtain ⟨r₁, -, h⟩ := Decoder.bind_eq_ok.mp h
  obtain ⟨⟨month, r₂⟩, -, h⟩ := Decoder.bind_eq_ok.mp h
  obtain ⟨r₃, -, h⟩ := Decoder.bind_eq_ok.mp h
  obtain ⟨⟨day, r₄⟩, -, h⟩ := Decoder.bind_eq_ok.mp h
  obtain ⟨r₅, -, h⟩ := Decoder.bind_eq_ok.mp h
  obtain ⟨⟨hour, r₆⟩, -, h⟩ := Decoder.bind_eq_ok.mp h
  obtain ⟨r₇, -, h⟩ := Decoder.bind_eq_ok.mp h
  obtain ⟨⟨minute, r₈⟩, -, h⟩ := Decoder.bind_eq_ok.mp h
  obtain ⟨r₉, -, h⟩ := Decoder.bind_eq_ok.mp h
  obtain ⟨⟨seconds, r₁₀⟩, hsecond, h⟩ := Decoder.bind_eq_ok.mp h
  obtain ⟨⟨nanos, r₁₁⟩, hnanos, h⟩ := Decoder.bind_eq_ok.mp h
  obtain ⟨⟨offset, r₁₂⟩, hoffset, h⟩ := Decoder.bind_eq_ok.mp h
  simp only at h
  split at h
  next => cases h
  next =>
    have hle : seconds ≤ 60 := le_of_within (show within 0 60 _ = _ from hsecond)
    exact Pieces.valid_instant hle (fraction_lt hnanos) (looseOffset_minutes hoffset) h

/-- What is read from a stored text is an instant as clocks show it. -/
theorem valid_of_ofStored (h : ofStored s = .ok t) : t.Valid ∧ inRange t.seconds = true := by
  unfold ofStored at h
  obtain ⟨⟨year, r⟩, -, h⟩ := Decoder.bind_eq_ok.mp h
  obtain ⟨r₁, -, h⟩ := Decoder.bind_eq_ok.mp h
  obtain ⟨⟨month, r₂⟩, -, h⟩ := Decoder.bind_eq_ok.mp h
  obtain ⟨r₃, -, h⟩ := Decoder.bind_eq_ok.mp h
  obtain ⟨⟨day, r₄⟩, -, h⟩ := Decoder.bind_eq_ok.mp h
  obtain ⟨r₅, -, h⟩ := Decoder.bind_eq_ok.mp h
  obtain ⟨⟨hour, r₆⟩, -, h⟩ := Decoder.bind_eq_ok.mp h
  obtain ⟨r₇, -, h⟩ := Decoder.bind_eq_ok.mp h
  obtain ⟨⟨minute, r₈⟩, -, h⟩ := Decoder.bind_eq_ok.mp h
  obtain ⟨r₉, -, h⟩ := Decoder.bind_eq_ok.mp h
  obtain ⟨⟨seconds, r₁₀⟩, hsecond, h⟩ := Decoder.bind_eq_ok.mp h
  obtain ⟨⟨nanos, r₁₁⟩, hnanos, h⟩ := Decoder.bind_eq_ok.mp h
  obtain ⟨⟨offset, r₁₂⟩, hoffset, h⟩ := Decoder.bind_eq_ok.mp h
  simp only at h
  split at h
  next => cases h
  next =>
    split at h
    next => cases h
    next =>
      exact Pieces.valid_instant (le_of_within hsecond) (fraction_lt hnanos)
        (offset_minutes hoffset) h

end Instant

end DurableWorkflow.Time
