import Mathlib.Data.Int.Order.Basic
import Mathlib.Data.List.Basic
import Mathlib.Algebra.Order.Ring.Int

/-! Events a period apart. A schedule knows its last event and how many there were; it lets an
event happen only once a period has passed since the last one. However its steps fall in time,
any stretch of it then holds at most one event more than it has periods. -/
namespace Spaced

structure Schedule where
  last : ℤ
  count : ℕ

/-- What a schedule does at the moment `now`. A `miss` is an attempt that brought no event. -/
inductive Moves (enabled : Prop) (period : ℕ) (now : ℤ) : Schedule → Schedule → Prop
  | rests (s : Schedule) : Moves enabled period now s s
  | fires (s : Schedule) (on : enabled) (due : s.last + period ≤ now) :
      Moves enabled period now s ⟨now, s.count + 1⟩
  | misses (s : Schedule) (later : s.last ≤ now) : Moves enabled period now s ⟨now, s.count⟩

/-- The schedule since a moment `start`, at which it was `first`. -/
structure Since (enabled : Prop) (period : ℕ) (first : Schedule) (start : ℤ) (s : Schedule)
    (now : ℤ) : Prop where
  past : s.last ≤ now
  started : start ≤ now
  grown : first.count ≤ s.count
  idle : ¬enabled → s.count = first.count
  /-- Every event came a period behind the one before it. -/
  chained : first.last + (s.count - first.count : ℕ) * (period : ℤ) ≤ s.last
  /-- The first event of the stretch may have come at its start. -/
  spread : first.count < s.count →
    start + (s.count - first.count - 1 : ℕ) * (period : ℤ) ≤ s.last

variable {enabled : Prop} {period : ℕ} {first s next : Schedule} {start now later : ℤ}

theorem Since.begin (past : s.last ≤ now) : Since enabled period s now s now :=
  ⟨past, le_rfl, le_rfl, fun _ => rfl, by simp, fun more => absurd more (lt_irrefl _)⟩

/-- The invariant: whatever a schedule does next, the stretch stays well spaced. -/
theorem Since.moves (since : Since enabled period first start s now) (ordered : now ≤ later)
    (moved : Moves enabled period later s next) :
    Since enabled period first start next later := by
  obtain ⟨past, started, grown, idle, chained, spread⟩ := since
  cases moved with
  | rests =>
    exact ⟨past.trans ordered, started.trans ordered, grown, idle, chained, spread⟩
  | fires on due =>
    refine ⟨le_rfl, started.trans ordered, Nat.le_succ_of_le grown, fun off => absurd on off, ?_, ?_⟩
    · change first.last + (s.count + 1 - first.count : ℕ) * (period : ℤ) ≤ later
      rw [Nat.succ_sub grown, Nat.cast_succ, Int.add_mul, one_mul]
      omega
    · intro _
      change start + (s.count + 1 - first.count - 1 : ℕ) * (period : ℤ) ≤ later
      rcases Nat.eq_or_lt_of_le grown with none | some'
      · rw [← none, Nat.add_sub_cancel_left, Nat.sub_self, Nat.cast_zero, Int.zero_mul]
        omega
      · have before := spread some'
        have steps : s.count + 1 - first.count - 1 = s.count - first.count - 1 + 1 := by omega
        rw [steps, Nat.cast_succ, Int.add_mul, one_mul]
        omega
  | misses past' =>
    refine ⟨le_rfl, started.trans ordered, grown, idle, chained.trans past', fun more => ?_⟩
    exact (spread more).trans past'

/-- Counted from the last event before the stretch. -/
theorem Since.count_le (since : Since enabled period first start s now) :
    (s.count - first.count) * period ≤ (now - first.last).toNat := by
  have chained := since.chained
  have past := since.past
  have whole : (((s.count - first.count) * period : ℕ) : ℤ) ≤ now - first.last := by
    rw [Nat.cast_mul]
    omega
  omega

/-- In a stretch there is at most one event more than the periods it lasts. -/
theorem Since.stretch_le (since : Since enabled period first start s now) :
    (s.count - first.count - 1) * period ≤ (now - start).toNat := by
  rcases Nat.lt_or_ge first.count s.count with more | none
  · have spread := since.spread more
    have past := since.past
    have whole : (((s.count - first.count - 1) * period : ℕ) : ℤ) ≤ now - start := by
      rw [Nat.cast_mul]
      omega
    omega
  · rw [Nat.sub_eq_zero_of_le none, Nat.zero_sub, Nat.zero_mul]
    exact Nat.zero_le _

end Spaced
