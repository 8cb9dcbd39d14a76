import Usque.DataLoopSteps

/-! When the pump serves its timers. The three actions live in one branch of
`select!`, so an iteration that starts over without waiting serves none of them:
a download that keeps filling the receive burst starves them for as long as it
lasts. In runs without such iterations a due timer is served in the iteration
that finds it due. -/
namespace Usque.DataLoop

open Packet Uplink Http3 NativeTun Timing

variable {a : LoopArgs} {s next : DataLoop a} {label : Label}

inductive Timer where
  | quic
  | keepalive
  | pmtud
  deriving DecidableEq

/-- What is due: `conn.timeout()` is zero, or a period has passed. -/
def Due (s : DataLoop a) : Timer → Prop
  | .quic => s.quicTimeout = some 0
  | .keepalive => s.keepaliveWait = some 0
  | .pmtud => s.pmtudWait = some 0

/-- How often the action of a timer has been carried out. -/
def performed (counts : Counts) : Timer → ℕ
  | .quic => counts.onTimeouts
  | .keepalive => counts.keepalives
  | .pmtud => counts.revalidations

/-- The pump is between two iterations. -/
def BetweenIterations (s : DataLoop a) : Prop :=
  s.stage = .receive false 0 ∧ 0 < s.counts.iterations

instance (s : DataLoop a) : (timer : Timer) → Decidable (Due s timer)
  | .quic => inferInstanceAs (Decidable (_ = _))
  | .keepalive => inferInstanceAs (Decidable (_ = _))
  | .pmtud => inferInstanceAs (Decidable (_ = _))

instance (s : DataLoop a) : Decidable (BetweenIterations s) := inferInstanceAs (Decidable (_ ∧ _))

/-- A timer found due between two iterations is served before `bound` further
iterations and `bound` further batches are over, in every run. -/
def ServedWithin (a : LoopArgs) (bound : ℕ) : Prop :=
  ∀ stats device now quicDeadline first (s later : DataLoop a) timer,
    start a stats device now quicDeadline = some first →
    Transition.Reachable step first s → BetweenIterations s → Due s timer →
    Transition.Reachable step s later →
    s.counts.iterations + bound ≤ later.counts.iterations →
    s.counts.batches + bound ≤ later.counts.batches →
    performed s.counts timer < performed later.counts timer

/-! ## Quiet runs -/

/-- A step that does not put a timer off: a drain ends within `patience` batches, no
burst is full at the end of the iteration, a `select!` without time left takes its
`sleep` branch, and where the timer is quiche's it is not moved once due. -/
def quiet (patience : ℕ) (timer : Timer) (s : DataLoop a) : Label → Bool
  | .pump (.batch (some size)) =>
    match s.stage with
    | .receive false batches => size == 0 || decide (batches < patience)
    | _ => true
  | .pump (.checked _) => !s.busy
  | .pump (.readable _) | .pump .received =>
    match s.stage with
    | .select timeout _ _ => timeout != 0
    | _ => true
  | .rearm _ => timer != .quic || s.quicTimeout != some 0
  | _ => true

/-- The stages between the receive stage and `select!`, and the end. -/
def Stage.inside : Stage → Bool
  | .receive _ _ | .select _ _ _ | .flushTimers => false
  | .flushReceived | .poll | .drain | .report | .flushReport | .applyPmtu | .drainChannel _
  | .queueTx | .returnIcmp | .flushTx | .check | .ended _ => true

/-- A call that goes on inside the iteration and leaves clock, timers and counts
alone. -/
structure Passes (s next : DataLoop a) : Prop where
  now : next.now = s.now
  quicDeadline : next.quicDeadline = s.quicDeadline
  lastKeepaliveProbe : next.lastKeepaliveProbe = s.lastKeepaliveProbe
  lastPmtudRevalidation : next.lastPmtudRevalidation = s.lastPmtudRevalidation
  counts : next.counts = s.counts
  inside : next.stage.inside = true

theorem Passes.due (passes : Passes s next) {timer : Timer} (due : Due s timer) :
    Due next timer := by
  cases timer with
  | quic =>
    simpa only [Due, quicTimeout, passes.quicDeadline, passes.now] using due
  | keepalive =>
    simpa only [Due, keepaliveWait, passes.lastKeepaliveProbe, passes.now] using due
  | pmtud =>
    simpa only [Due, pmtudWait, passes.lastPmtudRevalidation, passes.now] using due

theorem flushQuic_passes {onward : DataLoop a} (ok : Bool) (passes : Passes s onward) :
    Passes s (s.flushQuic ok onward) := by
  cases ok with
  | true => exact passes
  | false => exact ⟨rfl, rfl, rfl, rfl, rfl, rfl⟩

theorem pollTunnel_passes (polls : List PollAnswer) (bodies : List BodyAnswer) :
    Passes s (s.pollTunnel polls bodies) := by
  unfold pollTunnel
  split <;> exact ⟨rfl, rfl, rfl, rfl, rfl, rfl⟩

theorem reportStats_passes (start : StartAnswer) (sent : SendBodyAnswer) :
    Passes s (s.reportStats start sent) := by
  unfold reportStats startReport
  dsimp only
  split <;> split <;> exact ⟨rfl, rfl, rfl, rfl, rfl, rfl⟩

theorem applyPmtu_passes (pmtu writable : Option ℕ) (readable : Bool) (answers : TunAnswers) :
    Passes s (s.applyPmtu pmtu writable readable answers) := by
  obtain shape | shape | ⟨tunMtu, -, shape | ⟨error, shape⟩⟩ :=
    applyPmtu_cases s pmtu writable readable answers <;> rw [shape] <;>
    exact ⟨rfl, rfl, rfl, rfl, rfl, rfl⟩

theorem drainTx_passes (taken : ℕ) : Passes s (s.drainTx taken) := by
  obtain ⟨up, -, shape⟩ | ⟨up, -, shape⟩ | shape := drainTx_cases s taken <;> rw [shape] <;>
    exact ⟨rfl, rfl, rfl, rfl, rfl, rfl⟩

theorem popTx_passes (here : s.stage = .queueTx) : Passes s s.popTx := by
  obtain ⟨up, -, shape⟩ | shape := popTx_cases s <;> rw [shape]
  · exact ⟨rfl, rfl, rfl, rfl, rfl, by simp only [here, Stage.inside]⟩
  · exact ⟨rfl, rfl, rfl, rfl, rfl, rfl⟩

theorem returnIcmp_passes : Passes s s.returnIcmp := by
  refine ⟨rfl, rfl, rfl, rfl, rfl, ?_⟩
  unfold returnIcmp
  dsimp only
  split <;> rfl

/-- An armed wait of zero makes the whole wait zero. -/
theorem selectTimeout_due {timer : Timer} (due : Due s timer) : s.selectTimeout = 0 := by
  have armed : 0 ∈ [s.quicTimeout, s.keepaliveWait, s.pmtudWait, s.h3StatsWait].filterMap id := by
    apply List.mem_filterMap.mpr
    refine ⟨some 0, ?_, rfl⟩
    cases timer <;> simp only [Due] at due <;> simp [due]
  have least := List.min?_eq_some_iff.mpr ⟨armed, fun wait _ => Nat.zero_le wait⟩
  rw [selectTimeout, least, Option.getD_some]

/-- A timer that is due stays due while time passes. -/
theorem due_tick {timer : Timer} (due : Due s timer) (passed : Duration) :
    Due { s with now := s.now + passed } timer := by
  have ordered : s.now ≤ s.now + passed := Int.le_add_of_nonneg_right (Int.natCast_nonneg passed)
  cases timer with
  | quic =>
    simp only [Due, quicTimeout, Option.map_eq_some_iff] at due ⊢
    obtain ⟨deadline, armed, past⟩ := due
    exact ⟨deadline, armed, deadline_stays_over past ordered⟩
  | keepalive =>
    simp only [Due, keepaliveWait, keepalive_due_iff] at due ⊢
    exact ⟨due.1, Nat.le_trans due.2 (elapsed_le_later _ ordered)⟩
  | pmtud =>
    simp only [Due, pmtudWait, pmtud_due_iff] at due ⊢
    exact ⟨due.1, due.2.1, Nat.le_trans due.2.2 (elapsed_le_later _ ordered)⟩

/-! ## What the timers do -/

theorem onTimeout_counts (due : Bool) (rearmed : Option Instant) (timer : Timer) :
    performed (s.onTimeout due rearmed).counts timer =
      performed s.counts timer + if due = true ∧ timer = .quic then 1 else 0 := by
  cases due <;> cases timer <;> rfl

theorem sendAckEliciting_counts (probed : Bool) (timer : Timer) :
    performed (s.sendAckEliciting probed).counts timer =
      performed s.counts timer + if s.keepaliveWait = some 0 ∧ timer = .keepalive then 1 else 0 := by
  unfold sendAckEliciting
  by_cases waited : s.keepaliveWait = some 0
  · rw [if_pos waited]
    cases probed <;> cases timer <;> simp [waited, performed, fail]
  · rw [if_neg waited]
    simp [waited]

theorem revalidatePmtu_counts (timer : Timer) :
    performed s.revalidatePmtu.counts timer =
      performed s.counts timer + if s.pmtudWait = some 0 ∧ timer = .pmtud then 1 else 0 := by
  unfold revalidatePmtu
  by_cases waited : s.pmtudWait = some 0
  · rw [if_pos waited]
    cases timer <;> simp [waited, performed]
  · rw [if_neg waited]
    simp [waited]

theorem onTimeout_waits (due : Bool) (rearmed : Option Instant) :
    (s.onTimeout due rearmed).keepaliveWait = s.keepaliveWait ∧
      (s.onTimeout due rearmed).pmtudWait = s.pmtudWait := by
  cases due <;> exact ⟨rfl, rfl⟩

theorem sendAckEliciting_pmtudWait (probed : Bool) :
    (s.sendAckEliciting probed).pmtudWait = s.pmtudWait := by
  unfold sendAckEliciting
  split
  · cases probed <;> rfl
  · rfl

/-- The sum of what the three timers add. -/
private theorem fired_counts (due probed : Bool) (rearmed : Option Instant) (timer : Timer) :
    performed ((s.onTimeout due rearmed).sendAckEliciting probed).revalidatePmtu.counts timer =
      performed s.counts timer +
        ((if due = true ∧ timer = .quic then 1 else 0) +
          (if s.keepaliveWait = some 0 ∧ timer = .keepalive then 1 else 0) +
          (if s.pmtudWait = some 0 ∧ timer = .pmtud then 1 else 0)) := by
  rw [revalidatePmtu_counts, sendAckEliciting_counts, onTimeout_counts,
    sendAckEliciting_pmtudWait, (onTimeout_waits due rearmed).1, (onTimeout_waits due rearmed).2]
  omega

/-- No action is ever taken back. -/
theorem runTimers_counts_le (due probed : Bool) (rearmed : Option Instant) (timer : Timer) :
    performed s.counts timer ≤ performed (s.runTimers due probed rearmed).counts timer := by
  obtain ⟨-, -, shape⟩ | shape | shape := runTimers_cases s due probed rearmed <;> rw [shape]
  · rw [sendAckEliciting_counts, onTimeout_counts]
    omega
  · have fired := fired_counts (s := s) due probed rearmed timer
    exact Nat.le.intro fired.symm
  · have fired := fired_counts (s := s) due probed rearmed timer
    exact Nat.le.intro fired.symm

/-- A timer that was due has been served, unless a failed probe has ended the
pump before its turn came. -/
theorem runTimers_serves {due : Bool} (probed : Bool) (rearmed : Option Instant) {timer : Timer}
    (waited : Due s timer) (asked : timer = .quic → due = true) :
    performed s.counts timer < performed (s.runTimers due probed rearmed).counts timer ∨
      ((s.runTimers due probed rearmed).stage = .ended .keepalive ∧
        (s.runTimers due probed rearmed).counts.iterations = s.counts.iterations ∧
        (s.runTimers due probed rearmed).counts.batches = s.counts.batches ∧
        Due (s.runTimers due probed rearmed) timer) := by
  have sum := fired_counts (s := s) due probed rearmed timer
  have served : performed s.counts timer <
      performed ((s.onTimeout due rearmed).sendAckEliciting probed).revalidatePmtu.counts
        timer := by
    cases timer with
    | quic =>
      rw [sum]
      simp [asked rfl]
    | keepalive =>
      simp only [Due] at waited
      rw [sum]
      simp [waited]
    | pmtud =>
      simp only [Due] at waited
      rw [sum]
      simp [waited]
  obtain ⟨probing, failed, shape⟩ | shape | shape := runTimers_cases s due probed rearmed <;>
    rw [shape]
  · have kept := (onTimeout_waits (s := s) due rearmed)
    cases timer with
    | quic =>
      refine .inl ?_
      rw [sendAckEliciting_counts, onTimeout_counts]
      simp [asked rfl]
    | keepalive =>
      refine .inl ?_
      rw [sendAckEliciting_counts, onTimeout_counts]
      simp [probing]
    | pmtud =>
      -- The probe's failure returns before the revalidation.
      refine .inr ⟨?_, ?_, ?_, ?_⟩
      · rw [failed, sendAckEliciting, if_pos probing]
        rfl
      · rw [failed, sendAckEliciting, if_pos probing]
        cases due <;> rfl
      · rw [failed, sendAckEliciting, if_pos probing]
        cases due <;> rfl
      · simpa only [Due, sendAckEliciting_pmtudWait, kept.2] using waited
  · exact .inl served
  · exact .inl served

/-! ## The run -/

/-- How many batches an iteration that found a timer due has received, and what
its `select!` knows of the timer. -/
def Stage.OnTime (patience : ℕ) (timer : Timer) (batches : ℕ) : Stage → Prop
  | .receive false received => batches ≤ received ∧ received ≤ patience
  | .receive true _ | .flushTimers => False
  | .select timeout due _ => timeout = 0 ∧ (timer = .quic → due = true) ∧ batches ≤ patience
  | .flushReceived | .poll | .drain | .report | .flushReport | .applyPmtu | .drainChannel _
  | .queueTx | .returnIcmp | .flushTx | .check | .ended _ => batches ≤ patience

theorem onTime_inside {patience batches : ℕ} {timer : Timer} {stage : Stage}
    (inside : stage.inside = true) : stage.OnTime patience timer batches ↔ batches ≤ patience := by
  cases stage with
  | receive inSelect received => cases inside
  | select timeout due since => cases inside
  | flushTimers => cases inside
  | flushReceived | poll | drain | report | flushReport | applyPmtu | drainChannel _ | queueTx
  | returnIcmp | flushTx | check | ended _ => exact Iff.rfl

/-- Since `base` a due timer has been served, or it waits in the same iteration,
which goes on to serve it. -/
def Awaits (patience : ℕ) (timer : Timer) (base : Counts) (s : DataLoop a) : Prop :=
  performed base timer < performed s.counts timer ∨
    (performed base timer ≤ performed s.counts timer ∧ Due s timer ∧
      s.counts.iterations = base.iterations ∧
      s.stage.OnTime patience timer (s.counts.batches - base.batches))

/-- No step takes an action back. -/
theorem step_performed_le (called : Called s label next) (timer : Timer) :
    performed s.counts timer ≤ performed next.counts timer := by
  have passed (passes : Passes s next) : performed s.counts timer ≤ performed next.counts timer :=
    (congrArg (performed · timer) passes.counts).ge
  have counted (size : ℕ) : performed { s.counts with batches := size } timer =
      performed s.counts timer := by cases timer <;> rfl
  have ended (counts : Counts) :
      performed { counts with iterations := counts.iterations + 1 } timer =
        performed counts timer := by cases timer <;> rfl
  cases called with
  | reader op up moved => exact Nat.le_refl _
  | tick passed => exact Nat.le_refl _
  | rearm deadline => exact Nat.le_refl _
  | batch inSelect batches count here fits =>
    obtain ⟨-, shape⟩ | ⟨size, received, -, -, ⟨-, shape⟩ | ⟨-, shape⟩ | ⟨-, shape⟩⟩ :=
      receiveBatch_cases s inSelect batches count <;> rw [shape]
    · exact Nat.le_refl _
    · exact (counted received).ge
    · exact ((ended _).trans (counted received)).ge
    · exact (counted received).ge
  | flushReceived ok here => exact passed (flushQuic_passes ok ⟨rfl, rfl, rfl, rfl, rfl, rfl⟩)
  | flushReport ok here => exact passed (flushQuic_passes ok ⟨rfl, rfl, rfl, rfl, rfl, rfl⟩)
  | flushTx ok here => exact passed (flushQuic_passes ok ⟨rfl, rfl, rfl, rfl, rfl, rfl⟩)
  | flushTimers ok here =>
    cases ok with
    | true => exact (ended s.counts).ge
    | false => exact Nat.le_refl _
  | polled polls bodies here => exact passed (pollTunnel_passes polls bodies)
  | drained answers here => exact Nat.le_refl _
  | reported start sent here => exact passed (reportStats_passes start sent)
  | pathMtu pmtu writable readable answers here =>
    exact passed (applyPmtu_passes pmtu writable readable answers)
  | drainTx taken here => exact passed (drainTx_passes taken)
  | popTx here idle => exact passed (popTx_passes here)
  | returnIcmp here => exact passed returnIcmp_passes
  | settled answer fate up here judged => exact Nat.le_refl _
  | checked closed here =>
    obtain shape | ⟨-, shape⟩ | ⟨-, shape⟩ | ⟨-, shape⟩ := checkLoop_cases s closed <;> rw [shape]
    · exact Nat.le_refl _
    · exact Nat.le_refl _
    · exact (ended s.counts).ge
  | readable ok timeout due since here => cases ok <;> exact Nat.le_refl _
  | pulled up timeout due since here moved => exact (ended s.counts).ge
  | noticed up timeout due since here moved => exact (ended s.counts).ge
  | slept probed rearmed timeout due since here waited =>
    exact runTimers_counts_le due probed rearmed timer

/-- A quiet step keeps a due timer on its way to be served. -/
theorem step_awaits {patience : ℕ} {timer : Timer} {base : Counts}
    (awaits : Awaits patience timer base s) (calm : quiet patience timer s label = true)
    (stepped : step s label = some next) : Awaits patience timer base next := by
  obtain ⟨-, called⟩ := step_called stepped
  have kept := step_performed_le called timer
  rcases awaits with served | ⟨started, due, same, onTime⟩
  · exact .inl (Nat.lt_of_lt_of_le served kept)
  have starting := Nat.le_trans started kept
  have goesOn (here : s.stage.inside = true) (passes : Passes s next) :
      Awaits patience timer base next := by
    refine .inr ⟨starting, passes.due due, ?_, ?_⟩
    · rw [passes.counts]
      exact same
    · rw [passes.counts]
      exact (onTime_inside passes.inside).mpr ((onTime_inside here).mp onTime)
  cases called with
  | reader op up moved => exact .inr ⟨starting, by cases timer <;> exact due, same, onTime⟩
  | tick passed => exact .inr ⟨starting, due_tick due passed, same, onTime⟩
  | rearm deadline =>
    refine .inr ⟨starting, ?_, same, onTime⟩
    cases timer with
    | quic =>
      simp only [quiet, bne_self_eq_false, Bool.false_or, bne_iff_ne] at calm
      exact absurd due calm
    | keepalive => exact due
    | pmtud => exact due
  | batch inSelect batches count here fits =>
    rw [here] at onTime
    cases inSelect with
    | true => exact onTime.elim
    | false =>
      obtain ⟨few, within⟩ := onTime
      obtain ⟨-, shape⟩ | ⟨size, received, given, total, shapes⟩ :=
        receiveBatch_cases s false batches count
      · rw [shape] at starting ⊢
        exact .inr ⟨starting, by cases timer <;> exact due, same, Nat.le_trans few within⟩
      have counted : received - base.batches ≤ batches + 1 := by
        rw [total]
        split <;> omega
      have patient (nonempty : size ≠ 0) : batches + 1 ≤ patience := by
        rw [given] at calm
        simp only [quiet, here, Bool.or_eq_true, beq_iff_eq, decide_eq_true_eq] at calm
        exact calm.resolve_left nonempty
      obtain ⟨full, shape⟩ | ⟨inSelect, -⟩ | ⟨-, shape⟩ := shapes
      · rw [shape] at starting ⊢
        exact .inr ⟨starting, by cases timer <;> exact due, same, counted, patient full⟩
      · cases inSelect
      · rw [shape] at starting ⊢
        refine .inr ⟨starting, by cases timer <;> exact due, same, ?_⟩
        change received - base.batches ≤ patience
        by_cases empty : size = 0
        · rw [if_pos empty] at total
          omega
        · exact Nat.le_trans counted (patient empty)
  | flushReceived ok here =>
    exact goesOn (by rw [here]; rfl) (flushQuic_passes ok ⟨rfl, rfl, rfl, rfl, rfl, rfl⟩)
  | flushReport ok here =>
    exact goesOn (by rw [here]; rfl) (flushQuic_passes ok ⟨rfl, rfl, rfl, rfl, rfl, rfl⟩)
  | flushTx ok here =>
    exact goesOn (by rw [here]; rfl) (flushQuic_passes ok ⟨rfl, rfl, rfl, rfl, rfl, rfl⟩)
  | flushTimers ok here =>
    rw [here] at onTime
    exact onTime.elim
  | polled polls bodies here => exact goesOn (by rw [here]; rfl) (pollTunnel_passes polls bodies)
  | drained answers here => exact goesOn (by rw [here]; rfl) ⟨rfl, rfl, rfl, rfl, rfl, rfl⟩
  | reported start sent here => exact goesOn (by rw [here]; rfl) (reportStats_passes start sent)
  | pathMtu pmtu writable readable answers here =>
    exact goesOn (by rw [here]; rfl) (applyPmtu_passes pmtu writable readable answers)
  | drainTx taken here => exact goesOn (by rw [here]; rfl) (drainTx_passes taken)
  | popTx here idle => exact goesOn (by rw [here]; rfl) (popTx_passes here)
  | returnIcmp here => exact goesOn (by rw [here]; rfl) returnIcmp_passes
  | settled answer fate up here judged =>
    refine goesOn (by rw [here]; rfl) ⟨rfl, rfl, rfl, rfl, rfl, ?_⟩
    dsimp only
    split <;> rfl
  | checked closed here =>
    have within : s.counts.batches - base.batches ≤ patience := by
      rw [here] at onTime
      exact onTime
    obtain shape | ⟨-, shape⟩ | ⟨busy, -⟩ | ⟨-, shape⟩ := checkLoop_cases s closed
    · rw [shape] at starting ⊢
      exact .inr ⟨starting, by cases timer <;> exact due, same, within⟩
    · rw [shape] at starting ⊢
      exact .inr ⟨starting, by cases timer <;> exact due, same, within⟩
    · simp [quiet, busy] at calm
    · rw [shape] at starting ⊢
      refine .inr ⟨starting, by cases timer <;> exact due, same, selectTimeout_due due, ?_, within⟩
      intro own
      rw [own] at due
      simp only [Due] at due
      simp [due]
  | readable ok timeout late since here =>
    rw [here] at onTime
    simp only [quiet, here, bne_iff_ne] at calm
    exact absurd onTime.1 calm
  | pulled up timeout late since here moved =>
    rw [here] at onTime
    simp only [quiet, here, bne_iff_ne] at calm
    exact absurd onTime.1 calm
  | noticed up timeout late since here moved =>
    rw [here] at onTime
    simp only [quiet, here, bne_iff_ne] at calm
    exact absurd onTime.1 calm
  | slept probed rearmed timeout late since here waited =>
    rw [here] at onTime
    obtain ⟨-, asked, within⟩ := onTime
    rcases runTimers_serves probed rearmed due asked with served | ⟨ended, turns, batches, waits⟩
    · exact .inl (Nat.lt_of_le_of_lt started served)
    · refine .inr ⟨starting, waits, turns.trans same, ?_⟩
      rw [ended, batches]
      exact within

/-- In a quiet run a due timer is served before the next iteration ends and
before more than `patience` batches are received. -/
theorem quiet_run_serves {patience : ℕ} {timer : Timer} {labels : List Label}
    (between : BetweenIterations s) (due : Due s timer)
    (calm : Transition.Along step (fun s label => quiet patience timer s label = true) s labels)
    (ran : Transition.run step s labels = some next)
    (late : s.counts.iterations < next.counts.iterations ∨
      s.counts.batches + patience < next.counts.batches) :
    performed s.counts timer < performed next.counts timer := by
  have first : Awaits patience timer s.counts s := by
    refine .inr ⟨Nat.le_refl _, due, rfl, ?_⟩
    rw [between.1]
    exact ⟨by omega, Nat.zero_le _⟩
  have last : Awaits patience timer s.counts next := by
    refine Transition.run_preserves_along (Awaits patience timer s.counts) ?_ first calm ran
    intro s label next awaits calm stepped
    exact step_awaits awaits calm stepped
  rcases last with served | ⟨-, -, same, onTime⟩
  · exact served
  · have few : next.counts.batches - s.counts.batches ≤ patience := by
      cases stage : next.stage with
      | receive inSelect received =>
        rw [stage] at onTime
        cases inSelect with
        | true => exact onTime.elim
        | false => exact Nat.le_trans onTime.1 onTime.2
      | select timeout asked since =>
        rw [stage] at onTime
        exact onTime.2.2
      | flushTimers =>
        rw [stage] at onTime
        exact onTime.elim
      | flushReceived | poll | drain | report | flushReport | applyPmtu | drainChannel _
      | queueTx | returnIcmp | flushTx | check | ended _ =>
        rw [stage] at onTime
        exact onTime
    omega

/-! ## A saturated download -/

/-- An iteration of a saturated download: one full UDP batch, and as many
DATAGRAMs as the receive burst takes. -/
def saturatedLabels : List Label :=
  [.pump (.batch (some 1)), .pump (.batch (some 0)), .pump (.flushed true),
    .pump (.polled [] []), .pump (.drained (List.replicate rxDgramDrainBurst (.datagram []))),
    .pump (.reported .noPath .done), .pump (.pathMtu none none true ⟨true, true, true⟩),
    .pump .proceed, .pump .proceed, .pump .proceed, .pump (.checked false)]

/-- The pump after `turns + 1` such iterations, its keepalive period over. -/
def saturated (free : Fifo PacketBuffer smallArgs.poolSize) (turns : ℕ) : DataLoop smallArgs :=
  { enter (fresh free {}) smallDevice 0 none with
    now := smallArgs.keepalivePeriod
    rx := { rxDrainBudgetHits := turns + 1 }
    rxDrainBudgetExhausted := true
    counts := { iterations := turns + 1, batches := turns + 1 } }

/-- The iteration counts itself, its batch and its exhausted budget; all else stays. -/
private theorem saturated_iteration (free : Fifo PacketBuffer smallArgs.poolSize) (hits turns : ℕ)
    (exhausted : Bool) :
    Transition.run step
        { enter (fresh free {}) smallDevice 0 none with
          now := smallArgs.keepalivePeriod
          rx := { rxDrainBudgetHits := hits }
          rxDrainBudgetExhausted := exhausted
          counts := { iterations := turns, batches := turns } } saturatedLabels =
      some { enter (fresh free {}) smallDevice 0 none with
        now := smallArgs.keepalivePeriod
        rx := { rxDrainBudgetHits := hits + 1 }
        rxDrainBudgetExhausted := true
        counts := { iterations := turns + 1, batches := turns + 1 } } := by
  -- call by call, so that no evaluation sees more than one
  iterate 10 refine Transition.run_cons_iff.mpr ⟨_, rfl, ?_⟩
  rfl

theorem saturated_next (free : Fifo PacketBuffer smallArgs.poolSize) (turns : ℕ) :
    Transition.run step (saturated free turns) saturatedLabels =
      some (saturated free (turns + 1)) := by
  unfold saturated
  exact saturated_iteration free (turns + 1) (turns + 1) true

theorem saturated_due (free : Fifo PacketBuffer smallArgs.poolSize) (turns : ℕ) :
    Due (saturated free turns) .keepalive := by
  have passed : elapsed 0 (smallArgs.keepalivePeriod : ℤ) = smallArgs.keepalivePeriod := by
    simp [elapsed]
  have passed_now := (keepalive_due_iff smallArgs.keepalivePeriod _).mpr ⟨by decide, passed.ge⟩
  exact passed_now

theorem saturated_first (free : Fifo PacketBuffer smallArgs.poolSize) :
    Transition.run step (enter (fresh free {}) smallDevice 0 none)
      (.tick smallArgs.keepalivePeriod :: saturatedLabels) = some (saturated free 0) := by
  refine Transition.run_cons_iff.mpr ⟨_, rfl, ?_⟩
  unfold saturated
  exact saturated_iteration free 0 0 false

/-- However many iterations and batches one waits for, a download that lasts
longer starves a keepalive that was due all the time. -/
theorem saturated_download_starves : ¬ ∃ bound, ServedWithin smallArgs bound := by
  rintro ⟨bound, served⟩
  obtain ⟨free, -, started⟩ := start_eq smallArgs {} smallDevice 0 none
  have lasts (turns : ℕ) :
      Transition.Reachable step (saturated free 0) (saturated free turns) := by
    induction turns with
    | zero => exact .refl
    | succ turns ih => exact ih.trans ⟨saturatedLabels, saturated_next free turns⟩
  have fired : performed (saturated free 0).counts .keepalive <
      performed (saturated free bound).counts .keepalive := by
    apply served {} smallDevice 0 none _ (saturated free 0) (saturated free bound) .keepalive started
    · exact ⟨_, saturated_first free⟩
    · exact ⟨rfl, Nat.one_pos⟩
    · exact saturated_due free 0
    · exact lasts bound
    · exact Nat.le_of_eq (by simp only [saturated]; omega)
    · exact Nat.le_of_eq (by simp only [saturated]; omega)
  exact Nat.lt_irrefl 0 fired

/-- The same keepalive in an iteration without a download: it is sent. -/
theorem quiet_run_serves_small :
    ∃ s next : DataLoop smallArgs, BetweenIterations s ∧ Due s .keepalive ∧
      performed s.counts .keepalive < performed next.counts .keepalive := by
  let labels := idleLabels ++ [.pump .proceed, .pump .proceed, .pump .proceed,
    .pump (.checked false), .pump (.slept true none), .pump (.flushed true)]
  obtain ⟨first, s, -, -, checked⟩ := execute_reaches smallArgs smallDevice
    (.tick smallArgs.keepalivePeriod :: saturatedLabels)
    (fun s => decide (BetweenIterations s ∧ Due s .keepalive ∧
      Transition.Along step (fun s label => quiet 1 .keepalive s label = true) s labels ∧
      (Transition.run step s labels).any
        (fun next => s.counts.iterations < next.counts.iterations))) (by decide)
  obtain ⟨between, due, calm, ended⟩ := of_decide_eq_true checked
  obtain ⟨next, ran, late⟩ := (Option.any_eq_true _ _).mp ended
  exact ⟨s, next, between, due,
    quiet_run_serves between due calm ran (.inl (of_decide_eq_true late))⟩

end Usque.DataLoop
