import Usque.TimerService
import Usque.Lib.Spaced

/-! How often the pump's timers fire. The keepalive, the path-MTU revalidation and the HTTP/3
statistics each look at the clock on their own and note when they fired, so none of them comes
more often than its period in any stretch of a session, whatever wakes the pump in between. -/
namespace Usque.DataLoop

open Packet Uplink Http3 NativeTun Timing Spaced

variable {a : LoopArgs} {s next : DataLoop a} {label : Label}

/-! ## The three schedules -/

/-- Keepalive PINGs. A failed one ends the loop before it is noted. -/
def pings (s : DataLoop a) : Schedule :=
  ⟨if s.stage = .ended .keepalive then s.now else s.lastKeepaliveProbe, s.counts.keepalives⟩

def revalidations (s : DataLoop a) : Schedule :=
  ⟨s.lastPmtudRevalidation, s.counts.revalidations⟩

/-- Requests opened for statistics reports. -/
def reports (s : DataLoop a) : Schedule := ⟨s.lastH3StatsReport, s.requests.length⟩

def PingsEnabled (a : LoopArgs) : Prop := a.keepalivePeriod ≠ 0

def RevalidationsEnabled (a : LoopArgs) : Prop :=
  a.enablePmtud = true ∧ a.pmtudRevalidatePeriod ≠ 0

def ReportsEnabled (a : LoopArgs) : Prop := a.reportH3Stats = true

/-- One step of the pump as each schedule sees it. -/
structure Scheduled (s next : DataLoop a) : Prop where
  ordered : s.now ≤ next.now
  pings : Moves (PingsEnabled a) a.keepalivePeriod next.now s.pings next.pings
  revalidations : Moves (RevalidationsEnabled a) a.pmtudRevalidatePeriod next.now
    s.revalidations next.revalidations
  reports : Moves (ReportsEnabled a) meshH3StatsInterval next.now s.reports next.reports

/-- A step that the schedules do not notice. -/
theorem Scheduled.unnoticed (running : s.Running) (ordered : s.now ≤ next.now)
    (probe : next.lastKeepaliveProbe = s.lastKeepaliveProbe)
    (revalidated : next.lastPmtudRevalidation = s.lastPmtudRevalidation)
    (reported : next.lastH3StatsReport = s.lastH3StatsReport)
    (requests : next.requests = s.requests)
    (keepalives : next.counts.keepalives = s.counts.keepalives)
    (counted : next.counts.revalidations = s.counts.revalidations)
    (alive : next.stage ≠ .ended .keepalive) : Scheduled s next := by
  have pings : next.pings = s.pings := by
    rw [DataLoop.pings, DataLoop.pings, if_neg alive, if_neg (running _), probe, keepalives]
  have same : next.revalidations = s.revalidations := by
    rw [DataLoop.revalidations, DataLoop.revalidations, revalidated, counted]
  have opened : next.reports = s.reports := by
    rw [DataLoop.reports, DataLoop.reports, reported, requests]
  exact ⟨ordered, pings ▸ .rests _, same ▸ .rests _, opened ▸ .rests _⟩

/-! ## The steps -/

theorem receiveBatch_scheduled (running : s.Running) (inSelect : Bool) (batches : ℕ)
    (count : Option ℕ) : Scheduled s (s.receiveBatch inSelect batches count) := by
  obtain ⟨-, shape⟩ | ⟨size, received, -, -, ⟨-, shape⟩ | ⟨-, shape⟩ | ⟨-, shape⟩⟩ :=
    receiveBatch_cases s inSelect batches count <;> rw [shape] <;>
    exact .unnoticed running le_rfl rfl rfl rfl rfl rfl rfl nofun

theorem flushQuic_scheduled {onward : DataLoop a} (running : s.Running) (ok : Bool)
    (onward' : Scheduled s onward) : Scheduled s (s.flushQuic ok onward) := by
  cases ok with
  | true => exact onward'
  | false => exact .unnoticed running le_rfl rfl rfl rfl rfl rfl rfl nofun

theorem pollTunnel_scheduled (running : s.Running) (polls : List PollAnswer)
    (bodies : List BodyAnswer) : Scheduled s (s.pollTunnel polls bodies) := by
  unfold pollTunnel
  split <;> exact .unnoticed running le_rfl rfl rfl rfl rfl rfl rfl nofun

theorem applyPmtu_scheduled (running : s.Running) (pmtu writable : Option ℕ) (readable : Bool)
    (answers : TunAnswers) : Scheduled s (s.applyPmtu pmtu writable readable answers) := by
  obtain shape | shape | ⟨tunMtu, -, shape | ⟨error, shape⟩⟩ :=
    applyPmtu_cases s pmtu writable readable answers <;> rw [shape] <;>
    exact .unnoticed running le_rfl rfl rfl rfl rfl rfl rfl nofun

theorem checkLoop_scheduled (running : s.Running) (closed : Bool) :
    Scheduled s (s.checkLoop closed) := by
  obtain shape | ⟨-, shape⟩ | ⟨-, shape⟩ | ⟨-, shape⟩ := checkLoop_cases s closed <;> rw [shape] <;>
    exact .unnoticed running le_rfl rfl rfl rfl rfl rfl rfl nofun

/-- A report that is due moves its schedule, whether or not its request is opened. -/
theorem startReport_reports (start : StartAnswer) (past : s.lastH3StatsReport ≤ s.now) :
    Moves (ReportsEnabled a) meshH3StatsInterval s.now s.reports (s.startReport start).reports := by
  unfold startReport
  split
  · next due =>
    simp only [Bool.and_eq_true, decide_eq_true_eq] at due
    obtain ⟨⟨enabled, -⟩, interval⟩ := due
    cases start with
    | opened streamId body =>
      have fires : Moves (ReportsEnabled a) meshH3StatsInterval s.now s.reports _ :=
        .fires s.reports enabled (by
          simp only [reports, elapsed] at interval ⊢
          unfold Instant Duration at *
          omega)
      simpa [reports, startH3StatsReport] using fires
    | noPath | failed =>
      have misses : Moves (ReportsEnabled a) meshH3StatsInterval s.now s.reports _ :=
        .misses s.reports past
      simpa [reports, startH3StatsReport] using misses
  · exact .rests _

theorem reportStats_scheduled (running : s.Running) (start : StartAnswer) (sent : SendBodyAnswer)
    (past : s.lastH3StatsReport ≤ s.now) : Scheduled s (s.reportStats start sent) := by
  have opened := startReport_reports start past
  have kept : (s.startReport start).now = s.now ∧
      (s.startReport start).lastKeepaliveProbe = s.lastKeepaliveProbe ∧
      (s.startReport start).revalidations = s.revalidations ∧
      (s.startReport start).counts = s.counts := by
    unfold startReport
    split <;> exact ⟨rfl, rfl, rfl, rfl⟩
  obtain ⟨now, probe, revalidated, counts⟩ := kept
  have goesOn (stage : Stage) (report : Option PendingH3StatsReport)
      (alive : stage ≠ .ended .keepalive) :
      Scheduled s { s.startReport start with stage, pendingH3StatsReport := report } := by
    refine ⟨now.ge, ?_, ?_, ?_⟩
    · have pings : ({ s.startReport start with stage, pendingH3StatsReport := report } :
          DataLoop a).pings = s.pings := by
        simp only [DataLoop.pings, if_neg alive, if_neg (running _), probe, counts]
      exact pings ▸ .rests _
    · have same : ({ s.startReport start with stage, pendingH3StatsReport := report } :
          DataLoop a).revalidations = s.revalidations := revalidated
      exact same ▸ .rests _
    · simp only [now]
      exact opened
  unfold reportStats
  dsimp only
  split
  · exact goesOn .flushReport _ nofun
  · exact goesOn .applyPmtu _ nofun

/-! ## The timers -/

theorem due_of_keepaliveWait (due : s.keepaliveWait = some 0) :
    PingsEnabled a ∧ s.lastKeepaliveProbe + a.keepalivePeriod ≤ s.now := by
  obtain ⟨enabled, passed⟩ := (keepalive_due_iff _ _).mp due
  refine ⟨enabled, ?_⟩
  unfold elapsed Instant Duration at *
  omega

theorem due_of_pmtudWait (due : s.pmtudWait = some 0) :
    RevalidationsEnabled a ∧ s.lastPmtudRevalidation + a.pmtudRevalidatePeriod ≤ s.now := by
  obtain ⟨enabled, period, passed⟩ := (pmtud_due_iff _ _ _).mp due
  refine ⟨⟨enabled, period⟩, ?_⟩
  unfold elapsed Instant Duration at *
  omega

/-- A probe that is due counts, also the one whose failure ends the loop. -/
theorem sendAckEliciting_pings (running : s.Running) (probed : Bool) :
    Moves (PingsEnabled a) a.keepalivePeriod s.now s.pings (s.sendAckEliciting probed).pings := by
  unfold sendAckEliciting
  split
  · next due =>
    obtain ⟨enabled, passed⟩ := due_of_keepaliveWait due
    have fires : Moves (PingsEnabled a) a.keepalivePeriod s.now s.pings _ := .fires s.pings enabled (by
      simpa only [pings, if_neg (running _)] using passed)
    cases probed with
    | true => simpa [pings, running] using fires
    | false => simpa [pings, fail] using fires
  · exact .rests _

theorem revalidatePmtu_revalidations :
    Moves (RevalidationsEnabled a) a.pmtudRevalidatePeriod s.now s.revalidations
      s.revalidatePmtu.revalidations := by
  unfold revalidatePmtu
  split
  · next due =>
    obtain ⟨enabled, passed⟩ := due_of_pmtudWait due
    exact .fires _ enabled passed
  · exact .rests _

theorem sendAckEliciting_frame (probed : Bool) :
    (s.sendAckEliciting probed).now = s.now ∧
      (s.sendAckEliciting probed).revalidations = s.revalidations ∧
      (s.sendAckEliciting probed).reports = s.reports := by
  unfold sendAckEliciting
  split
  · cases probed <;> exact ⟨rfl, rfl, rfl⟩
  · exact ⟨rfl, rfl, rfl⟩

theorem revalidatePmtu_frame :
    s.revalidatePmtu.now = s.now ∧ s.revalidatePmtu.pings = s.pings ∧
      s.revalidatePmtu.reports = s.reports := by
  unfold revalidatePmtu
  split <;> exact ⟨rfl, rfl, rfl⟩

theorem onTimeout_frame (due : Bool) (rearmed : Option Instant) :
    (s.onTimeout due rearmed).now = s.now ∧ (s.onTimeout due rearmed).stage = s.stage ∧
      (s.onTimeout due rearmed).pings = s.pings ∧
      (s.onTimeout due rearmed).revalidations = s.revalidations ∧
      (s.onTimeout due rearmed).reports = s.reports := by
  cases due <;> exact ⟨rfl, rfl, rfl, rfl, rfl⟩

theorem runTimers_scheduled (running : s.Running) (due probed : Bool) (rearmed : Option Instant) :
    Scheduled s (s.runTimers due probed rearmed) := by
  obtain ⟨now, stage, pings, revalidated, reported⟩ := onTimeout_frame (s := s) due rearmed
  have woken : (s.onTimeout due rearmed).Running := fun error => stage ▸ running error
  obtain ⟨sentNow, sentRevalidated, sentReported⟩ :=
    sendAckEliciting_frame (s := s.onTimeout due rearmed) probed
  obtain ⟨lastNow, lastPings, lastReported⟩ :=
    revalidatePmtu_frame (s := (s.onTimeout due rearmed).sendAckEliciting probed)
  have probe := sendAckEliciting_pings woken probed
  have valid := revalidatePmtu_revalidations (s := (s.onTimeout due rearmed).sendAckEliciting probed)
  rw [pings] at probe
  rw [sentRevalidated, revalidated, sentNow] at valid
  rw [sentNow] at lastNow
  rw [sentReported, reported] at lastReported
  unfold runTimers
  dsimp only
  split
  · exact ⟨by rw [sentNow, now], by rw [sentNow]; exact probe,
      by rw [sentNow, sentRevalidated, revalidated]; exact .rests _,
      by rw [sentNow, sentReported, reported]; exact .rests _⟩
  · next onward =>
    -- no probe has failed, so the schedule of the PINGs does not depend on the stage
    have alive : ∀ error,
        ((s.onTimeout due rearmed).sendAckEliciting probed).revalidatePmtu.stage ≠ .ended error := by
      intro error
      have kept : ((s.onTimeout due rearmed).sendAckEliciting probed).stage =
          (s.onTimeout due rearmed).stage := by
        unfold sendAckEliciting
        split
        · next probing =>
          cases probed with
          | true => rfl
          | false => exact absurd ⟨probing, rfl⟩ onward
        · rfl
      have same : ((s.onTimeout due rearmed).sendAckEliciting probed).revalidatePmtu.stage =
          ((s.onTimeout due rearmed).sendAckEliciting probed).stage := by
        unfold revalidatePmtu
        split <;> rfl
      rw [same, kept]
      exact woken error
    generalize ((s.onTimeout due rearmed).sendAckEliciting probed).revalidatePmtu = after at *
    have goesOn (stage : Stage) (counts : Counts) (other : stage ≠ .ended .keepalive)
        (same : counts.keepalives = after.counts.keepalives)
        (counted : counts.revalidations = after.counts.revalidations) :
        Scheduled s { after with stage, counts } := by
      have quiet : ({ after with stage, counts } : DataLoop a).pings = after.pings := by
        simp only [DataLoop.pings, if_neg other, if_neg (alive _), same]
      have still : ({ after with stage, counts } : DataLoop a).revalidations =
          after.revalidations := by
        simp only [DataLoop.revalidations, counted]
      refine ⟨by simp only [lastNow, now, le_rfl], ?_, ?_, ?_⟩
      · rw [quiet, lastPings]
        simpa only [lastNow] using probe
      · rw [still]
        simpa only [lastNow] using valid
      · have opened : ({ after with stage, counts } : DataLoop a).reports = s.reports := lastReported
        rw [opened]
        exact .rests _
    split
    · exact goesOn .flushTimers after.counts nofun rfl rfl
    · exact goesOn (.receive false 0) _ nofun rfl rfl

/-! ## The runs -/

theorem step_scheduled (past : s.lastH3StatsReport ≤ s.now) (stepped : step s label = some next) :
    Scheduled s next := by
  obtain ⟨running, called⟩ := step_called stepped
  have onward (stage : Stage) (other : stage ≠ .ended .keepalive) :
      Scheduled s { s with stage } :=
    .unnoticed running le_rfl rfl rfl rfl rfl rfl rfl other
  have again (up : Uplink a) : Scheduled s ({ s with up } : DataLoop a).nextIteration :=
    .unnoticed running le_rfl rfl rfl rfl rfl rfl rfl nofun
  cases called with
  | reader op up moved => exact .unnoticed running le_rfl rfl rfl rfl rfl rfl rfl (running _)
  | tick passed =>
    exact .unnoticed running (Int.le_add_of_nonneg_right (Int.natCast_nonneg passed)) rfl rfl rfl
      rfl rfl rfl (running _)
  | rearm deadline => exact .unnoticed running le_rfl rfl rfl rfl rfl rfl rfl (running _)
  | batch inSelect batches count here fits =>
    exact receiveBatch_scheduled running inSelect batches count
  | flushReceived ok here => exact flushQuic_scheduled running ok (onward .poll nofun)
  | flushReport ok here => exact flushQuic_scheduled running ok (onward .applyPmtu nofun)
  | flushTx ok here => exact flushQuic_scheduled running ok (onward .check nofun)
  | flushTimers ok here => exact flushQuic_scheduled running ok (again s.up)
  | polled polls bodies here => exact pollTunnel_scheduled running polls bodies
  | drained answers here => exact .unnoticed running le_rfl rfl rfl rfl rfl rfl rfl nofun
  | reported start sent here => exact reportStats_scheduled running start sent past
  | pathMtu pmtu writable readable answers here =>
    exact applyPmtu_scheduled running pmtu writable readable answers
  | drainTx taken here =>
    obtain ⟨up, -, shape⟩ | ⟨up, -, shape⟩ | shape := drainTx_cases s taken <;> rw [shape] <;>
      exact .unnoticed running le_rfl rfl rfl rfl rfl rfl rfl nofun
  | popTx here idle =>
    obtain ⟨up, -, shape⟩ | shape := popTx_cases s <;> rw [shape]
    · exact .unnoticed running le_rfl rfl rfl rfl rfl rfl rfl (running _)
    · exact onward .returnIcmp nofun
  | returnIcmp here =>
    refine .unnoticed running le_rfl rfl rfl rfl rfl rfl rfl ?_
    unfold returnIcmp
    dsimp only
    split <;> nofun
  | settled answer fate up here judged =>
    refine .unnoticed running le_rfl rfl rfl rfl rfl rfl rfl ?_
    dsimp only
    split <;> nofun
  | checked closed here => exact checkLoop_scheduled running closed
  | readable ok timeout due since here =>
    cases ok with
    | true => exact onward (.receive true 0) nofun
    | false => exact onward (.ended .udp) nofun
  | pulled up timeout due since here moved => exact again up
  | noticed up timeout due since here moved => exact again up
  | slept probed rearmed timeout due since here waited =>
    exact runTimers_scheduled running due probed rearmed

/-- The three schedules since a state of the run. -/
structure OnSchedule (first s : DataLoop a) : Prop where
  pings : Since (PingsEnabled a) a.keepalivePeriod first.pings first.now s.pings s.now
  revalidations : Since (RevalidationsEnabled a) a.pmtudRevalidatePeriod first.revalidations
    first.now s.revalidations s.now
  reports : Since (ReportsEnabled a) meshH3StatsInterval first.reports first.now s.reports s.now

theorem step_onSchedule {first : DataLoop a} (since : OnSchedule first s)
    (stepped : step s label = some next) : OnSchedule first next := by
  have moved := step_scheduled since.reports.past stepped
  exact ⟨since.pings.moves moved.ordered moved.pings,
    since.revalidations.moves moved.ordered moved.revalidations,
    since.reports.moves moved.ordered moved.reports⟩

theorem reachable_onSchedule {first : DataLoop a} (pings : first.pings.last ≤ first.now)
    (revalidations : first.lastPmtudRevalidation ≤ first.now)
    (reports : first.lastH3StatsReport ≤ first.now)
    (reached : Transition.Reachable step first s) : OnSchedule first s :=
  reached.invariant (OnSchedule first) (fun _ _ _ since stepped => step_onSchedule since stepped)
    ⟨.begin pings, .begin revalidations, .begin reports⟩

/-- Between any two moments of a session there are at most one PING, one revalidation and one
statistics request more than the periods that fit; the PINGs and the revalidations are a
period away from the start of the session too, and what is switched off never fires. -/
theorem timers_keep_their_periods (a : LoopArgs) (stats : TxStats) (device : TunRsDevice)
    (now : Instant) (quicDeadline : Option Instant) {entered middle later : DataLoop a}
    (started : start a stats device now quicDeadline = some entered)
    (before : Transition.Reachable step entered middle)
    (after : Transition.Reachable step middle later) :
    ((later.counts.keepalives - middle.counts.keepalives - 1) * a.keepalivePeriod ≤
        elapsed middle.now later.now ∧
      (later.counts.revalidations - middle.counts.revalidations - 1) * a.pmtudRevalidatePeriod ≤
        elapsed middle.now later.now ∧
      (later.requests.length - middle.requests.length - 1) * meshH3StatsInterval ≤
        elapsed middle.now later.now) ∧
    (later.counts.keepalives * a.keepalivePeriod ≤ elapsed now later.now ∧
      later.counts.revalidations * a.pmtudRevalidatePeriod ≤ elapsed now later.now) ∧
    (a.keepalivePeriod = 0 → later.counts.keepalives = 0) ∧
    (a.enablePmtud = false ∨ a.pmtudRevalidatePeriod = 0 → later.counts.revalidations = 0) ∧
    (a.reportH3Stats = false → later.requests = []) := by
  obtain ⟨free, -, entry⟩ := start_eq a stats device now quicDeadline
  obtain rfl := Option.some.inj (started.symm.trans entry)
  have reportPast : now - meshH3StatsInterval ≤ now := by
    have positive : (0 : ℤ) ≤ meshH3StatsInterval := Int.natCast_nonneg _
    unfold Instant at *
    omega
  have session := reachable_onSchedule le_rfl le_rfl reportPast (before.trans after)
  have upToMiddle := reachable_onSchedule le_rfl le_rfl reportPast before
  have stretch := reachable_onSchedule upToMiddle.pings.past upToMiddle.revalidations.past
    upToMiddle.reports.past after
  refine ⟨⟨stretch.pings.stretch_le, stretch.revalidations.stretch_le, stretch.reports.stretch_le⟩,
    ⟨session.pings.count_le, session.revalidations.count_le⟩, ?_, ?_, ?_⟩
  · intro disabled
    exact session.pings.idle fun enabled => enabled disabled
  · intro disabled
    refine session.revalidations.idle fun enabled => ?_
    rcases disabled with off | none
    · exact Bool.false_ne_true (off.symm.trans enabled.1)
    · exact enabled.2 none
  · intro disabled
    have none := session.reports.idle fun enabled => Bool.false_ne_true (disabled.symm.trans enabled)
    exact List.eq_nil_of_length_eq_zero none

/-- A session that has sent one PING is at least one period old. -/
theorem timers_keep_their_periods_small :
    ∃ s : DataLoop smallArgs, s.counts.keepalives = 1 ∧
      smallArgs.keepalivePeriod ≤ elapsed 0 s.now := by
  obtain ⟨first, s, started, reached, pinged⟩ := execute_reaches smallArgs smallDevice
    (.tick smallArgs.keepalivePeriod :: idleLabels ++ [.pump .proceed, .pump .proceed,
      .pump .proceed, .pump (.checked false), .pump (.slept true none)])
    (fun s => decide (s.counts.keepalives = 1)) (by decide)
  have once := of_decide_eq_true pinged
  have spaced := (timers_keep_their_periods smallArgs {} smallDevice 0 none started .refl
    reached).2.1.1
  rw [once, Nat.one_mul] at spaced
  exact ⟨s, once, spaced⟩

end Usque.DataLoop
