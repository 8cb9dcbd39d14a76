import Usque.Lib.Transition
import Usque.DataLoop
import Usque.UplinkSteps

/-! What a step of the pump can be, said once: which call it is, in which stage
it is made, and which parts of the state each call leaves alone. -/
namespace Usque.DataLoop

open Packet Uplink Http3 NativeTun Timing

variable {a : LoopArgs} {s next : DataLoop a} {label : Label}

/-- The call behind a label, with the stage that makes it. -/
inductive Called (s : DataLoop a) : Label → DataLoop a → Prop where
  | reader (op : ReaderOp) (up : Uplink a) (moved : Uplink.step s.up op.action = some up) :
      Called s (.reader op) { s with up := up }
  | tick (passed : Duration) : Called s (.tick passed) { s with now := s.now + passed }
  | rearm (deadline : Option Instant) :
      Called s (.rearm deadline) { s with quicDeadline := deadline }
  | batch (inSelect : Bool) (batches : ℕ) (count : Option ℕ)
      (here : s.stage = .receive inSelect batches) (fits : ∀ size ∈ count, size ≤ a.batchSize) :
      Called s (.pump (.batch count)) (s.receiveBatch inSelect batches count)
  | flushReceived (ok : Bool) (here : s.stage = .flushReceived) :
      Called s (.pump (.flushed ok)) (s.flushQuic ok { s with stage := .poll })
  | flushReport (ok : Bool) (here : s.stage = .flushReport) :
      Called s (.pump (.flushed ok)) (s.flushQuic ok { s with stage := .applyPmtu })
  | flushTx (ok : Bool) (here : s.stage = .flushTx) :
      Called s (.pump (.flushed ok)) (s.flushQuic ok { s with stage := .check })
  | flushTimers (ok : Bool) (here : s.stage = .flushTimers) :
      Called s (.pump (.flushed ok)) (s.flushQuic ok s.nextIteration)
  | polled (polls : List PollAnswer) (bodies : List BodyAnswer) (here : s.stage = .poll) :
      Called s (.pump (.polled polls bodies)) (s.pollTunnel polls bodies)
  | drained (answers : List RecvAnswer) (here : s.stage = .drain) :
      Called s (.pump (.drained answers)) (s.drainDatagrams answers)
  | reported (start : StartAnswer) (sent : SendBodyAnswer) (here : s.stage = .report) :
      Called s (.pump (.reported start sent)) (s.reportStats start sent)
  | pathMtu (pmtu writable : Option ℕ) (readable : Bool) (answers : TunAnswers)
      (here : s.stage = .applyPmtu) :
      Called s (.pump (.pathMtu pmtu writable readable answers))
        (s.applyPmtu pmtu writable readable answers)
  | drainTx (taken : ℕ) (here : s.stage = .drainChannel taken) :
      Called s (.pump .proceed) (s.drainTx taken)
  | popTx (here : s.stage = .queueTx) (idle : s.up.held = none) :
      Called s (.pump .proceed) s.popTx
  | returnIcmp (here : s.stage = .returnIcmp) : Called s (.pump .proceed) s.returnIcmp
  | settled (answer : TxAnswer) (fate : Fate) (up : Uplink a) (here : s.stage = .queueTx)
      (judged : s.up.settle s.device.mtu answer = some (fate, up)) :
      Called s (.pump (.settled answer)) { s with
        up := up
        progress := s.progress.record fate
        stage := if fate = .refused then .returnIcmp else .queueTx }
  | checked (closed : Bool) (here : s.stage = .check) :
      Called s (.pump (.checked closed)) (s.checkLoop closed)
  | readable (ok : Bool) (timeout : Duration) (due : Bool) (since : Instant)
      (here : s.stage = .select timeout due since) :
      Called s (.pump (.readable ok))
        (if ok then { s with stage := .receive true 0 } else s.fail .udp)
  | pulled (up : Uplink a) (timeout : Duration) (due : Bool) (since : Instant)
      (here : s.stage = .select timeout due since) (moved : s.up.pull = some up) :
      Called s (.pump .received) { s with up := up }.nextIteration
  | noticed (up : Uplink a) (timeout : Duration) (due : Bool) (since : Instant)
      (here : s.stage = .select timeout due since) (moved : s.up.noticeClosed = some up) :
      Called s (.pump .received) { s with up := up }.nextIteration
  | slept (probed : Bool) (rearmed : Option Instant) (timeout : Duration) (due : Bool)
      (since : Instant) (here : s.stage = .select timeout due since)
      (waited : since + timeout ≤ s.now) :
      Called s (.pump (.slept probed rearmed)) (s.runTimers due probed rearmed)

private theorem pump_called {input : Input} (moved : s.pump input = some next) :
    Called s (.pump input) next := by
  cases input with
  | batch count =>
    simp only [pump] at moved
    split at moved
    · rename_i inSelect batches here
      split at moved
      · cases moved; exact .batch inSelect batches count here ‹_›
      · cases moved
    · cases moved
  | flushed ok =>
    simp only [pump] at moved
    split at moved <;> cases moved
    · exact .flushReceived ok ‹_›
    · exact .flushReport ok ‹_›
    · exact .flushTx ok ‹_›
    · exact .flushTimers ok ‹_›
  | polled polls bodies =>
    simp only [pump] at moved
    split at moved <;> cases moved
    exact .polled polls bodies ‹_›
  | drained answers =>
    simp only [pump] at moved
    split at moved <;> cases moved
    exact .drained answers ‹_›
  | reported start sent =>
    simp only [pump] at moved
    split at moved <;> cases moved
    exact .reported start sent ‹_›
  | pathMtu pmtu writable readable answers =>
    simp only [pump] at moved
    split at moved <;> cases moved
    exact .pathMtu pmtu writable readable answers ‹_›
  | proceed =>
    simp only [pump] at moved
    split at moved
    · cases moved; exact .drainTx _ ‹_›
    · split at moved <;> cases moved
      exact .popTx ‹_› ‹_›
    · cases moved; exact .returnIcmp ‹_›
    · cases moved
  | settled answer =>
    simp only [pump, settleTx] at moved
    split at moved
    · obtain ⟨⟨fate, up⟩, judged, rfl⟩ := Option.map_eq_some_iff.mp moved
      exact .settled answer fate up ‹_› judged
    · cases moved
  | checked closed =>
    simp only [pump] at moved
    split at moved <;> cases moved
    exact .checked closed ‹_›
  | readable ok =>
    simp only [pump] at moved
    split at moved <;> cases moved
    exact .readable ok _ _ _ ‹_›
  | received =>
    simp only [pump, selectRecv] at moved
    split at moved
    · rename_i timeout due since here
      split at moved
      · split at moved
        · rename_i up pulled
          cases moved
          exact .pulled up timeout due since here pulled
        · obtain ⟨up, noticed, rfl⟩ := Option.map_eq_some_iff.mp moved
          exact .noticed up timeout due since here noticed
      · cases moved
    · cases moved
  | slept probed rearmed =>
    simp only [pump] at moved
    split at moved
    · rename_i timeout due since here
      split at moved <;> cases moved
      exact .slept probed rearmed timeout due since here ‹_›
    · cases moved

/-- Every step is one of the calls, made while the pump runs. -/
theorem step_called (stepped : step s label = some next) : s.Running ∧ Called s label next := by
  unfold step at stepped
  split at stepped
  · rename_i running
    refine ⟨running, ?_⟩
    cases label with
    | reader op =>
      obtain ⟨up, moved, rfl⟩ := Option.map_eq_some_iff.mp stepped
      exact .reader op up moved
    | pump input => exact pump_called stepped
    | tick passed => cases stepped; exact .tick passed
    | rearm deadline => cases stepped; exact .rearm deadline
  · cases stepped

/-! ## What the calls leave alone -/

/-- The upload path and the device do not change. -/
structure Untouched (s next : DataLoop a) : Prop where
  up : next.up = s.up
  device : next.device = s.device
  moments : next.moments = s.moments

theorem nextIteration_untouched : Untouched s s.nextIteration := ⟨rfl, rfl, rfl⟩

/-- A drain fails, goes on after a full batch, or hands over to the next stage. -/
theorem receiveBatch_cases (s : DataLoop a) (inSelect : Bool) (batches : ℕ) (count : Option ℕ) :
    (count = none ∧ s.receiveBatch inSelect batches count = s.fail .udp) ∨
    ∃ size received, count = some size ∧
      received = s.counts.batches + (if size = 0 then 0 else 1) ∧
      let after := { s with counts := { s.counts with batches := received } }
      (size ≠ 0 ∧ s.receiveBatch inSelect batches count =
        { after with stage := .receive inSelect (batches + 1) }) ∨
      (inSelect = true ∧ s.receiveBatch inSelect batches count = after.nextIteration) ∨
      (inSelect = false ∧ s.receiveBatch inSelect batches count =
        { after with stage := .flushReceived }) := by
  cases count with
  | none => exact .inl ⟨rfl, rfl⟩
  | some size =>
    refine .inr ⟨size, _, rfl, rfl, ?_⟩
    by_cases empty : size = 0
    · cases inSelect <;> simp [receiveBatch, empty]
    · cases inSelect <;> by_cases full : a.batchSize ≤ size <;> simp [receiveBatch, empty, full]

theorem receiveBatch_untouched (inSelect : Bool) (batches : ℕ) (count : Option ℕ) :
    Untouched s (s.receiveBatch inSelect batches count) := by
  obtain ⟨-, shape⟩ | ⟨size, received, -, -, ⟨-, shape⟩ | ⟨-, shape⟩ | ⟨-, shape⟩⟩ :=
    receiveBatch_cases s inSelect batches count <;> rw [shape] <;> exact ⟨rfl, rfl, rfl⟩

theorem flushQuic_untouched {onward : DataLoop a} (ok : Bool) (same : Untouched s onward) :
    Untouched s (s.flushQuic ok onward) := by
  unfold flushQuic
  split
  · exact same
  · exact ⟨rfl, rfl, rfl⟩

theorem pollTunnel_untouched (polls : List PollAnswer) (bodies : List BodyAnswer) :
    Untouched s (s.pollTunnel polls bodies) := by
  unfold pollTunnel
  split <;> exact ⟨rfl, rfl, rfl⟩

theorem reportStats_untouched (start : StartAnswer) (sent : SendBodyAnswer) :
    Untouched s (s.reportStats start sent) := by
  have opened : Untouched s (s.startReport start) := by
    unfold startReport
    split <;> exact ⟨rfl, rfl, rfl⟩
  unfold reportStats
  dsimp only
  split <;> exact ⟨opened.up, opened.device, opened.moments⟩

/-- The loop ends, starts over at once, or waits. -/
theorem checkLoop_cases (s : DataLoop a) (closed : Bool) :
    s.checkLoop closed = s.fail .closed ∨
    ((s.up.tunReaderClosed = true ∧ s.up.txQueue = []) ∧
      s.checkLoop closed = s.fail .tunReaderEnded) ∨
    (s.busy = true ∧ s.checkLoop closed = s.nextIteration) ∨
    (s.busy = false ∧ s.checkLoop closed = { s with
      stage := .select s.selectTimeout
        (s.quicTimeout.any fun quic => decide (quic ≤ s.selectTimeout)) s.now }) := by
  unfold checkLoop
  split
  · exact .inl rfl
  · split
    · exact .inr (.inl ⟨‹_›, rfl⟩)
    · split
      · exact .inr (.inr (.inl ⟨‹_›, rfl⟩))
      · rename_i waits
        exact .inr (.inr (.inr ⟨Bool.eq_false_iff.mpr waits, rfl⟩))

theorem checkLoop_untouched (closed : Bool) : Untouched s (s.checkLoop closed) := by
  obtain shape | ⟨-, shape⟩ | ⟨-, shape⟩ | ⟨-, shape⟩ := checkLoop_cases s closed <;> rw [shape] <;>
    exact ⟨rfl, rfl, rfl⟩

/-- A failed probe ends the loop; otherwise every timer that was due has fired. -/
theorem runTimers_cases (s : DataLoop a) (due probed : Bool) (rearmed : Option Instant) :
    ((s.onTimeout due rearmed).keepaliveWait = some 0 ∧ probed = false ∧
      s.runTimers due probed rearmed = (s.onTimeout due rearmed).sendAckEliciting probed) ∨
    let after := ((s.onTimeout due rearmed).sendAckEliciting probed).revalidatePmtu
    s.runTimers due probed rearmed = { after with stage := .flushTimers } ∨
      s.runTimers due probed rearmed = after.nextIteration := by
  unfold runTimers
  dsimp only
  split
  · rename_i failed
    exact .inl ⟨failed.1, failed.2, rfl⟩
  · split
    · exact .inr (.inl rfl)
    · exact .inr (.inr rfl)

theorem onTimeout_shape (s : DataLoop a) (due : Bool) (rearmed : Option Instant) :
    ∃ quicDeadline counts, s.onTimeout due rearmed = { s with quicDeadline, counts } := by
  cases due <;> exact ⟨_, _, rfl⟩

theorem sendAckEliciting_shape (s : DataLoop a) (probed : Bool) :
    ∃ counts lastKeepaliveProbe stage,
      s.sendAckEliciting probed = { s with counts, lastKeepaliveProbe, stage } := by
  unfold sendAckEliciting
  split
  · cases probed <;> exact ⟨_, _, _, rfl⟩
  · exact ⟨_, _, _, rfl⟩

theorem revalidatePmtu_shape (s : DataLoop a) :
    ∃ counts lastPmtudRevalidation appliedPmtu,
      s.revalidatePmtu = { s with counts, lastPmtudRevalidation, appliedPmtu } := by
  unfold revalidatePmtu
  split <;> exact ⟨_, _, _, rfl⟩

/-- The timers move their own instants and counts, and the stage. -/
theorem runTimers_shape (s : DataLoop a) (due probed : Bool) (rearmed : Option Instant) :
    ∃ quicDeadline counts lastKeepaliveProbe lastPmtudRevalidation appliedPmtu stage,
      s.runTimers due probed rearmed = { s with
        quicDeadline, counts, lastKeepaliveProbe, lastPmtudRevalidation, appliedPmtu, stage } := by
  obtain ⟨_, _, fired⟩ := onTimeout_shape s due rearmed
  obtain ⟨_, _, _, sent⟩ := sendAckEliciting_shape (s.onTimeout due rearmed) probed
  obtain ⟨_, _, _, reset⟩ :=
    revalidatePmtu_shape ((s.onTimeout due rearmed).sendAckEliciting probed)
  obtain ⟨-, -, shape⟩ | shape | shape := runTimers_cases s due probed rearmed
  · rw [shape, sent, fired]
    exact ⟨_, _, _, _, _, _, rfl⟩
  · rw [shape, reset, sent, fired]
    exact ⟨_, _, _, _, _, _, rfl⟩
  · rw [shape, reset, sent, fired]
    exact ⟨_, _, _, _, _, _, rfl⟩

theorem runTimers_untouched (due probed : Bool) (rearmed : Option Instant) :
    Untouched s (s.runTimers due probed rearmed) := by
  obtain ⟨quicDeadline, counts, keepalive, revalidation, appliedPmtu, stage, shape⟩ :=
    runTimers_shape s due probed rearmed
  rw [shape]
  exact ⟨rfl, rfl, rfl⟩

/-- The path MTU is let be, cannot be compared with the device's, or is put to the device,
which takes it or fails. -/
theorem applyPmtu_cases (s : DataLoop a) (pmtu writable : Option ℕ) (readable : Bool)
    (answers : TunAnswers) :
    s.applyPmtu pmtu writable readable answers = { s with stage := .drainChannel 0 } ∨
    s.applyPmtu pmtu writable readable answers = s.fail (.device .readMtu) ∨
    ∃ tunMtu, discoveredTunMtu pmtu writable a.flowPrefix.length a.maxTunMtu = some tunMtu ∧
      let call := s.device.applyPathMtu tunMtu true answers
      let called := { s with device := call.state, moments := s.moments ++ call.moments }
      s.applyPmtu pmtu writable readable answers =
          { called with stage := .drainChannel 0, appliedPmtu := pmtu } ∨
        ∃ error, s.applyPmtu pmtu writable readable answers = called.fail (.device error) := by
  unfold applyPmtu
  dsimp only
  split
  · exact .inl rfl
  · split
    · exact .inl rfl
    · rename_i tunMtu discovered
      split
      · exact .inr (.inl rfl)
      · refine .inr (.inr ⟨tunMtu, discovered, ?_⟩)
        split
        · exact .inl rfl
        · exact .inr ⟨_, rfl⟩

theorem applyPmtu_up (pmtu writable : Option ℕ) (readable : Bool) (answers : TunAnswers) :
    (s.applyPmtu pmtu writable readable answers).up = s.up := by
  obtain shape | shape | ⟨tunMtu, -, shape | ⟨error, shape⟩⟩ :=
    applyPmtu_cases s pmtu writable readable answers <;> rw [shape] <;> rfl

/-- One turn of the channel drain moves a datagram, notices the closed channel,
or leaves the upload path alone. -/
theorem drainTx_cases (s : DataLoop a) (taken : ℕ) :
    (∃ up, s.up.pull = some up ∧
      s.drainTx taken = { s with up := up, stage := .drainChannel (taken + 1) }) ∨
    (∃ up, s.up.noticeClosed = some up ∧ s.drainTx taken = { s with
      up := up
      stage := .queueTx
      progress := TxProgress.none }) ∨
    s.drainTx taken = { s with stage := .queueTx, progress := TxProgress.none } := by
  unfold drainTx
  dsimp only
  split
  · exact .inr (.inr rfl)
  · split
    · rename_i up pulled
      exact .inl ⟨up, pulled, rfl⟩
    · split
      · rename_i up noticed
        exact .inr (.inl ⟨up, noticed, rfl⟩)
      · exact .inr (.inr rfl)

/-- The head of `queue_tx_datagrams` pops an item or ends its loop. -/
theorem popTx_cases (s : DataLoop a) :
    (∃ up, s.up.pop = some up ∧ s.popTx = { s with up := up }) ∨
      s.popTx = { s with stage := .returnIcmp } := by
  unfold popTx
  split
  · split
    · rename_i up popped
      exact .inl ⟨up, popped, rfl⟩
    · exact .inr rfl
  · exact .inr rfl

/-- A step is at most one operation of the upload path. -/
theorem step_up (stepped : step s label = some next) :
    next.up = s.up ∨ ∃ action, Uplink.step s.up action = some next.up := by
  cases (step_called stepped).2 with
  | reader op up moved => exact .inr ⟨op.action, moved⟩
  | tick passed => exact .inl rfl
  | rearm deadline => exact .inl rfl
  | batch inSelect batches count _ _ =>
    exact .inl (receiveBatch_untouched inSelect batches count).up
  | flushReceived ok _ => exact .inl (flushQuic_untouched ok ⟨rfl, rfl, rfl⟩).up
  | flushReport ok _ => exact .inl (flushQuic_untouched ok ⟨rfl, rfl, rfl⟩).up
  | flushTx ok _ => exact .inl (flushQuic_untouched ok ⟨rfl, rfl, rfl⟩).up
  | flushTimers ok _ => exact .inl (flushQuic_untouched ok nextIteration_untouched).up
  | polled polls bodies _ => exact .inl (pollTunnel_untouched polls bodies).up
  | drained answers _ => exact .inl rfl
  | reported start sent _ => exact .inl (reportStats_untouched start sent).up
  | pathMtu pmtu writable readable answers _ =>
    exact .inl (applyPmtu_up pmtu writable readable answers)
  | drainTx taken _ =>
    obtain ⟨up, moved, shape⟩ | ⟨up, moved, shape⟩ | shape := drainTx_cases s taken <;> rw [shape]
    · exact .inr ⟨.pull, moved⟩
    · exact .inr ⟨.noticeClosed, moved⟩
    · exact .inl rfl
  | popTx _ _ =>
    obtain ⟨up, moved, shape⟩ | shape := popTx_cases s <;> rw [shape]
    · exact .inr ⟨.pop, moved⟩
    · exact .inl rfl
  | returnIcmp _ => exact .inl rfl
  | settled answer fate up _ judged =>
    refine .inr ⟨.settle s.device.mtu answer, ?_⟩
    simp only [Uplink.step, judged, Option.map_some]
  | checked closed _ => exact .inl (checkLoop_untouched closed).up
  | readable ok timeout due since _ => cases ok <;> exact .inl rfl
  | pulled up timeout due since _ moved => exact .inr ⟨.pull, moved⟩
  | noticed up timeout due since _ moved => exact .inr ⟨.noticeClosed, moved⟩
  | slept probed rearmed timeout due since _ _ =>
    exact .inl (runTimers_untouched due probed rearmed).up

/-- The path MTU either leaves the device alone or makes one call of
`apply_path_mtu` within the ceiling. -/
theorem applyPmtu_device (pmtu writable : Option ℕ) (readable : Bool) (answers : TunAnswers) :
    let after := s.applyPmtu pmtu writable readable answers
    (after.device = s.device ∧ after.moments = s.moments) ∨
      ∃ mtu ≤ a.maxTunMtu, after.device = (s.device.applyPathMtu mtu true answers).state ∧
        after.moments = s.moments ++ (s.device.applyPathMtu mtu true answers).moments := by
  dsimp only
  obtain shape | shape | ⟨tunMtu, discovered, shape | ⟨error, shape⟩⟩ :=
    applyPmtu_cases s pmtu writable readable answers <;> rw [shape]
  · exact .inl ⟨rfl, rfl⟩
  · exact .inl ⟨rfl, rfl⟩
  · exact .inr ⟨tunMtu, discoveredTunMtu_le discovered, rfl, rfl⟩
  · exact .inr ⟨tunMtu, discoveredTunMtu_le discovered, rfl, rfl⟩

/-- A step makes at most one call of `apply_path_mtu`, within the ceiling. -/
theorem step_device (stepped : step s label = some next) :
    (next.device = s.device ∧ next.moments = s.moments) ∨
      ∃ mtu ≤ a.maxTunMtu, ∃ answers,
        next.device = (s.device.applyPathMtu mtu true answers).state ∧
        next.moments = s.moments ++ (s.device.applyPathMtu mtu true answers).moments := by
  have untouched (same : Untouched s next) :
      (next.device = s.device ∧ next.moments = s.moments) ∨
        ∃ mtu ≤ a.maxTunMtu, ∃ answers,
          next.device = (s.device.applyPathMtu mtu true answers).state ∧
          next.moments = s.moments ++ (s.device.applyPathMtu mtu true answers).moments :=
    .inl ⟨same.device, same.moments⟩
  cases (step_called stepped).2 with
  | pathMtu pmtu writable readable answers _ =>
    rcases applyPmtu_device pmtu writable readable answers with same | ⟨mtu, within, applied⟩
    · exact .inl same
    · exact .inr ⟨mtu, within, answers, applied⟩
  | batch inSelect batches count _ _ => exact untouched (receiveBatch_untouched _ _ _)
  | flushReceived ok _ => exact untouched (flushQuic_untouched ok ⟨rfl, rfl, rfl⟩)
  | flushReport ok _ => exact untouched (flushQuic_untouched ok ⟨rfl, rfl, rfl⟩)
  | flushTx ok _ => exact untouched (flushQuic_untouched ok ⟨rfl, rfl, rfl⟩)
  | flushTimers ok _ => exact untouched (flushQuic_untouched ok nextIteration_untouched)
  | polled polls bodies _ => exact untouched (pollTunnel_untouched polls bodies)
  | reported start sent _ => exact untouched (reportStats_untouched start sent)
  | checked closed _ => exact untouched (checkLoop_untouched closed)
  | slept probed rearmed timeout due since _ _ => exact untouched (runTimers_untouched _ _ _)
  | drainTx taken _ =>
    obtain ⟨up, _, shape⟩ | ⟨up, _, shape⟩ | shape := drainTx_cases s taken <;> rw [shape] <;>
      exact .inl ⟨rfl, rfl⟩
  | popTx _ _ =>
    obtain ⟨up, _, shape⟩ | shape := popTx_cases s <;> rw [shape] <;> exact .inl ⟨rfl, rfl⟩
  | readable ok timeout due since _ => cases ok <;> exact .inl ⟨rfl, rfl⟩
  | reader | tick | rearm | drained | returnIcmp | settled | pulled | noticed =>
    exact .inl ⟨rfl, rfl⟩

/-- What every operation of the upload path preserves holds in every run of the
pump. -/
theorem reachable_up {inv : Uplink a → Prop}
    (preserved : ∀ u action next, inv u → Uplink.step u action = some next → inv next)
    (holds : inv s.up) (reached : Transition.Reachable step s next) : inv next.up := by
  refine reached.invariant (fun s => inv s.up) (fun s label next kept stepped => ?_) holds
  rcases step_up stepped with same | ⟨action, moved⟩
  · rw [same]
    exact kept
  · exact preserved s.up action next.up kept moved

/-- `data_loop` never fails to set itself up. -/
theorem start_eq (a : LoopArgs) (stats : TxStats) (device : TunRsDevice) (now : Instant)
    (quicDeadline : Option Instant) :
    ∃ free, free.items = allocated a ∧
      start a stats device now quicDeadline =
        some (enter (fresh free stats) device now quicDeadline) := by
  obtain ⟨free, filled, started⟩ := start_some a stats
  exact ⟨free, filled, by rw [start, started, Option.map_some]⟩

/-! ## Concrete runs -/

/-- Executes labels from the call of `data_loop`. -/
def execute (a : LoopArgs) (device : TunRsDevice) (labels : List Label) : Option (DataLoop a) :=
  (start a {} device 0 none).bind fun first => Transition.run step first labels

/-- A run that executes reaches its final state. -/
theorem execute_reaches (a : LoopArgs) (device : TunRsDevice) (labels : List Label)
    (found : DataLoop a → Bool) (ran : (execute a device labels).any found = true) :
    ∃ first s, start a {} device 0 none = some first ∧ Transition.Reachable step first s ∧
      found s = true := by
  obtain ⟨s, executed, checked⟩ := Option.any_eq_true _ _ |>.mp ran
  obtain ⟨first, started, finished⟩ := Option.bind_eq_some_iff.mp executed
  exact ⟨first, s, started, ⟨labels, finished⟩, checked⟩

/-- A small configuration: one buffer, a queue of one, one DATAGRAM a burst. -/
def smallArgs : LoopArgs where
  mtu := 40
  flowPrefix := [0, 0]
  flowId := 0
  connectStreamId := 0
  reportH3Stats := false
  keepalivePeriod := seconds 25
  enablePmtud := false
  pmtudRevalidatePeriod := 0
  maxTunMtu := 40
  txQueueLen := 1
  txBurstPackets := 1
  packetBufferPoolSize := 1
  udpBatchSize := 1

def smallDevice : TunRsDevice := ⟨⟨40, none⟩, 40, none, false, false⟩

/-- An IPv4 header and nothing behind it. -/
def smallPacket : Bytes :=
  [0x45, 0, 0, 20, 0, 0, 0, 0, 64, 17, 0, 0, 10, 0, 0, 1, 10, 0, 0, 2]

/-- The reader takes a packet from the TUN into the channel. -/
def readLabels (packet : Bytes) : List Label :=
  [.reader .takeBuffer, .reader (.readPacket packet), .reader .prepare, .reader .send]

/-- The pump goes from the head of its loop to the channel drain, with nothing
to receive and no path MTU. -/
def idleLabels : List Label :=
  [.pump (.batch (some 0)), .pump (.flushed true), .pump (.polled [] []), .pump (.drained []),
    .pump (.reported .noPath .done), .pump (.pathMtu none none true ⟨true, true, true⟩)]

/-- One datagram moves from the channel through the queue into the pump's hand. -/
def popLabels : List Label := [.pump .proceed, .pump .proceed, .pump .proceed]

end Usque.DataLoop
