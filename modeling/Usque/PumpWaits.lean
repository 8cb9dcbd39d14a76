import Usque.Session
import Usque.UplinkRuns

/-! Where the pump waits. Its iteration may end in `select!` only behind a receive
drain that found nothing more and a send loop that has nothing more to offer, so no
work that is ready waits for an unrelated timer. What an iteration did before its end
is read off the run itself. -/
namespace Usque.DataLoop

open Packet Uplink Http3 NativeTun Timing

/-! ## The receive drain -/

def RecvAnswer.isDatagram : RecvAnswer → Bool
  | .datagram _ => true
  | .done | .error => false

/-- The drain runs out of its burst exactly when quiche answers with that many
DATAGRAMs first. -/
theorem drainIncoming_exhausted_iff (flowId : UInt64) (left : ℕ) (stats : RxStats)
    (answers : List RecvAnswer) :
    (drainIncoming flowId left stats answers).budgetExhausted = true ↔
      left ≤ (answers.takeWhile RecvAnswer.isDatagram).length := by
  induction left generalizing stats answers with
  | zero => simp [drainIncoming]
  | succ left ih =>
    cases answers with
    | nil => simp [drainIncoming]
    | cons answer rest =>
      cases answer with
      | datagram dgram =>
        simp only [drainIncoming, List.takeWhile_cons, RecvAnswer.isDatagram, if_true,
          List.length_cons, Nat.add_le_add_iff_right]
        split
        · exact ih _ rest
        · exact ih _ rest
      | done => simp [drainIncoming, RecvAnswer.isDatagram]
      | error => simp [drainIncoming, RecvAnswer.isDatagram]

variable {a : LoopArgs} {first s next : DataLoop a} {labels : List Label} {label : Label}

/-! ## What an iteration has done -/

/-- `dgram_recv_buf` answered `Done` or an error before the burst was used up, in
iteration number `iteration`. Answers that run out stand for `Done`. -/
def DrainsAll (iteration : ℕ) (s : DataLoop a) (label : Label) : Prop :=
  s.stage = .drain ∧ s.counts.iterations = iteration ∧
    ∃ answers, label = .pump (.drained answers) ∧
      (answers.takeWhile RecvAnswer.isDatagram).length < rxDgramDrainBurst

/-- Quiche refused `item`, the last one `queue_tx_datagrams` popped, in iteration
number `iteration`. -/
def Refuses (item : TxDatagram) (iteration : ℕ) (s : DataLoop a) (label : Label) : Prop :=
  s.stage = .queueTx ∧ s.counts.iterations = iteration ∧ s.up.held = some item ∧
    ∃ answer, label = .pump (.settled answer) ∧
      judge a.flowPrefix.length s.device.mtu item answer = .refused

/-- The iteration that reached `s` has drained quiche's receive queue. -/
def RxDrained (first : DataLoop a) (labels : List Label) (s : DataLoop a) : Prop :=
  Transition.Happened step (DrainsAll s.counts.iterations) first labels

/-- The head of the pump's queue was refused in the iteration that reached `s`. -/
def HeadRefused (first : DataLoop a) (labels : List Label) (s : DataLoop a) : Prop :=
  ∃ item rest, s.up.txQueue = item :: rest ∧
    Transition.Happened step (Refuses item s.counts.iterations) first labels

theorem RxDrained.later (drained : RxDrained first labels s) (more : List Label)
    (same : next.counts.iterations = s.counts.iterations) :
    RxDrained first (labels ++ more) next := by
  unfold RxDrained
  rw [same]
  exact Transition.Happened.later drained more

theorem HeadRefused.later (refused : HeadRefused first labels s) (more : List Label)
    (queue : next.up.txQueue = s.up.txQueue)
    (same : next.counts.iterations = s.counts.iterations) :
    HeadRefused first (labels ++ more) next := by
  obtain ⟨item, rest, head, refused⟩ := refused
  refine ⟨item, rest, queue.trans head, ?_⟩
  rw [same]
  exact refused.later more

/-! ## The invariant -/

/-- The drain did not stop at its budget only to be forgotten. -/
def RxReady (first : DataLoop a) (labels : List Label) (s : DataLoop a) : Prop :=
  s.rxDrainBudgetExhausted = false → RxDrained first labels s

/-- How `queue_tx_datagrams` stopped. -/
def TxReady (first : DataLoop a) (labels : List Label) (s : DataLoop a) : Prop :=
  s.up.txQueue = [] ∨ HeadRefused first labels s ∨
    (s.progress.backpressure = false ∧ a.txBurstPackets ≤ s.progress.queued)

/-- Stages in front of the drain, behind the wait, or behind the loop. -/
def Stage.early : Stage → Bool
  | .receive .. | .flushReceived | .poll | .drain | .flushTimers | .ended _ => true
  | .report | .flushReport | .applyPmtu | .drainChannel _ | .queueTx | .returnIcmp | .flushTx
  | .check | .select .. => false

/-- What each stage of an iteration knows of the stages before it. -/
def Readiness (first : DataLoop a) (labels : List Label) (s : DataLoop a) : Prop :=
  match s.stage with
  | .report | .flushReport | .applyPmtu | .drainChannel _ => RxReady first labels s
  | .queueTx => RxReady first labels s ∧ s.progress.backpressure = false
  | .returnIcmp | .flushTx | .check => RxReady first labels s ∧ TxReady first labels s
  | .select .. => RxDrained first labels s ∧ (s.up.txQueue = [] ∨ HeadRefused first labels s)
  | .receive .. | .flushReceived | .poll | .drain | .flushTimers | .ended _ => True

theorem RxReady.later (ready : RxReady first labels s) (more : List Label)
    (exhausted : next.rxDrainBudgetExhausted = s.rxDrainBudgetExhausted)
    (same : next.counts.iterations = s.counts.iterations) :
    RxReady first (labels ++ more) next := by
  intro calm
  exact (ready (exhausted.symm.trans calm)).later more same

theorem TxReady.later (ready : TxReady first labels s) (more : List Label)
    (queue : next.up.txQueue = s.up.txQueue) (progress : next.progress = s.progress)
    (same : next.counts.iterations = s.counts.iterations) :
    TxReady first (labels ++ more) next := by
  rcases ready with empty | refused | full
  · exact .inl (queue.trans empty)
  · exact .inr (.inl (refused.later more queue same))
  · exact .inr (.inr (by rwa [progress]))

/-- A step of another task, or of the clock, leaves the pump where it is. -/
theorem Readiness.stay (ready : Readiness first labels s) (more : List Label)
    (stage : next.stage = s.stage) (queue : next.up.txQueue = s.up.txQueue)
    (exhausted : next.rxDrainBudgetExhausted = s.rxDrainBudgetExhausted)
    (progress : next.progress = s.progress)
    (same : next.counts.iterations = s.counts.iterations) :
    Readiness first (labels ++ more) next := by
  unfold Readiness at ready ⊢
  rw [stage]
  split <;> rename_i here <;> simp only [here] at ready
  · exact ready.later more exhausted same
  · exact ready.later more exhausted same
  · exact ready.later more exhausted same
  · exact ready.later more exhausted same
  · exact ⟨ready.1.later more exhausted same, progress ▸ ready.2⟩
  · exact ⟨ready.1.later more exhausted same, ready.2.later more queue progress same⟩
  · exact ⟨ready.1.later more exhausted same, ready.2.later more queue progress same⟩
  · exact ⟨ready.1.later more exhausted same, ready.2.later more queue progress same⟩
  · exact ⟨ready.1.later more same,
      ready.2.imp queue.trans fun refused => refused.later more queue same⟩
  all_goals trivial

/-- Calls before the drain, and those that end the loop, promise nothing. -/
private theorem Readiness.early (stage : next.stage.early = true) :
    Readiness first labels next := by
  unfold Readiness
  split <;> rename_i here <;> rw [here] at stage
  all_goals trivial

theorem reportStats_ready (ready : RxReady first labels s) (more : List Label)
    (start : StartAnswer) (sent : SendBodyAnswer) :
    Readiness first (labels ++ more) (s.reportStats start sent) := by
  have opened : (s.startReport start).rxDrainBudgetExhausted = s.rxDrainBudgetExhausted ∧
      (s.startReport start).counts = s.counts := by
    unfold startReport
    split <;> exact ⟨rfl, rfl⟩
  obtain ⟨exhausted, counts⟩ := opened
  have same := congrArg Counts.iterations counts
  unfold reportStats
  dsimp only
  split
  · exact ready.later more exhausted same
  · exact ready.later more exhausted same

theorem applyPmtu_ready (ready : RxReady first labels s) (more : List Label)
    (pmtu writable : Option ℕ) (readable : Bool) (answers : TunAnswers) :
    Readiness first (labels ++ more) (s.applyPmtu pmtu writable readable answers) := by
  obtain shape | shape | ⟨tunMtu, -, shape | ⟨error, shape⟩⟩ :=
    applyPmtu_cases s pmtu writable readable answers <;> rw [shape]
  · exact ready.later more rfl rfl
  · exact .early rfl
  · exact ready.later more rfl rfl
  · exact .early rfl

/-- Behind the channel drain the send loop starts with nothing queued. -/
theorem drainTx_ready (ready : RxReady first labels s) (more : List Label) (taken : ℕ) :
    Readiness first (labels ++ more) (s.drainTx taken) := by
  obtain ⟨up, -, shape⟩ | ⟨up, -, shape⟩ | shape := drainTx_cases s taken <;> rw [shape]
  · exact ready.later more rfl rfl
  · exact ⟨ready.later more rfl rfl, rfl⟩
  · exact ⟨ready.later more rfl rfl, rfl⟩

/-- The send loop ends at its head only without items or without budget. -/
theorem popTx_ready (ready : RxReady first labels s) (calm : s.progress.backpressure = false)
    (more : List Label) (here : s.stage = .queueTx) (idle : s.up.held = none) :
    Readiness first (labels ++ more) s.popTx := by
  unfold popTx
  split
  · split
    · rename_i up popped
      unfold Readiness
      simp only [here]
      exact ⟨ready.later more rfl rfl, calm⟩
    · rename_i nothing
      refine ⟨ready.later more rfl rfl, .inl ?_⟩
      cases queue : s.up.txQueue with
      | nil => rfl
      | cons item rest => simp [pop, idle, queue] at nothing
  · rename_i full
    refine ⟨ready.later more rfl rfl, .inr (.inr ⟨calm, ?_⟩)⟩
    have enough : max a.txBurstPackets 1 ≤ s.progress.queued := Nat.not_lt.mp full
    exact (Nat.le_max_left _ _).trans enough

/-- A refused item goes back to the head of the queue and ends the send loop. -/
theorem settled_ready {answer : TxAnswer} {fate : Fate} {up : Uplink a}
    (ready : RxReady first labels s) (calm : s.progress.backpressure = false)
    (ran : Transition.run step first labels = some s) (here : s.stage = .queueTx)
    (judged : s.up.settle s.device.mtu answer = some (fate, up)) :
    Readiness first (labels ++ [.pump (.settled answer)]) { s with
      up := up
      progress := s.progress.record fate
      stage := if fate = .refused then .returnIcmp else .queueTx } := by
  obtain ⟨item, held, fated, applied⟩ := settle_some judged
  by_cases refuses : fate = .refused
  · subst refuses
    refine ⟨ready.later _ rfl rfl, .inr (.inl ?_)⟩
    have head : up.txQueue = item :: s.up.txQueue := by rw [applied]; rfl
    exact ⟨item, _, head, .now ran ⟨here, rfl, held, answer, rfl, fated.symm⟩⟩
  · rw [if_neg refuses]
    refine ⟨ready.later _ rfl rfl, ?_⟩
    cases fate with
    | refused => exact absurd rfl refuses
    | oversize reply => cases reply <;> exact calm
    | accepted => exact calm
    | failed => exact calm

/-- The pump only decides to wait when it is not busy. -/
theorem checkLoop_ready (ready : RxReady first labels s) (queued : TxReady first labels s)
    (more : List Label) (closed : Bool) :
    Readiness first (labels ++ more) (s.checkLoop closed) := by
  obtain shape | ⟨-, shape⟩ | ⟨-, shape⟩ | ⟨idle, shape⟩ := checkLoop_cases s closed <;> rw [shape]
  · exact .early rfl
  · exact .early rfl
  · exact .early rfl
  · simp only [busy, Bool.or_eq_false_iff] at idle
    obtain ⟨calm, noBurst⟩ := idle
    refine ⟨(ready calm).later more rfl, ?_⟩
    rcases queued with empty | refused | ⟨unrefused, full⟩
    · exact .inl empty
    · exact .inr (refused.later more rfl rfl)
    · -- a full burst with items left would have made the pump busy
      refine .inl (List.isEmpty_iff.mp ?_)
      simpa [unrefused, full] using noBurst

/-- One call keeps what its stage knows. -/
theorem step_readiness (ready : Readiness first labels s)
    (ran : Transition.run step first labels = some s) (stepped : step s label = some next) :
    Readiness first (labels ++ [label]) next := by
  have known := ready
  unfold Readiness at known
  cases (step_called stepped).2 with
  | reader op up moved =>
    exact ready.stay _ rfl (reader_step_pump moved).2 rfl rfl rfl
  | tick passed => exact ready.stay _ rfl rfl rfl rfl rfl
  | rearm deadline => exact ready.stay _ rfl rfl rfl rfl rfl
  | batch inSelect batches count here fits =>
    obtain ⟨-, shape⟩ | ⟨size, received, -, -, ⟨-, shape⟩ | ⟨-, shape⟩ | ⟨-, shape⟩⟩ :=
      receiveBatch_cases s inSelect batches count <;> rw [shape] <;> exact .early rfl
  | flushReceived ok here => cases ok <;> exact .early rfl
  | flushTimers ok here => cases ok <;> exact .early rfl
  | polled polls bodies here =>
    unfold pollTunnel
    split <;> exact .early rfl
  | drained answers here =>
    intro calm
    refine Transition.Happened.now ran ⟨here, rfl, answers, rfl, ?_⟩
    by_contra full
    have exhausted := (drainIncoming_exhausted_iff a.flowId rxDgramDrainBurst s.rx answers).mpr
      (Nat.not_lt.mp full)
    exact Bool.false_ne_true (calm.symm.trans exhausted)
  | reported start sent here =>
    simp only [here] at known
    exact reportStats_ready known _ start sent
  | flushReport ok here =>
    simp only [here] at known
    cases ok with
    | true => exact known.later _ rfl rfl
    | false => exact .early rfl
  | pathMtu pmtu writable readable answers here =>
    simp only [here] at known
    exact applyPmtu_ready known _ pmtu writable readable answers
  | drainTx taken here =>
    simp only [here] at known
    exact drainTx_ready known _ taken
  | popTx here idle =>
    simp only [here] at known
    exact popTx_ready known.1 known.2 _ here idle
  | settled answer fate up here judged =>
    simp only [here] at known
    exact settled_ready known.1 known.2 ran here judged
  | returnIcmp here =>
    simp only [here] at known
    unfold returnIcmp
    by_cases flushes : s.progress.queued > 0 ∨ s.progress.backpressure
    · rw [if_pos flushes]
      exact ⟨known.1.later _ rfl rfl, known.2.later _ rfl rfl rfl⟩
    · rw [if_neg flushes]
      exact ⟨known.1.later _ rfl rfl, known.2.later _ rfl rfl rfl⟩
  | flushTx ok here =>
    simp only [here] at known
    cases ok with
    | true => exact ⟨known.1.later _ rfl rfl, known.2.later _ rfl rfl rfl⟩
    | false => exact .early rfl
  | checked closed here =>
    simp only [here] at known
    exact checkLoop_ready known.1 known.2 _ closed
  | readable ok timeout due since here => cases ok <;> exact .early rfl
  | pulled up timeout due since here moved => exact .early rfl
  | noticed up timeout due since here moved => exact .early rfl
  | slept probed rearmed timeout due since here waited =>
    obtain ⟨waiting, failed, shape⟩ | shape | shape := runTimers_cases s due probed rearmed <;>
      rw [shape]
    · rw [failed, sendAckEliciting, if_pos waiting]
      exact .early rfl
    · exact .early rfl
    · exact .early rfl

/-! ## The wait -/

/-- What waits in the channel can be taken from it, once there is room in the queue. -/
theorem selectRecv_enabled {item : TxDatagram} {others : List TxDatagram}
    (alive : s.up.tunReaderClosed = false) (idle : s.up.held = none)
    (waiting : s.up.channel.items = item :: others) (room : s.up.txQueue.length < a.txQueueLen) :
    ∃ next, s.selectRecv = some next ∧ next.up.txQueue = s.up.txQueue ++ [item] ∧
      next.up.channel.items = others := by
  cases received : s.up.channel.receive with
  | none =>
    rw [Fifo.receive_eq_none_iff.mp received] at waiting
    cases waiting
  | some taken =>
    obtain ⟨oldest, channel⟩ := taken
    have shape := Fifo.receive_eq_some_iff.mp received
    rw [waiting] at shape
    obtain ⟨rfl, rfl⟩ := List.cons.inj shape
    let pulled : Uplink a := { s.up with channel := channel, txQueue := s.up.txQueue ++ [item] }
    refine ⟨{ s with up := pulled }.nextIteration, ?_, rfl, rfl⟩
    simp only [selectRecv, alive, room, and_self, if_true, pull, idle, received, pulled]

/-- `run_tunnel_session` never asks the pump for a queue without room. -/
theorem loopArgs_txQueueLen (cfg : MasqueConfig) (mtu : ℕ) (tunnel : Session.Tunnel) :
    0 < (Session.loopArgs cfg mtu tunnel).txQueueLen := by
  have pool : 0 < Session.packetBufferPoolSize cfg := Nat.lt_of_lt_of_le one_pos (le_max_left 1 _)
  exact lt_min (Nat.lt_of_lt_of_le one_pos (le_max_right _ 1)) pool

/-- A reader that has closed leaves an empty channel. -/
def NoticesClosed (up : Uplink a) : Prop := up.tunReaderClosed = true → up.Disconnected

/-- Whenever the pump waits, this iteration has drained quiche's receive queue within
its burst and has nothing to send that quiche did not just refuse; a packet still in
the channel is taken by the wait itself, unless the queue is full of refused ones. -/
theorem waits_only_without_ready_work {stats : TxStats} {device : TunRsDevice} {now : Instant}
    {quicDeadline : Option Instant} {timeout : Duration} {due : Bool} {since : Instant}
    (started : start a stats device now quicDeadline = some first)
    (queueLen : 0 < a.txQueueLen)
    (ran : Transition.run step first labels = some s)
    (waits : s.stage = .select timeout due since) :
    RxDrained first labels s ∧ (s.up.txQueue = [] ∨ HeadRefused first labels s) ∧
      ∀ item others, s.up.channel.items = item :: others →
        (∃ next, step s (.pump .received) = some next ∧
          next.up.txQueue = s.up.txQueue ++ [item] ∧ next.up.channel.items = others) ∨
        (a.txQueueLen ≤ s.up.txQueue.length ∧ s.up.txQueue ≠ [] ∧ HeadRefused first labels s) := by
  obtain ⟨free, -, shape⟩ := start_eq a stats device now quicDeadline
  obtain rfl := Option.some.inj (shape.symm.trans started)
  have reached : Transition.Reachable step (enter (fresh free stats) device now quicDeadline) s :=
    ⟨labels, ran⟩
  have known := Transition.run_preserves_history (Readiness _)
    (fun past s label next ranPast ready stepped => step_readiness ready ranPast stepped)
    (.early rfl) ran
  unfold Readiness at known
  simp only [waits] at known
  obtain ⟨drained, queued⟩ := known
  refine ⟨drained, queued, fun item others waiting => ?_⟩
  have noticed : NoticesClosed s.up :=
    reachable_up (fun u action next noticed moved => noticed_step noticed moved)
      (fun closed => (Bool.false_ne_true closed).elim) reached
  have alive : s.up.tunReaderClosed = false := by
    by_contra closed
    have empty := (noticed (Bool.eq_true_of_not_eq_false closed)).2
    rw [waiting] at empty
    cases empty
  have holds : HoldsInQueueTx s :=
    reached.invariant HoldsInQueueTx (fun s label next holds stepped => step_holds holds stepped)
      (fun holding => absurd rfl holding)
  have idle : s.up.held = none := by
    by_contra holding
    cases waits.symm.trans (holds holding)
  by_cases room : s.up.txQueue.length < a.txQueueLen
  · obtain ⟨next, taken, queue, channel⟩ := selectRecv_enabled alive idle waiting room
    refine .inl ⟨next, ?_, queue, channel⟩
    have running : s.Running := by
      intro error ended
      cases waits.symm.trans ended
    simp only [step, if_pos running, pump, waits, taken]
  · have full : a.txQueueLen ≤ s.up.txQueue.length := Nat.not_lt.mp room
    have filled : s.up.txQueue ≠ [] := by
      intro empty
      rw [empty] at full
      exact absurd full (Nat.not_le.mpr queueLen)
    exact .inr ⟨full, filled, queued.resolve_left filled⟩

/-- A packet that arrives while the pump waits is taken by the wait. -/
theorem waits_only_without_ready_work_small :
    ∃ (s next : DataLoop smallArgs) (item : TxDatagram), s.up.channel.items = [item] ∧
      step s (.pump .received) = some next ∧ next.up.txQueue = [item] := by
  obtain ⟨first, s, started, ⟨labels, ran⟩, found⟩ := execute_reaches smallArgs smallDevice
    (idleLabels ++ popLabels ++ [.pump (.checked false)] ++ readLabels smallPacket)
    (fun s => s.stage == .select (seconds 25) false 0 && s.up.channel.items.length == 1 &&
      s.up.txQueue.isEmpty) (by decide)
  simp only [Bool.and_eq_true, beq_iff_eq, List.isEmpty_iff] at found
  obtain ⟨⟨waits, one⟩, empty⟩ := found
  obtain ⟨item, waiting⟩ := List.length_eq_one_iff.mp one
  obtain ⟨-, -, receivable⟩ :=
    waits_only_without_ready_work started (by decide) ran waits
  obtain ⟨next, taken, queue, -⟩ | ⟨-, filled, -⟩ := receivable item [] waiting
  · rw [empty] at queue
    exact ⟨s, next, item, waiting, taken, queue⟩
  · exact absurd empty filled

end Usque.DataLoop
