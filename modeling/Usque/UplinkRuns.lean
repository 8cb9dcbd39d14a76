import Usque.BufferPool
import Usque.DataLoopSteps
import Usque.UplinkOrder

/-! The upload path over whole runs of the pump: which packets reach quiche, what
became of the others, and where every buffer is. The invariants of the single
operations are lifted along `step_up`; only the end of the pump needs its
stages. -/
namespace Usque.DataLoop

open Packet Uplink Http3 NativeTun Timing

variable {a : LoopArgs} {s next : DataLoop a} {label : Label}

/-! ## Packets on their way -/

/-- The packets in the reader's hand. -/
def handled : Reader → ℕ
  | .checking _ _ | .sending _ => 1
  | .waiting | .reading _ | .ended => 0

/-- The packets read that are neither sent nor dropped yet: in the reader's
hand, in the channel, in the pump's hand and in its queue. -/
def pending (u : Uplink a) : ℕ :=
  handled u.reader + u.channel.items.length + (u.held.toList.length + u.txQueue.length)

/-- What is in flight in the abstract queue is what the path still holds. -/
theorem pending_eq {before : TxStats} {u : Uplink a} {queue : LossyFifo Bytes}
    (refines : Refines before u queue) : queue.inFlight.length = pending u := by
  obtain ⟨encoded, hand, flight, carried, inHand⟩ := refines.inFlight
  have size := carried.length_eq
  simp only [datagrams, List.length_append] at size
  rw [flight, List.length_append, size, pending]
  cases resting : u.reader <;> rw [resting] at inHand <;> cases hand with
  | nil => simp_all [InHand, Reader.datagram, handled] <;> omega
  | cons packet rest =>
    cases rest <;> simp_all [InHand, Reader.datagram, handled] <;> omega

/-! ## How the pump ends -/

/-- Once the pump has seen the channel closed it stays closed and empty. -/
theorem noticed_step {u after : Uplink a} {action : Uplink.Action}
    (noticed : u.tunReaderClosed = true → u.Disconnected)
    (moved : Uplink.step u action = some after) :
    after.tunReaderClosed = true → after.Disconnected := by
  cases action with
  | takeBuffer =>
    obtain ⟨buffer, free, idle, -, rfl⟩ := takeBuffer_some moved
    exact fun closed => absurd (idle.symm.trans (noticed closed).1) (by simp)
  | readPacket packet =>
    obtain ⟨dgram, resting, -, -, rfl⟩ := readPacket_some moved
    exact fun closed => absurd (resting.symm.trans (noticed closed).1) (by simp)
  | readEnds =>
    obtain ⟨⟨dgram, resting⟩, rfl⟩ := readEnds_some moved
    exact fun closed => absurd (resting.symm.trans (noticed closed).1) (by simp)
  | prepare =>
    obtain ⟨dgram, n, resting, shape⟩ := prepare_some moved
    have alive (closed : u.tunReaderClosed = true) : False := by
      have ended := (noticed closed).1
      rw [resting] at ended
      cases ended
    rcases shape with ⟨-, rfl⟩ | ⟨-, rfl⟩ <;> exact fun closed => (alive closed).elim
  | send =>
    obtain ⟨item, channel, resting, -, rfl⟩ := send_some moved
    exact fun closed => absurd (resting.symm.trans (noticed closed).1) (by simp)
  | pull =>
    obtain ⟨item, channel, -, -, first, rfl⟩ := pull_some moved
    exact fun closed => absurd (first.symm.trans (noticed closed).2) (by simp)
  | noticeClosed =>
    obtain ⟨gone, rfl⟩ := noticeClosed_some moved
    exact fun _ => gone
  | pop =>
    obtain ⟨item, rest, -, -, rfl⟩ := pop_some moved
    exact noticed
  | settle mtu answer =>
    simp only [Uplink.step, Option.map_eq_some_iff] at moved
    obtain ⟨⟨fate, after⟩, settled, rfl⟩ := moved
    obtain ⟨item, -, -, rfl⟩ := settle_some settled
    rcases applyFate_cases u item fate with ⟨-, shape⟩ | ⟨-, shape⟩ | shape <;> rw [shape] <;>
      exact noticed

/-- Only a pop takes an item into the pump's hand. -/
private theorem held_step {u after : Uplink a} (action : Uplink.Action) (idle : u.held = none)
    (other : action ≠ .pop) (moved : Uplink.step u action = some after) : after.held = none := by
  cases action with
  | takeBuffer =>
    obtain ⟨buffer, free, -, -, rfl⟩ := takeBuffer_some moved
    exact idle
  | readPacket packet =>
    obtain ⟨dgram, -, -, -, rfl⟩ := readPacket_some moved
    exact idle
  | readEnds =>
    obtain ⟨-, rfl⟩ := readEnds_some moved
    exact idle
  | prepare =>
    obtain ⟨dgram, n, -, ⟨-, rfl⟩ | ⟨-, rfl⟩⟩ := prepare_some moved <;> exact idle
  | send =>
    obtain ⟨item, channel, -, -, rfl⟩ := send_some moved
    exact idle
  | pull =>
    obtain ⟨item, channel, -, -, -, rfl⟩ := pull_some moved
    exact idle
  | noticeClosed =>
    obtain ⟨-, rfl⟩ := noticeClosed_some moved
    exact idle
  | pop => exact absurd rfl other
  | settle mtu answer =>
    simp only [Uplink.step, Option.map_eq_some_iff] at moved
    obtain ⟨⟨fate, after⟩, settled, rfl⟩ := moved
    obtain ⟨item, popped, -, -⟩ := settle_some settled
    rw [idle] at popped
    cases popped

/-- The reader never touches what is the pump's own. -/
theorem reader_step_pump {u after : Uplink a} {op : ReaderOp}
    (moved : Uplink.step u op.action = some after) :
    after.held = u.held ∧ after.txQueue = u.txQueue := by
  cases op with
  | takeBuffer =>
    obtain ⟨buffer, free, -, -, rfl⟩ := takeBuffer_some moved
    exact ⟨rfl, rfl⟩
  | readPacket packet =>
    obtain ⟨dgram, -, -, -, rfl⟩ := readPacket_some moved
    exact ⟨rfl, rfl⟩
  | readEnds =>
    obtain ⟨-, rfl⟩ := readEnds_some moved
    exact ⟨rfl, rfl⟩
  | prepare =>
    obtain ⟨dgram, n, -, ⟨-, rfl⟩ | ⟨-, rfl⟩⟩ := prepare_some moved <;> exact ⟨rfl, rfl⟩
  | send =>
    obtain ⟨item, channel, -, -, rfl⟩ := send_some moved
    exact ⟨rfl, rfl⟩

/-- The pump holds an item only inside `queue_tx_datagrams`. -/
def HoldsInQueueTx (s : DataLoop a) : Prop := s.up.held ≠ none → s.stage = .queueTx

theorem step_holds (holds : HoldsInQueueTx s) (stepped : step s label = some next) :
    HoldsInQueueTx next := by
  obtain ⟨-, called⟩ := step_called stepped
  -- A call made elsewhere starts and ends with an empty hand.
  have away (here : s.stage ≠ .queueTx) (same : next.up = s.up) : HoldsInQueueTx next :=
    fun holding => absurd (holds (by rwa [same] at holding)) here
  have idle (here : s.stage ≠ .queueTx) : s.up.held = none :=
    Classical.byContradiction fun holding => here (holds holding)
  cases called with
  | reader op up moved =>
    exact fun holding => holds (by rwa [(reader_step_pump moved).1] at holding)
  | tick passed => exact holds
  | rearm deadline => exact holds
  | batch inSelect batches count here _ =>
    exact away (by simp [here]) (receiveBatch_untouched inSelect batches count).up
  | flushReceived ok here => exact away (by simp [here]) (flushQuic_untouched ok ⟨rfl, rfl, rfl⟩).up
  | flushReport ok here => exact away (by simp [here]) (flushQuic_untouched ok ⟨rfl, rfl, rfl⟩).up
  | flushTx ok here => exact away (by simp [here]) (flushQuic_untouched ok ⟨rfl, rfl, rfl⟩).up
  | flushTimers ok here =>
    exact away (by simp [here]) (flushQuic_untouched ok nextIteration_untouched).up
  | polled polls bodies here => exact away (by simp [here]) (pollTunnel_untouched polls bodies).up
  | drained answers here => exact away (by simp [here]) rfl
  | reported start sent here => exact away (by simp [here]) (reportStats_untouched start sent).up
  | pathMtu pmtu writable readable answers here =>
    exact away (by simp [here]) (applyPmtu_up pmtu writable readable answers)
  | drainTx taken here =>
    have empty := idle (by simp [here])
    obtain ⟨up, moved, shape⟩ | ⟨up, moved, shape⟩ | shape := drainTx_cases s taken <;> rw [shape]
    · exact fun holding => absurd (held_step .pull empty (by simp) moved) holding
    · exact fun _ => rfl
    · exact fun _ => rfl
  | popTx here empty =>
    obtain ⟨up, -, shape⟩ | shape := popTx_cases s <;> rw [shape]
    · exact fun _ => here
    · exact fun holding => absurd empty holding
  | returnIcmp here => exact away (by simp [here]) rfl
  | settled answer fate up here judged =>
    obtain ⟨item, -, -, rfl⟩ := settle_some judged
    refine fun holding => absurd ?_ holding
    rcases applyFate_cases s.up item fate with ⟨-, shape⟩ | ⟨-, shape⟩ | shape <;> rw [shape] <;>
      rfl
  | checked closed here => exact away (by simp [here]) (checkLoop_untouched closed).up
  | readable ok timeout due since here =>
    cases ok <;> exact away (by simp [here]) rfl
  | pulled up timeout due since here moved =>
    have empty := idle (by simp [here])
    exact fun holding => absurd (held_step .pull empty (by simp) moved) holding
  | noticed up timeout due since here moved =>
    have empty := idle (by simp [here])
    exact fun holding => absurd (held_step .noticeClosed empty (by simp) moved) holding
  | slept probed rearmed timeout due since here _ =>
    exact away (by simp [here]) (runTimers_untouched due probed rearmed).up

/-- The end of the reader is reported only behind a closed channel with an empty
queue. -/
theorem reader_end_reported (called : Called s label next) (running : s.Running)
    (ended : next.stage = .ended .tunReaderEnded) :
    next.up = s.up ∧ s.up.tunReaderClosed = true ∧ s.up.txQueue = [] := by
  cases called with
  | checked closed here =>
    obtain shape | ⟨done, shape⟩ | ⟨-, shape⟩ | ⟨-, shape⟩ := checkLoop_cases s closed
    · rw [shape] at ended
      cases ended
    · exact ⟨by rw [shape]; rfl, done⟩
    · rw [shape] at ended
      cases ended
    · rw [shape] at ended
      cases ended
  | reader op up moved => exact absurd ended (running _)
  | tick passed => exact absurd ended (running _)
  | rearm deadline => exact absurd ended (running _)
  | popTx here _ =>
    obtain ⟨up, -, shape⟩ | shape := popTx_cases s <;> rw [shape] at ended
    · exact absurd ended (running _)
    · cases ended
  | drainTx taken here =>
    obtain ⟨up, -, shape⟩ | ⟨up, -, shape⟩ | shape := drainTx_cases s taken <;> rw [shape] at ended <;>
      cases ended
  | batch inSelect batches count here fits =>
    obtain ⟨-, shape⟩ | ⟨size, received, -, -, ⟨-, shape⟩ | ⟨-, shape⟩ | ⟨-, shape⟩⟩ :=
      receiveBatch_cases s inSelect batches count <;> rw [shape] at ended <;> cases ended
  | flushReceived ok here => cases ok <;> cases ended
  | flushReport ok here => cases ok <;> cases ended
  | flushTx ok here => cases ok <;> cases ended
  | flushTimers ok here => cases ok <;> cases ended
  | polled polls bodies here =>
    unfold pollTunnel at ended
    split at ended <;> cases ended
  | drained answers here => cases ended
  | reported start sent here =>
    unfold reportStats at ended
    dsimp only at ended
    split at ended <;> cases ended
  | pathMtu pmtu writable readable answers here =>
    obtain shape | shape | ⟨tunMtu, -, shape | ⟨error, shape⟩⟩ :=
      applyPmtu_cases s pmtu writable readable answers <;> rw [shape] at ended <;> cases ended
  | returnIcmp here =>
    simp only [returnIcmp] at ended
    split at ended <;> cases ended
  | settled answer fate up here judged =>
    dsimp only at ended
    split at ended <;> cases ended
  | readable ok timeout due since here => cases ok <;> cases ended
  | pulled up timeout due since here moved => cases ended
  | noticed up timeout due since here moved => cases ended
  | slept probed rearmed timeout due since here waited =>
    obtain ⟨waited, failed, shape⟩ | shape | shape := runTimers_cases s due probed rearmed <;>
      rw [shape] at ended
    · rw [failed, sendAckEliciting, if_pos waited] at ended
      cases ended
    · cases ended
    · cases ended

/-! ## Order, content and conservation -/

/-- The pump stands for the lossy queue its upload path stands for. -/
theorem step_simulates_queue (before : TxStats) :
    Transition.Simulates (step (a := a)) LossyFifo.step
      (fun s queue => Refines before s.up queue) := by
  intro s label next queue refines stepped
  rcases step_up stepped with same | ⟨action, moved⟩
  · exact ⟨queue, .refl, by simpa only [same] using refines⟩
  · exact step_simulates before s.up action next.up queue refines moved

/-- A state that data_loop reaches has a faithful queue behind its upload path. -/
theorem reachable_refines {stats : TxStats} {device : TunRsDevice} {now : Instant}
    {quicDeadline : Option Instant} {first : DataLoop a}
    (started : start a stats device now quicDeadline = some first)
    (reached : Transition.Reachable step first s) :
    ∃ queue, LossyFifo.Faithful queue ∧ Refines stats s.up queue := by
  obtain ⟨free, filled, shape⟩ := start_eq a stats device now quicDeadline
  obtain rfl := Option.some.inj (shape.symm.trans started)
  obtain ⟨labels, ran⟩ := reached
  obtain ⟨queue, reachedQueue, refines⟩ :=
    (step_simulates_queue stats).run (fresh_refines stats filled) ran
  exact ⟨queue, LossyFifo.reachable_faithful reachedQueue, refines⟩

/-- What the end of the reader means for the upload path. -/
theorem reader_end_drained {stats : TxStats} {device : TunRsDevice} {now : Instant}
    {quicDeadline : Option Instant} {first : DataLoop a}
    (started : start a stats device now quicDeadline = some first)
    (reached : Transition.Reachable step first s) (ended : s.stage = .ended .tunReaderEnded) :
    pending s.up = 0 := by
  obtain ⟨free, -, shape⟩ := start_eq a stats device now quicDeadline
  obtain rfl := Option.some.inj (shape.symm.trans started)
  let inv (s : DataLoop a) : Prop :=
    (s.up.tunReaderClosed = true → s.up.Disconnected) ∧ HoldsInQueueTx s ∧
      (s.stage = .ended .tunReaderEnded → s.up.tunReaderClosed = true ∧ s.up.txQueue = [])
  have kept : inv s := by
    refine reached.invariant inv (fun s label next before stepped => ?_)
      ⟨fun closed => (Bool.false_ne_true closed).elim, fun holding => absurd rfl holding,
        fun other => by cases other⟩
    obtain ⟨noticed, holds, -⟩ := before
    obtain ⟨running, called⟩ := step_called stepped
    refine ⟨?_, step_holds holds stepped, fun ended => ?_⟩
    · rcases step_up stepped with same | ⟨action, moved⟩
      · rw [same]
        exact noticed
      · exact noticed_step noticed moved
    · obtain ⟨same, drained⟩ := reader_end_reported called running ended
      rwa [same]
  obtain ⟨noticed, holds, reported⟩ := kept
  obtain ⟨closed, empty⟩ := reported ended
  obtain ⟨gone, drained⟩ := noticed closed
  have idle : s.up.held = none :=
    Classical.byContradiction fun holding => by cases (holds holding).symm.trans ended
  simp [pending, handled, gone, drained, idle, empty]

/-- What quiche accepts is a subsequence of the packets read, in read order, each
prepared behind the prefix and nothing else; every other packet read is counted
as dropped or still on its way, and none is when the reader's end is reported. -/
theorem uplink_order_content_conservation {stats : TxStats} {device : TunRsDevice} {now : Instant}
    {quicDeadline : Option Instant} {first : DataLoop a}
    (started : start a stats device now quicDeadline = some first)
    (reached : Transition.Reachable step first s) :
    (∃ kept, kept.Sublist s.up.read ∧ List.Forall₂ (Delivered a) kept s.up.sent) ∧
    (∃ accepted dropped, s.up.stats.txPackets = stats.txPackets + accepted ∧
      s.up.stats.dropped = stats.dropped + dropped ∧
      s.up.read.length = accepted + dropped + pending s.up ∧
      (s.stage = .ended .tunReaderEnded → s.up.read.length = accepted + dropped)) := by
  obtain ⟨queue, faithful, refines⟩ := reachable_refines started reached
  have total := faithful.count
  rw [refines.arrived, pending_eq refines] at total
  refine ⟨⟨queue.delivered, ?_, refines.delivered⟩, queue.delivered.length, queue.lost,
    refines.accepted, refines.dropped, total, fun ended => ?_⟩
  · rw [← refines.arrived]
    exact (List.sublist_append_left _ _).trans faithful.order
  · rw [total, reader_end_drained started reached ended, Nat.add_zero]

/-- A packet read in the small configuration reaches quiche. -/
theorem uplink_order_content_conservation_small :
    ∃ first s, start smallArgs {} smallDevice 0 none = some first ∧
      Transition.Reachable step first s ∧ s.up.sent.length = 1 ∧
      ∃ kept, kept.Sublist s.up.read ∧ List.Forall₂ (Delivered smallArgs) kept s.up.sent := by
  obtain ⟨first, s, started, reached, sent⟩ := execute_reaches smallArgs smallDevice
    (readLabels smallPacket ++ idleLabels ++ popLabels ++ [.pump (.settled ⟨none, false, .ok⟩)])
    (fun s => s.up.sent.length == 1) (by decide)
  exact ⟨first, s, started, reached, by simpa using sent,
    (uplink_order_content_conservation started reached).1⟩

/-! ## The buffer pool -/

/-- The pool is always filled. While the reader lives every buffer is in exactly
one place, so every return finds room; the queue keeps to its limit. -/
theorem buffer_pool_conserved (a : LoopArgs) (stats : TxStats) (device : TunRsDevice)
    (now : Instant) (quicDeadline : Option Instant) :
    ∃ first, start a stats device now quicDeadline = some first ∧
      ∀ s, Transition.Reachable step first s →
        (s.up.reader ≠ .ended →
          s.up.slots.Perm (List.range a.poolSize) ∧
          s.up.free.items.length + s.up.reader.slots.length + s.up.channel.items.length +
            (s.up.held.toList.length + s.up.txQueue.length) = a.poolSize ∧
          s.up.reader.slots.length ≤ 1) ∧
        s.up.recycleFull = 0 ∧ s.up.txQueue.length ≤ a.txQueueLen := by
  obtain ⟨free, filled, started⟩ := start_eq a stats device now quicDeadline
  refine ⟨_, started, fun s reached => ?_⟩
  have conserved : Conserved s.up := by
    refine reachable_up (fun u action next kept moved => ?_) ?_ reached
    · exact step_conserved action kept moved
    · exact fresh_conserved stats filled
  refine ⟨fun alive => ⟨conserved.pool alive, conserved.count alive, reader_slots_le _⟩,
    conserved.noneLost, ?_⟩
  have limit := conserved.queue
  omega

end Usque.DataLoop
