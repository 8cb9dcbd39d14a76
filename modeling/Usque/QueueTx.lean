import Usque.DataLoopSteps

/-! `queue_tx_datagrams` (`api/masque.rs`) as one call. The pump makes it turn by
turn, because the TUN reader runs beside it; the call itself only touches the queue,
the counters and the far end of the recycle channel. -/
namespace Usque.DataLoop

open Packet Uplink

/-- The call while its loop runs, with what it has given to `dgram_send` and to
`recycle_tx.try_send`. -/
structure TxCall where
  txQueue : List TxDatagram
  stats : TxStats
  progress : TxProgress
  offered : List Bytes
  recycled : List PacketBuffer
  deriving DecidableEq

namespace TxCall

def start (txQueue : List TxDatagram) (stats : TxStats) : TxCall :=
  ⟨txQueue, stats, TxProgress.none, [], []⟩

/-- One turn's end: the popped item is refused and goes back to the head of the
queue, or it is consumed and its buffer recycled. -/
def settle (call : TxCall) (item : TxDatagram) (rest : List TxDatagram) (answer : TxAnswer) :
    Fate → TxCall
  | .refused => { call with
      txQueue := item :: rest
      stats := { call.stats with txBackpressure := call.stats.txBackpressure + 1 }
      progress := call.progress.record .refused
      offered := call.offered ++ if answer.queueFull then [] else [item.wire] }
  | .accepted => { call with
      txQueue := rest
      stats := { call.stats with
        txPackets := call.stats.txPackets + 1
        txBytes := call.stats.txBytes + item.ipLen }
      progress := call.progress.record .accepted
      offered := call.offered ++ [item.wire]
      recycled := call.recycled ++ [item.bytes] }
  | .failed => { call with
      txQueue := rest
      stats := { call.stats with dropped := call.stats.dropped + 1 }
      offered := call.offered ++ [item.wire]
      recycled := call.recycled ++ [item.bytes] }
  | .oversize reply => { call with
      txQueue := rest
      stats := { call.stats with dropped := call.stats.dropped + 1 }
      progress := call.progress.record (.oversize reply)
      recycled := call.recycled ++ [item.bytes] }

/-- The loop from a queue; turn `n` of it meets `answers n`. -/
def drain (flowPrefixLen : ℕ) (effectiveTunMtu : UInt16) (budget : ℕ) :
    List TxDatagram → (ℕ → TxAnswer) → TxCall → TxCall
  | [], _, call => call
  | item :: rest, answers, call =>
    if call.progress.queued < budget then
      let fate := judge flowPrefixLen effectiveTunMtu item (answers 0)
      let call := call.settle item rest (answers 0) fate
      if fate = .refused then call
      else drain flowPrefixLen effectiveTunMtu budget rest (fun turn => answers (turn + 1)) call
    else call

end TxCall

def queueTxDatagrams (txQueue : List TxDatagram) (stats : TxStats) (txBurstPackets flowPrefixLen : ℕ)
    (effectiveTunMtu : UInt16) (answers : ℕ → TxAnswer) : TxCall :=
  TxCall.drain flowPrefixLen effectiveTunMtu (max txBurstPackets 1) txQueue answers
    (.start txQueue stats)

/-! ## Accounting -/

/-- The consumed items whose DATAGRAM quiche accepted. -/
def acceptedOf (consumed : List (TxDatagram × Fate)) : List TxDatagram :=
  (consumed.filter fun entry => entry.2 = .accepted).map Prod.fst

/-- The replies to the oversize ones. -/
def repliesOf (consumed : List (TxDatagram × Fate)) : List Bytes :=
  consumed.filterMap fun entry =>
    match entry.2 with
    | .oversize reply => reply
    | _ => none

/-- How the call splits its queue and what it counts, from where it stood before. -/
structure Accounted (flowPrefixLen : ℕ) (effectiveTunMtu : UInt16) (budget : ℕ)
    (txQueue : List TxDatagram) (answers : ℕ → TxAnswer) (before after : TxCall)
    (consumed : List (TxDatagram × Fate)) : Prop where
  split : txQueue = consumed.map Prod.fst ++ after.txQueue
  judged : ∀ turn entry, consumed[turn]? = some entry →
    entry.2 = judge flowPrefixLen effectiveTunMtu entry.1 (answers turn) ∧ entry.2 ≠ .refused
  queued : after.progress.queued = before.progress.queued + (acceptedOf consumed).length
  bounded : after.progress.queued ≤ max budget before.progress.queued
  packets : after.stats.txPackets = before.stats.txPackets + (acceptedOf consumed).length
  bytes : after.stats.txBytes =
    before.stats.txBytes + ((acceptedOf consumed).map (·.ipLen)).sum
  dropped : after.stats.dropped + (acceptedOf consumed).length =
    before.stats.dropped + consumed.length
  recycled : after.recycled = before.recycled ++ consumed.map (·.1.bytes)
  replies : after.progress.icmpPackets = before.progress.icmpPackets ++ repliesOf consumed
  backpressure : after.stats.txBackpressure = before.stats.txBackpressure +
    if after.progress.backpressure = true then 1 else 0
  refused : after.progress.backpressure = true ↔
    after.progress.queued < budget ∧ ∃ item rest, after.txQueue = item :: rest ∧
      judge flowPrefixLen effectiveTunMtu item (answers consumed.length) = .refused
  stopped : after.progress.backpressure = false →
    after.txQueue = [] ∨ budget ≤ after.progress.queued

theorem acceptedOf_cons (entry : TxDatagram × Fate) (consumed : List (TxDatagram × Fate)) :
    acceptedOf (entry :: consumed) = acceptedOf [entry] ++ acceptedOf consumed := by
  rw [← List.singleton_append, acceptedOf, List.filter_append, List.map_append]
  rfl

theorem repliesOf_cons (entry : TxDatagram × Fate) (consumed : List (TxDatagram × Fate)) :
    repliesOf (entry :: consumed) = repliesOf [entry] ++ repliesOf consumed := by
  rw [← List.singleton_append, repliesOf, List.filterMap_append]
  rfl

/-- What a turn that consumes its item adds to every count. -/
structure Consumes (before after : TxCall) (item : TxDatagram) (fate : Fate) : Prop where
  queued : after.progress.queued = before.progress.queued + (acceptedOf [(item, fate)]).length
  atMostOne : (acceptedOf [(item, fate)]).length ≤ 1
  packets : after.stats.txPackets = before.stats.txPackets + (acceptedOf [(item, fate)]).length
  bytes : after.stats.txBytes =
    before.stats.txBytes + ((acceptedOf [(item, fate)]).map (·.ipLen)).sum
  dropped : after.stats.dropped + (acceptedOf [(item, fate)]).length = before.stats.dropped + 1
  recycled : after.recycled = before.recycled ++ [item.bytes]
  replies : after.progress.icmpPackets = before.progress.icmpPackets ++ repliesOf [(item, fate)]
  backpressure : after.stats.txBackpressure = before.stats.txBackpressure

theorem settle_consumes (call : TxCall) (item : TxDatagram) (rest : List TxDatagram)
    (answer : TxAnswer) {fate : Fate} (taken : fate ≠ .refused) :
    Consumes call (call.settle item rest answer fate) item fate := by
  cases fate with
  | refused => exact absurd rfl taken
  | accepted => exact ⟨rfl, le_rfl, rfl, rfl, rfl, rfl, (List.append_nil _).symm, rfl⟩
  | failed => exact ⟨rfl, Nat.zero_le _, rfl, rfl, rfl, rfl, (List.append_nil _).symm, rfl⟩
  | oversize reply =>
    cases reply with
    | none => exact ⟨rfl, Nat.zero_le _, rfl, rfl, rfl, rfl, (List.append_nil _).symm, rfl⟩
    | some packet => exact ⟨rfl, Nat.zero_le _, rfl, rfl, rfl, rfl, rfl, rfl⟩

section Loop

variable (flowPrefixLen : ℕ) (effectiveTunMtu : UInt16) {budget : ℕ}

/-- A turn that consumes its item, in front of the rest of the loop. -/
private theorem accounted_cons {item : TxDatagram} {rest : List TxDatagram}
    {answers : ℕ → TxAnswer} {before after : TxCall} {consumed : List (TxDatagram × Fate)}
    {fate : Fate} (judged : judge flowPrefixLen effectiveTunMtu item (answers 0) = fate)
    (taken : fate ≠ .refused) (room : before.progress.queued < budget)
    (accounted : Accounted flowPrefixLen effectiveTunMtu budget rest
      (fun turn => answers (turn + 1)) (before.settle item rest (answers 0) fate) after consumed) :
    Accounted flowPrefixLen effectiveTunMtu budget (item :: rest) answers before after
      ((item, fate) :: consumed) := by
  obtain ⟨split, tail, queued, bounded, packets, bytes, dropped, recycled, replies, backpressure,
    refused, stopped⟩ := accounted
  have turns : ∀ turn entry, ((item, fate) :: consumed)[turn]? = some entry →
      entry.2 = judge flowPrefixLen effectiveTunMtu entry.1 (answers turn) ∧ entry.2 ≠ .refused := by
    intro turn entry found
    cases turn with
    | zero =>
      cases found
      exact ⟨judged.symm, taken⟩
    | succ turn => exact tail turn entry found
  have whole : item :: rest = ((item, fate) :: consumed).map Prod.fst ++ after.txQueue := by
    rw [List.map_cons, List.cons_append, ← split]
  have consumes := settle_consumes before item rest (answers 0) taken
  have atMostOne := consumes.atMostOne
  rw [consumes.queued] at queued bounded
  rw [consumes.packets] at packets
  rw [consumes.bytes] at bytes
  rw [consumes.recycled] at recycled
  rw [consumes.replies] at replies
  rw [consumes.backpressure] at backpressure
  refine ⟨whole, turns, ?_, ?_, ?_, ?_, ?_, ?_, ?_, backpressure, refused, stopped⟩
  · rw [acceptedOf_cons, List.length_append, queued, Nat.add_assoc]
  · omega
  · rw [acceptedOf_cons, List.length_append, packets, Nat.add_assoc]
  · rw [acceptedOf_cons, List.map_append, List.sum_append, bytes, Nat.add_assoc]
  · have first := consumes.dropped
    rw [acceptedOf_cons, List.length_append, List.length_cons]
    omega
  · rw [recycled, List.map_cons, List.append_assoc, List.singleton_append]
  · rw [repliesOf_cons, replies, List.append_assoc]

/-- The loop that ends before its first turn. -/
private theorem accounted_nil {txQueue : List TxDatagram} {answers : ℕ → TxAnswer} {call : TxCall}
    (queue : call.txQueue = txQueue) (calm : call.progress.backpressure = false)
    (ends : txQueue = [] ∨ budget ≤ call.progress.queued) :
    Accounted flowPrefixLen effectiveTunMtu budget txQueue answers call call [] where
  split := queue.symm
  judged := by
    intro turn entry found
    cases found
  queued := rfl
  bounded := Nat.le_max_right _ _
  packets := rfl
  bytes := rfl
  dropped := rfl
  recycled := (List.append_nil _).symm
  replies := (List.append_nil _).symm
  backpressure := by rw [calm]; rfl
  refused := by
    rw [calm, queue]
    constructor
    · intro absent
      cases absent
    · rintro ⟨room, item, rest, shape, -⟩
      rcases ends with empty | full
      · rw [empty] at shape
        cases shape
      · omega
  stopped := by
    intro _
    rw [queue]
    exact ends

/-- The turn that quiche refuses ends the loop. -/
private theorem accounted_refused {item : TxDatagram} {rest : List TxDatagram}
    {answers : ℕ → TxAnswer} {call : TxCall}
    (judged : judge flowPrefixLen effectiveTunMtu item (answers 0) = .refused)
    (room : call.progress.queued < budget) :
    Accounted flowPrefixLen effectiveTunMtu budget (item :: rest) answers call
      (call.settle item rest (answers 0) .refused) [] where
  split := rfl
  judged := by
    intro turn entry found
    cases found
  queued := rfl
  bounded := Nat.le_max_right _ _
  packets := rfl
  bytes := rfl
  dropped := rfl
  recycled := (List.append_nil _).symm
  replies := (List.append_nil _).symm
  backpressure := rfl
  refused := iff_of_true rfl ⟨room, item, rest, rfl, judged⟩
  stopped := by
    intro pressed
    cases pressed

theorem drain_accounted {txQueue : List TxDatagram} (answers : ℕ → TxAnswer) {call : TxCall}
    (queue : call.txQueue = txQueue) (calm : call.progress.backpressure = false) :
    ∃ consumed, Accounted flowPrefixLen effectiveTunMtu budget txQueue answers call
      (TxCall.drain flowPrefixLen effectiveTunMtu budget txQueue answers call) consumed := by
  induction txQueue generalizing answers call with
  | nil => exact ⟨[], accounted_nil _ _ queue calm (.inl rfl)⟩
  | cons item rest ih =>
    rw [TxCall.drain]
    split
    · rename_i room
      dsimp only
      generalize judged : judge flowPrefixLen effectiveTunMtu item (answers 0) = fate
      by_cases refuses : fate = .refused
      · subst refuses
        rw [if_pos rfl]
        exact ⟨[], accounted_refused _ _ judged room⟩
      · rw [if_neg refuses]
        have onward : (call.settle item rest (answers 0) fate).txQueue = rest ∧
            (call.settle item rest (answers 0) fate).progress.backpressure = false := by
          cases fate with
          | refused => exact absurd rfl refuses
          | accepted => exact ⟨rfl, calm⟩
          | failed => exact ⟨rfl, calm⟩
          | oversize reply => cases reply <;> exact ⟨rfl, calm⟩
        obtain ⟨consumed, accounted⟩ := ih _ onward.1 onward.2
        exact ⟨_, accounted_cons _ _ judged refuses room accounted⟩
    · rename_i full
      exact ⟨[], accounted_nil _ _ queue calm (.inr (Nat.not_lt.mp full))⟩

/-- The call always ends. It consumes a front of its queue and leaves the rest as it
was; what it reports and counts are the fates of the consumed items, and it reports
backpressure exactly when quiche refused the item it left at the head. -/
theorem queue_tx_accounting (txQueue : List TxDatagram) (stats : TxStats)
    (txBurstPackets flowPrefixLen : ℕ) (effectiveTunMtu : UInt16) (answers : ℕ → TxAnswer) :
    let call := queueTxDatagrams txQueue stats txBurstPackets flowPrefixLen effectiveTunMtu answers
    call.progress.queued ≤ max txBurstPackets 1 ∧
      ∃ consumed, Accounted flowPrefixLen effectiveTunMtu (max txBurstPackets 1) txQueue answers
        (.start txQueue stats) call consumed := by
  obtain ⟨consumed, accounted⟩ : ∃ consumed, Accounted flowPrefixLen effectiveTunMtu
      (max txBurstPackets 1) txQueue answers (.start txQueue stats)
      (queueTxDatagrams txQueue stats txBurstPackets flowPrefixLen effectiveTunMtu answers) consumed :=
    drain_accounted flowPrefixLen effectiveTunMtu answers rfl rfl
  refine ⟨?_, consumed, accounted⟩
  have bounded := accounted.bounded
  rwa [TxCall.start, TxProgress.none, Nat.max_zero] at bounded

end Loop

/-! ## The pump's turns -/

section Pump

variable {a : LoopArgs} {s : DataLoop a}

/-- The buffers returned one after the other. -/
def recycleAll (u : Uplink a) (buffers : List PacketBuffer) : Uplink a :=
  buffers.foldl giveBack u

/-- A pump inside the call, which found the upload path as `u`. -/
structure InCall (u : Uplink a) (s : DataLoop a) (call : TxCall) : Prop where
  queue : s.up.txQueue = call.txQueue
  stats : s.up.stats = call.stats
  progress : s.progress = call.progress
  hand : s.up.held = none
  reader : s.up.reader = (recycleAll u call.recycled).reader
  free : s.up.free = (recycleAll u call.recycled).free
  recycleFull : s.up.recycleFull = (recycleAll u call.recycled).recycleFull

/-- A return only looks at the reader and the free channel. -/
private theorem recycle_congr {u v : Uplink a} (reader : u.reader = v.reader)
    (free : u.free = v.free) (full : u.recycleFull = v.recycleFull) (buffer : PacketBuffer) :
    u.recycle buffer = v.recycle buffer := by
  simp only [recycle, reader, free, full]

private theorem recycleAll_concat (u : Uplink a) (buffers : List PacketBuffer)
    (buffer : PacketBuffer) :
    recycleAll u (buffers ++ [buffer]) = (recycleAll u buffers).giveBack buffer := by
  simp [recycleAll]

private theorem giveBack_congr {u v : Uplink a} (reader : u.reader = v.reader)
    (free : u.free = v.free) (full : u.recycleFull = v.recycleFull) (buffer : PacketBuffer) :
    (u.giveBack buffer).reader = (v.giveBack buffer).reader ∧
      (u.giveBack buffer).free = (v.giveBack buffer).free ∧
      (u.giveBack buffer).recycleFull = (v.giveBack buffer).recycleFull := by
  simp only [giveBack, recycle_congr reader free full buffer, reader, and_self]

/-- A fate settled by the pump is settled by the call. -/
private theorem settle_inCall {u : Uplink a} {call : TxCall} {item : TxDatagram}
    {rest : List TxDatagram} (answer : TxAnswer) (fate : Fate) (inCall : InCall u s call) :
    InCall u { s with
      up := applyFate { s.up with held := some item, txQueue := rest } item fate
      progress := s.progress.record fate
      stage := if fate = .refused then .returnIcmp else .queueTx }
      (call.settle item rest answer fate) := by
  obtain ⟨queue, stats, progress, hand, reader, free, full⟩ := inCall
  -- every fate but a refusal returns the buffer
  have returned (stats : TxStats) (sent : List Bytes) :
      let up := { s.up with held := none, txQueue := rest, stats := stats, sent := sent }
      (up.giveBack item.bytes).reader = (recycleAll u (call.recycled ++ [item.bytes])).reader ∧
        (up.giveBack item.bytes).free = (recycleAll u (call.recycled ++ [item.bytes])).free ∧
        (up.giveBack item.bytes).recycleFull =
          (recycleAll u (call.recycled ++ [item.bytes])).recycleFull := by
    rw [recycleAll_concat]
    exact giveBack_congr reader free full item.bytes
  cases fate with
  | refused =>
    exact ⟨rfl, by rw [applyFate, stats]; rfl, by rw [progress]; rfl, rfl, reader, free, full⟩
  | accepted =>
    obtain ⟨sameReader, sameFree, sameFull⟩ := returned _ _
    refine ⟨rfl, ?_, ?_, rfl, sameReader, sameFree, sameFull⟩
    · rw [TxCall.settle, ← stats]; rfl
    · rw [progress]; rfl
  | failed =>
    obtain ⟨sameReader, sameFree, sameFull⟩ := returned _ s.up.sent
    refine ⟨rfl, ?_, progress, rfl, sameReader, sameFree, sameFull⟩
    rw [TxCall.settle, ← stats]; rfl
  | oversize reply =>
    obtain ⟨sameReader, sameFree, sameFull⟩ := returned _ s.up.sent
    refine ⟨rfl, ?_, ?_, rfl, sameReader, sameFree, sameFull⟩
    · rw [TxCall.settle, ← stats]; rfl
    · rw [progress]; rfl

private theorem queueTx_running (here : s.stage = .queueTx) : s.Running := by
  intro error ended
  rw [here] at ended
  cases ended

/-- Two steps of the pump make a turn of the call. -/
private theorem pump_turn {u : Uplink a} {call : TxCall} {item : TxDatagram}
    {rest : List TxDatagram} (answer : TxAnswer) (here : s.stage = .queueTx)
    (inCall : InCall u s call) (head : call.txQueue = item :: rest)
    (room : call.progress.queued < max a.txBurstPackets 1) :
    let fate := judge a.flowPrefix.length s.device.mtu item answer
    ∃ next, Transition.run step s [.pump .proceed, .pump (.settled answer)] = some next ∧
      InCall u next (call.settle item rest answer fate) ∧ next.device = s.device ∧
      next.stage = if fate = .refused then .returnIcmp else .queueTx := by
  intro fate
  have budget : s.progress.queued < max a.txBurstPackets 1 := by
    rw [inCall.progress]
    exact room
  have popped : s.up.pop = some { s.up with held := some item, txQueue := rest } := by
    simp only [pop, inCall.hand, inCall.queue, head]
  have first : step s (.pump .proceed) =
      some { s with up := { s.up with held := some item, txQueue := rest } } := by
    simp only [step, if_pos (queueTx_running here), pump, here, inCall.hand, popTx, if_pos budget,
      popped, if_true]
  have second : step { s with up := { s.up with held := some item, txQueue := rest } }
      (.pump (.settled answer)) = some { s with
        up := applyFate { s.up with held := some item, txQueue := rest } item fate
        progress := s.progress.record fate
        stage := if fate = .refused then .returnIcmp else .queueTx } := by
    have running := queueTx_running (s := { s with
      up := { s.up with held := some item, txQueue := rest } }) here
    simp only [step, if_pos running, pump, if_pos here, settleTx, settle, Option.map_some, fate]
  refine ⟨_, ?_, settle_inCall answer fate inCall, rfl, rfl⟩
  simp only [Transition.run, first, second, Option.bind_some]

/-- The last step of the pump, where the loop's head finds no item or no budget. -/
private theorem pump_exit {u : Uplink a} {call : TxCall} (here : s.stage = .queueTx)
    (inCall : InCall u s call)
    (ends : call.txQueue = [] ∨ max a.txBurstPackets 1 ≤ call.progress.queued) :
    ∃ next, Transition.run step s [.pump .proceed] = some next ∧ InCall u next call ∧
      next.stage = .returnIcmp := by
  have exits : s.popTx = { s with stage := .returnIcmp } := by
    obtain ⟨up, popped, -⟩ | shape := popTx_cases s
    · obtain ⟨item, rest, -, queued, -⟩ := pop_some popped
      rcases ends with empty | full
      · rw [inCall.queue, empty] at queued
        cases queued
      · rw [popTx, if_neg]
        rw [inCall.progress]
        omega
    · exact shape
  refine ⟨{ s with stage := .returnIcmp }, ?_, ⟨inCall.queue, inCall.stats, inCall.progress,
    inCall.hand, inCall.reader, inCall.free, inCall.recycleFull⟩, rfl⟩
  simp only [Transition.run, step, if_pos (queueTx_running here), pump, here, inCall.hand, exits,
    if_true, Option.bind_some]

/-- With the reader at rest, the pump goes through the call: it ends behind it with the
queue, the counters, the progress and the returned buffers the call leaves. -/
theorem pump_makes_call {u : Uplink a} {call : TxCall} (answers : ℕ → TxAnswer)
    (here : s.stage = .queueTx) (inCall : InCall u s call) :
    ∃ labels next, Transition.run step s labels = some next ∧ next.stage = .returnIcmp ∧
      InCall u next (TxCall.drain a.flowPrefix.length s.device.mtu (max a.txBurstPackets 1)
        call.txQueue answers call) := by
  generalize queueDef : call.txQueue = txQueue
  induction txQueue generalizing s call answers with
  | nil =>
    obtain ⟨next, ran, after, ended⟩ := pump_exit here inCall (.inl queueDef)
    exact ⟨_, next, ran, ended, after⟩
  | cons item rest ih =>
    rw [TxCall.drain]
    split
    · rename_i room
      obtain ⟨next, ran, after, device, stage⟩ :=
        pump_turn (answers 0) here inCall queueDef room
      dsimp only
      generalize judge a.flowPrefix.length s.device.mtu item (answers 0) = fate at after stage
      by_cases refuses : fate = .refused
      · rw [if_pos refuses] at stage ⊢
        exact ⟨_, next, ran, stage, after⟩
      · rw [if_neg refuses] at stage ⊢
        have tail : (call.settle item rest (answers 0) fate).txQueue = rest := by
          cases fate with
          | refused => exact absurd rfl refuses
          | accepted | failed | oversize reply => rfl
        obtain ⟨labels, final, ranRest, ended, inFinal⟩ :=
          ih (fun turn => answers (turn + 1)) stage after tail
        rw [device] at inFinal
        exact ⟨_, final, Transition.run_append_iff.mpr ⟨next, ran, ranRest⟩, ended, inFinal⟩
    · rename_i full
      obtain ⟨next, ran, after, ended⟩ := pump_exit here inCall (.inr (Nat.not_lt.mp full))
      exact ⟨_, next, ran, ended, after⟩

/-- From the head of its loop, the pump makes the call on its own queue. -/
theorem pump_makes_queueTxDatagrams (answers : ℕ → TxAnswer) (here : s.stage = .queueTx)
    (hand : s.up.held = none) (idle : s.progress = TxProgress.none) :
    let call := queueTxDatagrams s.up.txQueue s.up.stats a.txBurstPackets a.flowPrefix.length
      s.device.mtu answers
    ∃ labels next, Transition.run step s labels = some next ∧ next.stage = .returnIcmp ∧
      InCall s.up next call := by
  have entered : InCall s.up s (.start s.up.txQueue s.up.stats) := ⟨rfl, rfl, idle, hand, rfl, rfl, rfl⟩
  exact pump_makes_call answers here entered

end Pump

end Usque.DataLoop
