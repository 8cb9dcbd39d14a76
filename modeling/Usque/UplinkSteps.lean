import Usque.Uplink

/-! What each operation of the upload path does, said once. Every later
invariant is derived from these shapes; none unfolds an operation again. -/
namespace Usque.Uplink

open Packet Splice

variable {a : LoopArgs} {u next : Uplink a}

/-! ## Giving a buffer back -/

/-- With room in the channel a buffer is returned, and nothing counts as lost. -/
theorem giveBack_room (alive : u.reader ≠ .ended) (room : u.free.items.length < a.poolSize)
    (buffer : PacketBuffer) :
    (u.giveBack buffer).free.items = u.free.items ++ [buffer] ∧
      (u.giveBack buffer).recycleFull = u.recycleFull := by
  simp only [giveBack, recycle, if_neg alive]
  split
  · rename_i free sent
    exact ⟨(Fifo.trySend_eq_some_iff.mp sent).2, rfl⟩
  · rename_i full
    exact absurd (Fifo.trySend_eq_none_iff.mp full) (by omega)

/-- Once the reader is gone its channel is closed and a return changes nothing. -/
theorem giveBack_ended (ended : u.reader = .ended) (buffer : PacketBuffer) :
    u.giveBack buffer = u := by
  simp only [giveBack, recycle, if_pos ended]

/-- A return adds at most the returned buffer to the free channel. -/
theorem mem_giveBack_free {buffer other : PacketBuffer}
    (member : other ∈ (u.giveBack buffer).free.items) : other ∈ u.free.items ∨ other = buffer := by
  simp only [giveBack, recycle] at member
  split at member
  · exact .inl member
  · split at member
    · rename_i free sent
      rw [(Fifo.trySend_eq_some_iff.mp sent).2] at member
      simpa using member
    · exact .inl member

/-! ## Shapes of the operations -/

theorem takeBuffer_some (taken : u.takeBuffer = some next) :
    ∃ buffer free, u.reader = .waiting ∧ u.free.items = buffer :: free.items ∧
      next = { u with
        reader := .reading { buffer with data := overwrite buffer.data 0 a.flowPrefix }
        free := free } := by
  unfold takeBuffer at taken
  split at taken
  · rename_i buffer free idle received
    cases taken
    exact ⟨buffer, free, idle, Fifo.receive_eq_some_iff.mp received, rfl⟩
  · cases taken

theorem readPacket_some {packet : Bytes} (arrived : u.readPacket packet = some next) :
    ∃ dgram, u.reader = .reading dgram ∧ packet ≠ [] ∧ packet.length ≤ a.readerBufLen ∧
      next = { u with
        reader := .checking
          { dgram with data := overwrite dgram.data a.flowPrefix.length packet } packet.length
        read := u.read ++ [packet] } := by
  unfold readPacket at arrived
  split at arrived
  · rename_i dgram resting
    split at arrived
    · rename_i fits
      cases arrived
      exact ⟨dgram, resting, fits.1, fits.2, rfl⟩
    · cases arrived
  · cases arrived

theorem readEnds_some (stopped : u.readEnds = some next) :
    (∃ dgram, u.reader = .reading dgram) ∧
      next = { u with reader := .ended, free := Fifo.empty } := by
  unfold readEnds at stopped
  split at stopped
  · rename_i dgram resting
    cases stopped
    exact ⟨⟨dgram, resting⟩, rfl⟩
  · cases stopped

/-- The packet read is either refused, counted and its buffer returned, or
prepared in place and handed to the channel. -/
theorem prepare_some (prepared : u.prepare = some next) :
    ∃ dgram n, u.reader = .checking dgram n ∧
      let packet := range dgram.data a.flowPrefix.length (a.flowPrefix.length + n)
      let filled : PacketBuffer :=
        { dgram with data := overwrite dgram.data a.flowPrefix.length (prepareOutgoing packet).2 }
      ((∃ reason, (prepareOutgoing packet).1 = .error reason) ∧
        next = giveBack { u with
          reader := .waiting
          stats := { u.stats with dropped := u.stats.dropped + 1 } } filled) ∨
      ((∃ version, (prepareOutgoing packet).1 = .ok version) ∧
        next = { u with reader := .sending ⟨filled, a.flowPrefix.length + n, n⟩ }) := by
  unfold prepare at prepared
  split at prepared
  · rename_i dgram n resting
    refine ⟨dgram, n, resting, ?_⟩
    dsimp only at prepared ⊢
    split at prepared
    · rename_i reason refused
      cases prepared
      exact .inl ⟨⟨reason, refused⟩, rfl⟩
    · rename_i version accepted
      cases prepared
      exact .inr ⟨⟨version, accepted⟩, rfl⟩
  · cases prepared

theorem send_some (offered : u.send = some next) :
    ∃ item channel, u.reader = .sending item ∧ channel.items = u.channel.items ++ [item] ∧
      next = { u with reader := .waiting, channel := channel } := by
  unfold send at offered
  split at offered
  · rename_i item resting
    split at offered
    · rename_i channel sent
      cases offered
      exact ⟨item, channel, resting, (Fifo.trySend_eq_some_iff.mp sent).2, rfl⟩
    · cases offered
  · cases offered

theorem pull_some (pulled : u.pull = some next) :
    ∃ item channel, u.held = none ∧ u.txQueue.length < a.txQueueLen ∧
      u.channel.items = item :: channel.items ∧ next = { u with channel := channel, txQueue := u.txQueue ++ [item] } := by
  unfold pull at pulled
  split at pulled
  · rename_i free
    split at pulled
    · rename_i item channel received
      cases pulled
      exact ⟨item, channel, free.1, free.2, Fifo.receive_eq_some_iff.mp received, rfl⟩
    · cases pulled
  · cases pulled

theorem noticeClosed_some (noticed : u.noticeClosed = some next) :
    u.Disconnected ∧ next = { u with tunReaderClosed := true } := by
  unfold noticeClosed at noticed
  split at noticed
  · cases noticed
    exact ⟨‹_›, rfl⟩
  · cases noticed

theorem pop_some (popped : u.pop = some next) :
    ∃ item rest, u.held = none ∧ u.txQueue = item :: rest ∧
      next = { u with held := some item, txQueue := rest } := by
  unfold pop at popped
  split at popped
  · rename_i item rest free queued
    cases popped
    exact ⟨item, rest, free, queued, rfl⟩
  · cases popped

theorem settle_some {mtu : UInt16} {answer : TxAnswer} {fate : Fate}
    (settled : u.settle mtu answer = some (fate, next)) :
    ∃ item, u.held = some item ∧ fate = judge a.flowPrefix.length mtu item answer ∧
      next = u.applyFate item fate := by
  unfold settle at settled
  split at settled
  · rename_i item popped
    cases settled
    exact ⟨item, popped, rfl, rfl⟩
  · cases settled

/-- An accepted or dropped item leaves the hand, a refused one returns to the
head of the queue. -/
theorem applyFate_cases (u : Uplink a) (item : TxDatagram) (fate : Fate) :
    (fate = .refused ∧ u.applyFate item fate = { u with
      held := none
      txQueue := item :: u.txQueue
      stats := { u.stats with txBackpressure := u.stats.txBackpressure + 1 } }) ∨
    (fate = .accepted ∧ u.applyFate item fate = giveBack { u with
      held := none
      sent := u.sent ++ [item.wire]
      stats := { u.stats with
        txPackets := u.stats.txPackets + 1
        txBytes := u.stats.txBytes + item.ipLen } } item.bytes) ∨
    (u.applyFate item fate = giveBack { u with
      held := none
      stats := { u.stats with dropped := u.stats.dropped + 1 } } item.bytes) := by
  cases fate with
  | oversize icmp => exact .inr (.inr rfl)
  | refused => exact .inl ⟨rfl, rfl⟩
  | accepted => exact .inr (.inl ⟨rfl, rfl⟩)
  | failed => exact .inr (.inr rfl)

/-- The pool is always filled before the reader starts. -/
theorem start_some (a : LoopArgs) (stats : TxStats) :
    ∃ free, free.items = allocated a ∧ start a stats = some (fresh free stats) := by
  obtain ⟨full, filled, items⟩ := Fifo.fill_eq_some (Fifo.empty : Fifo _ a.poolSize)
    (allocated a) (by simp [allocated])
  exact ⟨full, by simpa using items, by rw [start, filled, Option.map_some]⟩

end Usque.Uplink
