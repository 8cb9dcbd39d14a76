import Usque.UplinkSteps
import Mathlib.Data.List.Perm.Basic
import Mathlib.Data.List.Range

/-! Every buffer of the pool is in exactly one place while the reader lives.
The invariant names the buffers, not only their number: a leak that another
path pays back with a doubled return would still violate it. -/
namespace Usque.Uplink

variable {a : LoopArgs} {u next : Uplink a}

/-- The buffer in the reader's hand, if it has one. -/
def Reader.slots : Reader → List ℕ
  | .reading dgram => [dgram.slot]
  | .checking dgram _ => [dgram.slot]
  | .sending item => [item.bytes.slot]
  | .waiting | .ended => []

/-- The buffers of every place, one list entry for each. -/
def slots (u : Uplink a) : List ℕ :=
  u.free.items.map PacketBuffer.slot ++ u.reader.slots ++
    u.channel.items.map (·.bytes.slot) ++ (u.held.toList ++ u.txQueue).map (·.bytes.slot)

/-- Every buffer is in one place while the reader lives, the pump's queue keeps
to its limit, and no return ever found the free channel full. -/
structure Conserved (u : Uplink a) : Prop where
  pool : u.reader ≠ .ended → u.slots.Perm (List.range a.poolSize)
  queue : u.held.toList.length + u.txQueue.length ≤ a.txQueueLen
  noneLost : u.recycleFull = 0

/-- The reader never has more than one buffer in its hand. -/
theorem reader_slots_le (reader : Reader) : reader.slots.length ≤ 1 := by
  cases reader <;> simp [Reader.slots]

/-- The places add up to the pool. -/
theorem Conserved.count (conserved : Conserved u) (alive : u.reader ≠ .ended) :
    u.free.items.length + u.reader.slots.length + u.channel.items.length +
      (u.held.toList.length + u.txQueue.length) = a.poolSize := by
  have total := (conserved.pool alive).length_eq
  simp only [slots, List.length_append, List.length_map, List.length_range] at total
  omega

private theorem pool_moved (moved : ∀ slot, next.slots.count slot = u.slots.count slot)
    (pool : u.slots.Perm (List.range a.poolSize)) : next.slots.Perm (List.range a.poolSize) :=
  (List.perm_iff_count.mpr moved).trans pool

theorem takeBuffer_conserved (conserved : Conserved u) (taken : u.takeBuffer = some next) :
    Conserved next := by
  obtain ⟨buffer, free, idle, first, rfl⟩ := takeBuffer_some taken
  refine ⟨fun _ => pool_moved (fun slot => ?_) (conserved.pool (by simp [idle])),
    conserved.queue, conserved.noneLost⟩
  simp only [slots, Reader.slots, idle, first, List.map_cons, List.count_append, List.count_cons,
    List.count_nil]
  omega

theorem readPacket_conserved {packet : Bytes} (conserved : Conserved u)
    (arrived : u.readPacket packet = some next) : Conserved next := by
  obtain ⟨dgram, resting, -, -, rfl⟩ := readPacket_some arrived
  refine ⟨fun _ => pool_moved (fun slot => ?_) (conserved.pool (by simp [resting])),
    conserved.queue, conserved.noneLost⟩
  simp only [slots, Reader.slots, resting]

theorem readEnds_conserved (conserved : Conserved u) (stopped : u.readEnds = some next) :
    Conserved next := by
  obtain ⟨-, rfl⟩ := readEnds_some stopped
  exact ⟨fun alive => absurd rfl alive, conserved.queue, conserved.noneLost⟩

theorem send_conserved (conserved : Conserved u) (offered : u.send = some next) :
    Conserved next := by
  obtain ⟨item, channel, resting, appended, rfl⟩ := send_some offered
  refine ⟨fun _ => pool_moved (fun slot => ?_) (conserved.pool (by simp [resting])),
    conserved.queue, conserved.noneLost⟩
  simp only [slots, Reader.slots, resting, appended, List.map_append, List.count_append,
    List.map_cons, List.map_nil, List.count_nil]
  omega

theorem pull_conserved (conserved : Conserved u) (pulled : u.pull = some next) :
    Conserved next := by
  obtain ⟨item, channel, idle, room, first, rfl⟩ := pull_some pulled
  refine ⟨fun alive => pool_moved (fun slot => ?_) (conserved.pool alive), ?_, conserved.noneLost⟩
  · simp only [slots, first, List.map_append, List.map_cons, List.map_nil, List.count_append,
      List.count_cons, List.count_nil]
    omega
  · simp only [idle, Option.toList_none, List.length_nil, List.length_append,
      List.length_singleton]
    omega

theorem noticeClosed_conserved (conserved : Conserved u) (noticed : u.noticeClosed = some next) :
    Conserved next := by
  obtain ⟨-, rfl⟩ := noticeClosed_some noticed
  exact ⟨conserved.pool, conserved.queue, conserved.noneLost⟩

theorem pop_conserved (conserved : Conserved u) (popped : u.pop = some next) : Conserved next := by
  obtain ⟨item, rest, idle, queued, rfl⟩ := pop_some popped
  have limit := conserved.queue
  refine ⟨fun alive => pool_moved (fun slot => ?_) (conserved.pool alive), ?_, conserved.noneLost⟩
  · simp only [slots, idle, queued, Option.toList_none, Option.toList_some, List.nil_append,
      List.singleton_append]
  · simp only [idle, queued, Option.toList_none, Option.toList_some, List.length_nil,
      List.length_cons] at limit ⊢
    omega

/-- A holder that lets its buffer go and returns it keeps the pool whole. The
middle state `u` misses exactly the returned buffer. -/
private theorem giveBack_conserved {buffer : PacketBuffer}
    (missing : u.reader ≠ .ended → (buffer.slot :: u.slots).Perm (List.range a.poolSize))
    (queue : u.held.toList.length + u.txQueue.length ≤ a.txQueueLen)
    (noneLost : u.recycleFull = 0) : Conserved (u.giveBack buffer) := by
  by_cases ended : u.reader = .ended
  · rw [giveBack_ended ended]
    exact ⟨fun alive => absurd ended alive, queue, noneLost⟩
  · have whole := missing ended
    have total := whole.length_eq
    simp only [slots, List.length_cons, List.length_append, List.length_map, List.length_range]
      at total
    obtain ⟨returned, same⟩ := giveBack_room ended (by omega) buffer
    refine ⟨fun _ => (List.perm_iff_count.mpr fun slot => ?_).trans whole, queue,
      same.trans noneLost⟩
    rw [slots, returned]
    simp only [slots, giveBack, List.map_append, List.map_cons, List.map_nil, List.count_append,
      List.count_cons, List.count_nil]
    omega

theorem prepare_conserved (conserved : Conserved u) (prepared : u.prepare = some next) :
    Conserved next := by
  obtain ⟨dgram, n, resting, ⟨-, rfl⟩ | ⟨-, rfl⟩⟩ := prepare_some prepared
  · have whole := conserved.pool (by simp [resting])
    refine giveBack_conserved (fun _ => ?_) conserved.queue conserved.noneLost
    refine (List.perm_iff_count.mpr fun slot => ?_).trans whole
    simp only [slots, Reader.slots, resting, List.count_append, List.count_cons, List.count_nil]
    omega
  · refine ⟨fun _ => pool_moved (fun slot => ?_) (conserved.pool (by simp [resting])),
      conserved.queue, conserved.noneLost⟩
    simp only [slots, Reader.slots, resting]

theorem settle_conserved {mtu : UInt16} {answer : TxAnswer} {fate : Fate}
    (conserved : Conserved u) (settled : u.settle mtu answer = some (fate, next)) :
    Conserved next := by
  obtain ⟨item, popped, -, rfl⟩ := settle_some settled
  have limit := conserved.queue
  simp only [popped, Option.toList_some, List.length_singleton] at limit
  -- The item's buffer is what the state without the popped item misses.
  have missing (alive : u.reader ≠ .ended) :
      (item.bytes.slot :: slots { u with held := none }).Perm (List.range a.poolSize) := by
    refine (List.perm_iff_count.mpr fun slot => ?_).trans (conserved.pool alive)
    simp only [slots, popped, Option.toList_none, Option.toList_some, List.map_append,
      List.map_cons, List.map_nil, List.count_append, List.count_cons, List.count_nil]
    omega
  rcases applyFate_cases u item fate with ⟨-, shape⟩ | ⟨-, shape⟩ | shape
  · rw [shape]
    refine ⟨fun alive => (List.perm_iff_count.mpr fun slot => ?_).trans (conserved.pool alive),
      by simp only [Option.toList_none, List.length_nil, List.length_cons]; omega,
      conserved.noneLost⟩
    simp only [slots, popped, Option.toList_none, Option.toList_some, List.nil_append,
      List.singleton_append]
  · rw [shape]
    exact giveBack_conserved missing
      (by simp only [Option.toList_none, List.length_nil]; omega) conserved.noneLost
  · rw [shape]
    exact giveBack_conserved missing
      (by simp only [Option.toList_none, List.length_nil]; omega) conserved.noneLost

/-- No operation of either task loses a buffer or returns one twice. -/
theorem step_conserved (action : Action) (conserved : Conserved u)
    (stepped : step u action = some next) : Conserved next := by
  cases action with
  | takeBuffer => exact takeBuffer_conserved conserved stepped
  | readPacket packet => exact readPacket_conserved conserved stepped
  | readEnds => exact readEnds_conserved conserved stepped
  | prepare => exact prepare_conserved conserved stepped
  | send => exact send_conserved conserved stepped
  | pull => exact pull_conserved conserved stepped
  | noticeClosed => exact noticeClosed_conserved conserved stepped
  | pop => exact pop_conserved conserved stepped
  | settle mtu answer =>
    simp only [step, Option.map_eq_some_iff] at stepped
    obtain ⟨⟨fate, after⟩, settled, rfl⟩ := stepped
    exact settle_conserved conserved settled

/-- The freshly filled pool is whole. -/
theorem fresh_conserved {free : Fifo PacketBuffer a.poolSize} (stats : TxStats)
    (filled : free.items = allocated a) : Conserved (fresh free stats) := by
  refine ⟨fun _ => ?_, Nat.zero_le _, rfl⟩
  have allSlots : (allocated a).map PacketBuffer.slot = List.range a.poolSize := by
    simp [allocated, Function.comp_def]
  simp [slots, fresh, filled, Reader.slots, allSlots]

end Usque.Uplink
