import Usque.UdpBatch

/-! What a whole flush guarantees. Between any two calls the datagrams that quiche has
produced and the socket has not accepted stand, in order, in one range of the batch; every
loop moves the ends of that range and nothing else. -/
namespace Usque.UdpBatch

open Timing

variable {target : Target} {io : UdpBatchIo} {s next : Flush} {label : Label}
  {pending : List Datagram} {datagram : Datagram} {buffer : Bytes}
  {low high start sent stop count index : ℕ} {drained : Bool} {now : Instant}

/-! ## The slots of the batch -/

namespace UdpBatchIo

theorem slot_some (holds : io.slot index = some datagram) :
    ∃ buffer length, io.txBuffers[index]? = some buffer ∧ io.txLens[index]? = some length ∧
      io.txAt[index]? = some datagram.deadline ∧ length ≤ buffer.length ∧
      datagram.bytes = buffer.take length := by
  simp only [slot, Option.bind_eq_bind, Option.bind_eq_some_iff] at holds
  obtain ⟨buffer, hasBuffer, length, hasLength, deadline, hasDeadline, read⟩ := holds
  by_cases fits : length ≤ buffer.length
  · rw [if_pos fits, Option.some.injEq] at read
    subst read
    exact ⟨buffer, length, hasBuffer, hasLength, hasDeadline, fits, rfl⟩
  · rw [if_neg fits] at read
    cases read

theorem slot_store_same (inside : index < io.batchSize) :
    (io.store index buffer datagram).slot index = some datagram := by
  have buffers : index < io.txBuffers.length := io.buffersFull ▸ inside
  have lens : index < io.txLens.length := io.lensFull ▸ inside
  have deadlines : index < io.txAt.length := io.atFull ▸ inside
  simp [slot, store, buffers, lens, deadlines]

theorem slot_store_other {other : ℕ} (apart : other ≠ index) :
    (io.store index buffer datagram).slot other = io.slot other := by
  simp [slot, store, List.getElem?_set_ne apart.symm]

@[simp] theorem recordSleep_batchSize (wait : Duration) :
    (io.recordSleep wait).batchSize = io.batchSize := by
  unfold recordSleep
  split <;> rfl

@[simp] theorem recordSleep_txBuffers (wait : Duration) :
    (io.recordSleep wait).txBuffers = io.txBuffers := by
  unfold recordSleep
  split <;> rfl

@[simp] theorem recordSleep_txLens (wait : Duration) :
    (io.recordSleep wait).txLens = io.txLens := by
  unfold recordSleep
  split <;> rfl

@[simp] theorem recordSleep_txAt (wait : Duration) :
    (io.recordSleep wait).txAt = io.txAt := by
  unfold recordSleep
  split <;> rfl

/-- These datagrams stand in the slots `low..high`, in order. -/
structure Holds (io : UdpBatchIo) (low high : ℕ) (pending : List Datagram) : Prop where
  size : low + pending.length = high
  slots : ∀ index < pending.length, io.slot (low + index) = pending[index]?

theorem holds_nothing_iff : io.Holds low low pending ↔ pending = [] := by
  constructor
  · intro holds
    have size := holds.size
    exact List.eq_nil_of_length_eq_zero (by omega)
  · rintro rfl
    exact ⟨rfl, fun index inside => absurd inside (Nat.not_lt_zero index)⟩

/-- A stored datagram goes behind those that stand in front of its slot. -/
theorem Holds.store (holds : io.Holds low index pending) (inside : index < io.batchSize) :
    (io.store index buffer datagram).Holds low (index + 1) (pending ++ [datagram]) := by
  have size := holds.size
  refine ⟨by simp only [List.length_append, List.length_singleton]; omega, ?_⟩
  intro position before
  rw [List.length_append, List.length_singleton] at before
  by_cases last : position = pending.length
  · subst last
    rw [size, slot_store_same inside, List.getElem?_concat_length]
  · rw [slot_store_other (by omega), holds.slots position (by omega),
      List.getElem?_append_left (by omega)]

theorem Holds.recordSleep (holds : io.Holds low high pending) (wait : Duration) :
    (io.recordSleep wait).Holds low high pending := by
  refine ⟨holds.size, ?_⟩
  intro index inside
  rw [← holds.slots index inside]
  simp [slot]

/-- What is sent leaves the range at its front. -/
theorem Holds.drop (holds : io.Holds low high pending) {taken : ℕ} (some' : low + taken ≤ high) :
    io.Holds (low + taken) high (pending.drop taken) := by
  have size := holds.size
  refine ⟨by rw [List.length_drop]; omega, ?_⟩
  intro position before
  rw [List.length_drop] at before
  rw [Nat.add_assoc, holds.slots (taken + position) (by omega), List.getElem?_drop]

end UdpBatchIo

open UdpBatchIo (Holds)

/-! ## What the kernel is offered -/

theorem slice_some {items : List α} (ordered : start ≤ stop) (inside : stop ≤ items.length) :
    slice items start stop = some (Splice.range items start stop) := if_pos ⟨ordered, inside⟩

/-- The loop over the message headers stays within slices of the batch and reads every
datagram at its full length. -/
theorem iovecs_slices (holds : io.Holds sent high pending) {size : ℕ}
    (inSlice : sent + size ≤ stop) (inRange : size ≤ pending.length) :
    iovecs (Splice.range io.txBuffers sent stop) (Splice.range io.txLens sent stop) size =
      some ((pending.take size).map Datagram.bytes) := by
  induction size with
  | zero => rfl
  | succ index ih =>
    have here : index < pending.length := by omega
    have held := holds.slots index here
    rw [List.getElem?_eq_getElem here] at held
    obtain ⟨buffer, length, hasBuffer, hasLength, -, fits, read⟩ := UdpBatchIo.slot_some held
    rw [iovecs, ih (by omega) (by omega), Splice.getElem?_range, Splice.getElem?_range,
      if_pos (by omega), if_pos (by omega), hasBuffer, hasLength, List.take_add_one,
      List.getElem?_eq_getElem here]
    simp only [Option.bind_eq_bind, Option.bind_some, if_pos fits, Option.toList_some,
      List.map_append, List.map_cons, List.map_nil, read]

/-- Some datagrams are offered, at most those up to `stop`, in order. -/
theorem offered_some (target : Target) (holds : io.Holds sent high pending) (ordered : sent < stop)
    (within : stop ≤ high) (inside : high ≤ io.batchSize) :
    ∃ size, sent + size ≤ stop ∧ size ≤ pending.length ∧
      target.offered io sent stop = some ((pending.take size).map Datagram.bytes) := by
  have size := holds.size
  have buffers := io.buffersFull
  have lens := io.lensFull
  cases target with
  | freebsd =>
    have bufferSlice : (Splice.range io.txBuffers sent stop).length = stop - sent := by
      simp only [Splice.range, List.length_take, List.length_drop]
      omega
    have lengthSlice : (Splice.range io.txLens sent stop).length = stop - sent := by
      simp only [Splice.range, List.length_take, List.length_drop]
      omega
    refine ⟨min (stop - sent) maxUdpBatchSize, by omega, by omega, ?_⟩
    simp only [Target.offered, slice_some ordered.le (buffers ▸ within.trans inside),
      slice_some ordered.le (lens ▸ within.trans inside), Option.bind_eq_bind, Option.bind_some,
      sendmmsgMessages, bufferSlice, lengthSlice, Nat.min_self]
    exact iovecs_slices holds (by omega) (by omega)
  | other =>
    have here : 0 < pending.length := by omega
    have held := holds.slots 0 here
    rw [List.getElem?_eq_getElem here] at held
    obtain ⟨buffer, length, hasBuffer, hasLength, -, fits, read⟩ := UdpBatchIo.slot_some held
    rw [Nat.add_zero] at hasBuffer hasLength
    refine ⟨1, by omega, here, ?_⟩
    simp [Target.offered, hasBuffer, hasLength, fits, List.take_add_one,
      List.getElem?_eq_getElem here, read]

/-- The slots `low..high` hold datagrams whose deadline has come. -/
def UdpBatchIo.Due (io : UdpBatchIo) (low high : ℕ) (now : Instant) : Prop :=
  ∀ index, low ≤ index → index < high → ∀ deadline, io.txAt[index]? = some deadline →
    deadline ≤ now

theorem UdpBatchIo.Due.later (due : io.Due low high now) (passed : Duration) :
    io.Due low high (now + passed) := by
  intro index after before deadline has
  have come := due index after before deadline has
  unfold Instant Duration at *
  omega

/-- A group ends within the batch and takes in only slots whose deadline has come. -/
theorem groupEnd_some {txAt : List Instant} {left : ℕ} (now : Instant)
    (inside : stop + left ≤ txAt.length) :
    ∃ last, groupEnd txAt now stop left = some last ∧ stop ≤ last ∧ last ≤ stop + left ∧
      ∀ index, stop ≤ index → index < last → ∀ deadline, txAt[index]? = some deadline →
        deadline ≤ now := by
  induction left generalizing stop with
  | zero => exact ⟨stop, rfl, le_rfl, le_rfl, fun index after before => by omega⟩
  | succ left ih =>
    have here : stop < txAt.length := by omega
    rw [groupEnd, List.getElem?_eq_getElem here]
    by_cases come : txAt[stop] ≤ now
    · have fits : stop + 1 + left ≤ txAt.length := by omega
      obtain ⟨last, ended, after, before, due⟩ := ih fits
      refine ⟨last, by simpa only [come, if_true] using ended, by omega, by omega, ?_⟩
      intro index low high deadline has
      rcases Nat.eq_or_lt_of_le low with rfl | later
      · rw [List.getElem?_eq_getElem here, Option.some.injEq] at has
        exact has ▸ come
      · exact due index later high deadline has
    · exact ⟨stop, by simp only [come, if_false], le_rfl, by omega,
        fun index after before => by omega⟩

/-! ## The invariant -/

/-- The datagrams produced and not yet accepted. -/
def Flush.unsent (s : Flush) : List Datagram := s.produced.drop s.accepted.length

/-- The kernel was handed what comes next in production order, none of it early. -/
def InTime (produced : List Datagram) (handOver : HandOver) : Prop :=
  handOver.messages =
      ((produced.drop handOver.accepted).take handOver.messages.length).map Datagram.bytes ∧
    ∀ datagram ∈ (produced.drop handOver.accepted).take handOver.messages.length,
      datagram.deadline ≤ handOver.time

/-- What quiche produces later changes nothing about messages handed over before. -/
theorem InTime.grow {produced : List Datagram} {handOver : HandOver}
    (inTime : InTime produced handOver) (more : List Datagram) :
    InTime (produced ++ more) handOver := by
  obtain ⟨messages, early⟩ := inTime
  have short := congrArg List.length messages
  rw [List.length_map, List.length_take, List.length_drop] at short
  have same : ((produced ++ more).drop handOver.accepted).take handOver.messages.length =
      (produced.drop handOver.accepted).take handOver.messages.length := by
    rw [List.drop_append, List.take_append_of_le_length]
    rw [List.length_drop]
    omega
  exact ⟨same ▸ messages, same ▸ early⟩

/-- Where the unsent datagrams stand. -/
def Flush.Placed (s : Flush) : Prop :=
  match s.stage with
  | .produce count => count < s.io.batchSize ∧ s.io.Holds 0 count s.unsent
  | .paced start count _ =>
    start < count ∧ count ≤ s.io.batchSize ∧ s.io.Holds start count s.unsent
  | .batch sent stop count _ | .writable sent stop count _ =>
    sent < stop ∧ stop ≤ count ∧ count ≤ s.io.batchSize ∧ s.io.Holds sent count s.unsent ∧
      s.io.Due sent stop s.now
  | .returned ok => ok = true → s.unsent = []
  | .faulted => False

structure Flush.Sound (s : Flush) : Prop where
  inOrder : s.accepted = (s.produced.take s.accepted.length).map Datagram.bytes
  inTime : ∀ handOver ∈ s.handed, InTime s.produced handOver
  placed : s.Placed

/-! ## The loop heads -/

theorem afterBatches_placed (here : s.stage = afterBatches drained) (sent : s.unsent = []) :
    s.Placed := by
  unfold Flush.Placed
  rw [here]
  cases drained with
  | true => exact fun _ => sent
  | false => exact ⟨s.io.positive, UdpBatchIo.holds_nothing_iff.mpr sent⟩

theorem nextGroup_placed (here : s.stage = nextGroup start count drained)
    (inside : count ≤ s.io.batchSize) (holds : s.io.Holds start count s.unsent) : s.Placed := by
  by_cases more : start < count
  · unfold Flush.Placed
    rw [here, nextGroup, if_pos more]
    exact ⟨more, inside, holds⟩
  · rw [nextGroup, if_neg more] at here
    have size := holds.size
    exact afterBatches_placed here (List.eq_nil_of_length_eq_zero (by omega))

theorem nextChunk_placed (here : s.stage = nextChunk sent stop count drained)
    (ordered : sent ≤ stop) (within : stop ≤ count) (inside : count ≤ s.io.batchSize)
    (holds : s.io.Holds sent count s.unsent) (due : s.io.Due sent stop s.now) : s.Placed := by
  by_cases more : sent < stop
  · unfold Flush.Placed
    rw [here, nextChunk, if_pos more]
    exact ⟨more, within, inside, holds, due⟩
  · rw [nextChunk, if_neg more] at here
    have same : sent = stop := by omega
    exact nextGroup_placed here inside (same ▸ holds)

theorem afterProduction_placed (here : s.stage = afterProduction count drained)
    (inside : count ≤ s.io.batchSize) (holds : s.io.Holds 0 count s.unsent) : s.Placed := by
  by_cases some' : 0 < count
  · rw [afterProduction, if_pos some'] at here
    exact nextGroup_placed here inside holds
  · rw [afterProduction, if_neg some'] at here
    have none : count = 0 := by omega
    exact afterBatches_placed here (UdpBatchIo.holds_nothing_iff.mp (none ▸ holds))

/-! ## The steps -/

theorem Flush.Sound.accepted_le (sound : s.Sound) : s.accepted.length ≤ s.produced.length := by
  have short := congrArg List.length sound.inOrder
  rw [List.length_map, List.length_take] at short
  omega

/-- Producing writes to the slot behind the unsent datagrams. -/
theorem produce_sound {answer : SendAnswer} (sound : s.Sound) (here : s.stage = .produce count)
    (stepped : s.produce count answer = some next) : next.Sound := by
  have placed := sound.placed
  unfold Flush.Placed at placed
  rw [here] at placed
  obtain ⟨room, holds⟩ := placed
  have inBuffers : count < s.io.txBuffers.length := s.io.buffersFull ▸ room
  have inArrays : ¬(s.io.txLens.length ≤ count ∨ s.io.txAt.length ≤ count) := by
    rw [s.io.lensFull, s.io.atFull]
    omega
  rw [Flush.produce, List.getElem?_eq_getElem inBuffers] at stepped
  cases answer with
  | datagram datagram =>
    simp only [if_neg inArrays] at stepped
    split at stepped
    · cases stepped
    · cases stepped
      have short := sound.accepted_le
      have unsent : (s.produced ++ [datagram]).drop s.accepted.length = s.unsent ++ [datagram] :=
        List.drop_append_of_le_length short
      have stored : (s.io.store count s.io.txBuffers[count] datagram).Holds 0 (count + 1)
          ((s.produced ++ [datagram]).drop s.accepted.length) :=
        unsent ▸ holds.store room
      refine ⟨?_, fun handOver member => (sound.inTime handOver member).grow _, ?_⟩
      · rw [List.take_append_of_le_length short]
        exact sound.inOrder
      · by_cases more : count + 1 < s.io.batchSize
        · simp only [if_pos more]
          exact ⟨more, stored⟩
        · simp only [if_neg more]
          exact afterProduction_placed rfl room stored
  | done =>
    cases stepped
    exact ⟨sound.inOrder, sound.inTime, afterProduction_placed rfl room.le holds⟩
  | error =>
    cases stepped
    exact ⟨sound.inOrder, sound.inTime, fun failed => nomatch failed⟩

/-- After the sleep the first deadline has come, and the group takes in no other. -/
theorem pace_sound {before oversleep after : Duration} (sound : s.Sound)
    (here : s.stage = .paced start count drained) :
    (s.pace start count drained before oversleep after).Sound := by
  have placed := sound.placed
  unfold Flush.Placed at placed
  rw [here] at placed
  obtain ⟨more, inside, holds⟩ := placed
  have full := s.io.atFull
  have inBatch : start < s.io.txAt.length := by omega
  simp only [Flush.pace, List.getElem?_eq_getElem inBatch]
  generalize awake : (s.now + before +
    (if (s.io.txAt[start] - (s.now + before)).toNat = 0 then 0
      else (s.io.txAt[start] - (s.now + before)).toNat + oversleep) + after : Instant) = now
  have come : s.io.txAt[start] ≤ now := by
    rw [← awake]
    unfold Instant Duration at *
    split <;> omega
  have fits : start + 1 + (count - (start + 1)) ≤ s.io.txAt.length := by omega
  obtain ⟨stop, ended, later, within, due⟩ := groupEnd_some now fits
  simp only [ended]
  refine ⟨sound.inOrder, sound.inTime, ?_⟩
  refine nextChunk_placed rfl (by omega) (by omega) ?_ (holds.recordSleep _) ?_
  · simpa using inside
  · intro index low high deadline has
    simp only [UdpBatchIo.recordSleep_txAt] at has
    rcases Nat.eq_or_lt_of_le low with rfl | behind
    · rw [List.getElem?_eq_getElem inBatch, Option.some.injEq] at has
      exact has ▸ come
    · exact due index behind high deadline has

/-- Whatever is offered is next in production order and no longer early. -/
theorem handOver_inTime {size : ℕ} {passed : Duration}
    (holds : s.io.Holds sent count s.unsent) (due : s.io.Due sent stop s.now)
    (within : sent + size ≤ stop) (inRange : size ≤ s.unsent.length) :
    InTime s.produced ⟨s.now + passed, s.accepted.length,
      (s.unsent.take size).map Datagram.bytes⟩ := by
  have whole : ((s.unsent.take size).map Datagram.bytes).length = size := by
    rw [List.length_map, List.length_take, Nat.min_eq_left inRange]
  unfold InTime
  simp only [whole]
  refine ⟨rfl, ?_⟩
  intro datagram member
  obtain ⟨index, found⟩ := List.mem_iff_getElem?.mp member
  have inTake := (List.getElem?_eq_some_iff.mp found).1
  rw [List.length_take] at inTake
  rw [List.getElem?_take_of_lt (by omega)] at found
  have held := (holds.slots index (by omega)).trans found
  obtain ⟨-, -, -, -, deadline, -⟩ := UdpBatchIo.slot_some held
  have come := due (sent + index) (by omega) (by omega) datagram.deadline deadline
  unfold Instant Duration at *
  omega

theorem possible_sent_le {taken offered : ℕ}
    (possible : (KernelAnswer.sent taken).possible target offered = true) : taken ≤ offered := by
  cases target with
  | freebsd => exact of_decide_eq_true possible
  | other => exact (of_decide_eq_true possible).le

/-- Accepting the first of the unsent datagrams keeps the order of production. -/
theorem accept_inOrder {accepted : List Bytes} {produced : List Datagram} {taken size : ℕ}
    (inOrder : accepted = (produced.take accepted.length).map Datagram.bytes)
    (offered : taken ≤ size) (inRange : size ≤ (produced.drop accepted.length).length) :
    let more := accepted ++
      (((produced.drop accepted.length).take size).map Datagram.bytes).take taken
    more.length = accepted.length + taken ∧
      more = (produced.take more.length).map Datagram.bytes := by
  intro more
  have front : more = accepted ++
      ((produced.drop accepted.length).take taken).map Datagram.bytes := by
    simp only [more, ← List.map_take, List.take_take, Nat.min_eq_left offered]
  have longer : more.length = accepted.length + taken := by
    rw [front, List.length_append, List.length_map, List.length_take,
      Nat.min_eq_left (offered.trans inRange)]
  refine ⟨longer, ?_⟩
  rw [longer, List.take_add, List.map_append, ← inOrder]
  exact front

/-- What the kernel takes is the front of the unsent datagrams. -/
theorem attempt_sound {passed : Duration} {answer : KernelAnswer} (sound : s.Sound)
    (here : s.stage = .batch sent stop count drained)
    (stepped : s.attempt target sent stop count drained passed answer = some next) :
    next.Sound := by
  have placed := sound.placed
  unfold Flush.Placed at placed
  rw [here] at placed
  obtain ⟨ordered, within, inside, holds, due⟩ := placed
  have later := due.later passed
  obtain ⟨size, inGroup, inRange, offered⟩ := offered_some target holds ordered within inside
  have handed : ∀ handOver ∈ s.handed ++ [⟨s.now + passed, s.accepted.length,
      (s.unsent.take size).map Datagram.bytes⟩], InTime s.produced handOver := by
    intro handOver member
    rcases List.mem_append.mp member with old | new
    · exact sound.inTime handOver old
    · rw [List.mem_singleton.mp new]
      exact handOver_inTime holds due inGroup inRange
  cases answer with
  | notReady =>
    cases stepped
    exact ⟨sound.inOrder, sound.inTime, ordered, within, inside, holds, later⟩
  | wouldBlock =>
    simp only [Flush.attempt, offered, KernelAnswer.possible, if_true] at stepped
    cases stepped
    exact ⟨sound.inOrder, handed, ordered, within, inside, holds, later⟩
  | failed =>
    simp only [Flush.attempt, offered, KernelAnswer.possible, if_true] at stepped
    cases stepped
    exact ⟨sound.inOrder, handed, fun failed => nomatch failed⟩
  | sent taken =>
    simp only [Flush.attempt, offered] at stepped
    split at stepped
    · rename_i possible
      have offeredTaken := possible_sent_le possible
      rw [List.length_map, List.length_take, Nat.min_eq_left inRange] at offeredTaken
      obtain ⟨longer, inOrder⟩ := accept_inOrder sound.inOrder offeredTaken inRange
      have fits : sent + taken ≤ count := by omega
      have dropped := holds.drop fits
      have rest : s.unsent.drop taken = s.produced.drop (s.accepted.length + taken) :=
        List.drop_drop
      rw [rest, ← longer] at dropped
      cases stepped
      refine ⟨inOrder, handed, ?_⟩
      by_cases zero : taken = 0
      · subst zero
        exact ⟨ordered, within, inside, dropped, later⟩
      · refine nextChunk_placed (if_neg zero) (by omega) within inside dropped ?_
        intro index low high deadline has
        exact later index (by omega) high deadline has
    · cases stepped

theorem step_sound (sound : s.Sound) (stepped : step target s label = some next) :
    next.Sound := by
  unfold step at stepped
  split at stepped
  · rename_i count answer here
    exact produce_sound sound here stepped
  · rename_i start count drained before oversleep after here
    cases stepped
    exact pace_sound sound here
  · rename_i sent stop count drained passed answer here
    exact attempt_sound sound here stepped
  · rename_i sent stop count drained passed ok here
    have placed := sound.placed
    unfold Flush.Placed at placed
    rw [here] at placed
    obtain ⟨ordered, within, inside, holds, due⟩ := placed
    cases stepped
    refine ⟨sound.inOrder, sound.inTime, ?_⟩
    cases ok with
    | true => exact ⟨ordered, within, inside, holds, due.later passed⟩
    | false => exact fun failed => nomatch failed
  · cases stepped

theorem start_sound (io : UdpBatchIo) (now : Instant) : (UdpBatch.start io now).Sound :=
  ⟨rfl, fun _ member => (nomatch member), ⟨io.positive, UdpBatchIo.holds_nothing_iff.mpr rfl⟩⟩

/-! ## Whole flushes -/

/-- Some array of the batch changes in this slot. -/
def Rewrites (s next : Flush) (index : ℕ) : Prop :=
  next.io.txBuffers[index]? ≠ s.io.txBuffers[index]? ∨
    next.io.txLens[index]? ≠ s.io.txLens[index]? ∨ next.io.txAt[index]? ≠ s.io.txAt[index]?

theorem not_rewrites (buffers : next.io.txBuffers = s.io.txBuffers)
    (lens : next.io.txLens = s.io.txLens) (deadlines : next.io.txAt = s.io.txAt) :
    ¬Rewrites s next index := by
  rw [Rewrites, buffers, lens, deadlines]
  simp

theorem produce_rewrites {answer : SendAnswer} (stepped : s.produce count answer = some next)
    (rewrites : Rewrites s next index) : index = count := by
  unfold Flush.produce at stepped
  split at stepped
  · cases stepped
    exact absurd rewrites (not_rewrites rfl rfl rfl)
  · cases answer with
    | datagram datagram =>
      dsimp only at stepped
      split at stepped
      · cases stepped
      · split at stepped
        · cases stepped
          exact absurd rewrites (not_rewrites rfl rfl rfl)
        · cases stepped
          by_contra apart
          simp [Rewrites, UdpBatchIo.store, List.getElem?_set_ne (Ne.symm apart)] at rewrites
    | done =>
      cases stepped
      exact absurd rewrites (not_rewrites rfl rfl rfl)
    | error =>
      cases stepped
      exact absurd rewrites (not_rewrites rfl rfl rfl)

theorem pace_rewrites {before oversleep after : Duration} :
    ¬Rewrites s (s.pace start count drained before oversleep after) index := by
  unfold Flush.pace
  split
  · exact not_rewrites rfl rfl rfl
  · dsimp only
    split <;> exact not_rewrites (UdpBatchIo.recordSleep_txBuffers _)
      (UdpBatchIo.recordSleep_txLens _) (UdpBatchIo.recordSleep_txAt _)

theorem attempt_io {passed : Duration} {answer : KernelAnswer}
    (stepped : s.attempt target sent stop count drained passed answer = some next) :
    next.io = s.io := by
  unfold Flush.attempt at stepped
  split at stepped
  · cases stepped
    rfl
  · split at stepped
    · cases stepped
      rfl
    · split at stepped
      · dsimp only at stepped
        split at stepped <;> cases stepped <;> rfl
      · cases stepped

/-- Only production writes to the batch, and only to the slot behind the unsent
datagrams. -/
theorem rewrites_behind (sound : s.Sound) (stepped : step target s label = some next)
    (rewrites : Rewrites s next index) : s.io.Holds 0 index s.unsent := by
  have placed := sound.placed
  unfold Flush.Placed at placed
  unfold step at stepped
  split at stepped
  · rename_i count answer here
    rw [here] at placed
    exact produce_rewrites stepped rewrites ▸ placed.2
  · cases stepped
    exact absurd rewrites pace_rewrites
  · have io := attempt_io stepped
    exact absurd rewrites (not_rewrites (io ▸ rfl) (io ▸ rfl) (io ▸ rfl))
  · cases stepped
    exact absurd rewrites (not_rewrites rfl rfl rfl)
  · cases stepped

/-- A flush never leaves its arrays, hands nothing over early or out of order, and writes
to a slot only once what stood there is sent. When it returns `Ok`, the socket has accepted
exactly what quiche produced. -/
theorem flush_quic_transmits {labels : List Label}
    (ran : Transition.run (step target) (UdpBatch.start io now) labels = some s) :
    s.stage ≠ .faulted ∧
      s.accepted <+: s.produced.map Datagram.bytes ∧
      (∀ handOver ∈ s.handed, InTime s.produced handOver) ∧
      (∀ label next index, step target s label = some next → Rewrites s next index →
        s.io.Holds 0 index s.unsent) ∧
      (s.stage = .returned true → s.accepted = s.produced.map Datagram.bytes) := by
  have sound : s.Sound := Transition.run_preserves Flush.Sound
    (fun _ _ _ sound stepped => step_sound sound stepped) (start_sound io now) ran
  have placed := sound.placed
  unfold Flush.Placed at placed
  refine ⟨?_, ?_, sound.inTime, ?_, ?_⟩
  · intro faulted
    rw [faulted] at placed
    exact placed
  · rw [sound.inOrder, List.map_take]
    exact List.take_prefix _ _
  · intro label next index stepped rewrites
    exact rewrites_behind sound stepped rewrites
  · intro returned
    rw [returned] at placed
    have all : s.produced.length ≤ s.accepted.length := List.drop_eq_nil_iff.mp (placed rfl)
    rw [sound.inOrder, List.take_of_length_le all]

/-- Three datagrams in batches of two, against a kernel that takes one at a time. -/
def reluctantKernel : List Label :=
  [.send (.datagram ⟨[1], 5⟩), .send (.datagram ⟨[2, 3], 3⟩), .pace 0 1 0, .kernel 0 (.sent 1),
    .kernel 0 .wouldBlock, .writable 1 true, .kernel 0 (.sent 1), .send (.datagram ⟨[4], 9⟩),
    .send .done, .pace 0 0 0, .kernel 0 .notReady, .writable 0 true, .kernel 1 (.sent 1)]

set_option maxRecDepth 10000 in
theorem flush_quic_transmits_reluctantly :
    ∃ s, Transition.run (step .freebsd) (UdpBatch.start (.new 1500 2 0) 0) reluctantKernel = some s ∧
      s.accepted = s.produced.map Datagram.bytes ∧ s.accepted = [[1], [2, 3], [4]] := by
  have ends : (Transition.run (step .freebsd) (UdpBatch.start (.new 1500 2 0) 0)
      reluctantKernel).map (fun s => (s.stage, s.accepted)) =
        some (.returned true, [[1], [2, 3], [4]]) := by decide
  obtain ⟨s, ran, last⟩ := Option.map_eq_some_iff.mp ends
  obtain ⟨returned, accepted⟩ := Prod.mk.inj last
  exact ⟨s, ran, (flush_quic_transmits ran).2.2.2.2 returned, accepted⟩

end Usque.UdpBatch
