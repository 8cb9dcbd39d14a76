import Usque.UdpReceive

/-! What any number of drains on one socket hands to quiche. Between any two calls the
datagrams taken off the socket and not yet handed over stand in one window of the receive
buffers, and every step moves the ends of that window or fills the slot behind it. -/
namespace Usque.UdpReceive

open UdpBatch (UdpBatchIo Target maxDatagramSize maxUdpBatchSize)

variable {target : Target} {batch : BatchIo} {s next : Socket} {index count size : ℕ}
  {datagram bytes left : Bytes} {pending datagrams : List Bytes}

/-! ## The slots -/

/-- What is left of a datagram once it is in a slot. -/
def kept (target : Target) (size : ℕ) (datagram : Bytes) : Bytes :=
  datagram.take (lengthNoted target size datagram)

theorem lengthNoted_le (target : Target) (size : ℕ) (datagram : Bytes) :
    lengthNoted target size datagram ≤ min datagram.length size := by
  cases target with
  | freebsd =>
    simp only [lengthNoted]
    split
    · exact Nat.zero_le _
    · exact le_rfl
  | other => exact le_rfl

/-- Nothing of a datagram that fits is lost. -/
theorem kept_of_fits (fits : datagram.length ≤ size) : kept target size datagram = datagram := by
  cases target with
  | freebsd => simp [kept, lengthNoted, Nat.not_lt.mpr fits, fits]
  | other => simp [kept, lengthNoted, fits]

theorem kept_of_cut (long : size < datagram.length) :
    kept target size datagram = match target with
      | .freebsd => []
      | .other => datagram.take size := by
  cases target with
  | freebsd => simp [kept, lengthNoted, long]
  | other => simp [kept, lengthNoted, long.le]

/-- Reading the front of a buffer back behind a write to it. -/
theorem take_overwrite_front {buffer : Bytes} (fits : datagram.length ≤ buffer.length)
    (within : size ≤ datagram.length) :
    (Splice.overwrite buffer 0 datagram).take size = datagram.take size := by
  have fitsThere : 0 + datagram.length ≤ buffer.length := by omega
  have written := Splice.take_overwrite_end fitsThere
  rw [Nat.zero_add, List.take_zero, List.nil_append] at written
  rw [← Nat.min_eq_left within, ← List.take_take, written, Nat.min_eq_left within]

namespace BatchIo

@[simp] theorem write_tx (bytes : Bytes) : (batch.write index bytes).tx = batch.tx := rfl

theorem write_same (bytes : Bytes) :
    (batch.write index bytes).rxBuffers[index]? = batch.rxBuffers[index]?.map fun buffer =>
      Splice.overwrite buffer 0 (bytes.take buffer.length) := by
  simp [write, Option.map_eq_map]

theorem write_other {other : ℕ} (bytes : Bytes) (apart : other ≠ index) :
    (batch.write index bytes).rxBuffers[other]? = batch.rxBuffers[other]? := by
  simp [write, apart.symm]

/-- A datagram that fills a slot replaces all that is read from it, whatever the buffer and
the shared lengths held, and leaves the other slots alone. -/
theorem fill_some (target : Target) (batch : BatchIo) (datagram : Bytes)
    (inside : index < batch.tx.batchSize) :
    ∃ filled, batch.fill target index datagram = some filled ∧
      filled.received index = some (kept target batch.datagramSize datagram) ∧
      (∀ other, other ≠ index → filled.received other = batch.received other) ∧
      filled.tx.batchSize = batch.tx.batchSize ∧ filled.datagramSize = batch.datagramSize := by
  have inBuffers : index < batch.rxBuffers.length := batch.rxFull ▸ inside
  have inLengths : index < batch.tx.txLens.length := batch.tx.lensFull ▸ inside
  have sized : batch.rxBuffers[index].length = batch.datagramSize :=
    batch.rxSized _ (List.getElem_mem inBuffers)
  have noted := lengthNoted_le target batch.datagramSize datagram
  refine ⟨(batch.write index datagram).setLength index
    (lengthNoted target batch.datagramSize datagram), ?_, ?_, ?_, rfl, rfl⟩
  · rw [fill, List.getElem?_eq_getElem inBuffers]
    simp only [if_neg (Nat.not_le.mpr inLengths), sized]
  · have fits : (datagram.take batch.datagramSize).length ≤ batch.rxBuffers[index].length := by
      rw [List.length_take, sized]
      omega
    have room : 0 + (datagram.take batch.datagramSize).length ≤ batch.rxBuffers[index].length := by
      omega
    rw [received, setLength, write_same, List.getElem?_eq_getElem inBuffers]
    simp only [write_tx, Option.map_some, List.getElem?_set_self inLengths, Option.bind_eq_bind,
      Option.bind_some, sized, Splice.overwrite_length room]
    rw [if_pos (by omega), take_overwrite_front fits (by rw [List.length_take]; omega),
      List.take_take, Nat.min_eq_left (by omega), kept]
  · intro other apart
    rw [received, setLength, write_other datagram apart]
    simp only [write_tx, List.getElem?_set_ne apart.symm]
    rfl

/-- A call that fills the slots behind a window extends the window. -/
theorem fillAll_some (target : Target) (batch : BatchIo) (datagrams : List Bytes)
    (holds : Window.Holds batch.received 0 index pending)
    (room : index + datagrams.length ≤ batch.tx.batchSize) :
    ∃ filled, batch.fillAll target index datagrams = some filled ∧
      Window.Holds filled.received 0 (index + datagrams.length)
        (pending ++ datagrams.map (kept target batch.datagramSize)) ∧
      filled.tx.batchSize = batch.tx.batchSize ∧ filled.datagramSize = batch.datagramSize := by
  induction datagrams generalizing batch index pending with
  | nil =>
    refine ⟨batch, rfl, ?_, rfl, rfl⟩
    simpa using holds
  | cons datagram rest ih =>
    rw [List.length_cons] at room
    obtain ⟨first, filled, put, others, tx, sized⟩ := fill_some target batch datagram
      (by omega : index < batch.tx.batchSize)
    obtain ⟨last, filledAll, window, sameTx, sameSize⟩ := ih first (holds.push others put)
      (by omega)
    refine ⟨last, ?_, ?_, sameTx.trans tx, sameSize.trans sized⟩
    · rw [fillAll, filled]
      exact filledAll
    · rw [sized, List.append_assoc] at window
      rw [List.length_cons, List.map_cons, Nat.add_comm rest.length 1, ← Nat.add_assoc]
      exact window

/-- What quiche leaves in its slot does not reach another. -/
theorem received_write_other {other : ℕ} (apart : other ≠ index) :
    (batch.write index left).received other = batch.received other := by
  rw [received, write_other left apart]
  rfl

end BatchIo

/-! ## What a step can do -/

/-- How an attempt to receive goes on. -/
inductive Attempted (target : Target) (s : Socket) (count : ℕ) : KernelAnswer → Socket → Prop where
  | notReady (unready : s.ready = false) :
      Attempted target s count .notReady (s.batchReceived count)
  | wouldBlock (ready : s.ready = true) (empty : s.queue = []) :
      Attempted target s count .wouldBlock ({ s with ready := false }.batchReceived count)
  | failed : Attempted target s count .failed { s with stage := .failed count }
  | received (size : ℕ) (some' : 0 < size) (inRoom : size ≤ s.batch.room target)
      (inQueue : size ≤ s.queue.length) :
      Attempted target s count (.received size) (s.take target count size)

theorem attempt_cases {answer : KernelAnswer} (stepped : s.attempt target count answer = some next) :
    Attempted target s count answer next := by
  cases answer with
  | notReady =>
    simp only [Socket.attempt] at stepped
    split at stepped
    · cases stepped
    · next unready =>
      cases stepped
      exact .notReady (Bool.eq_false_iff.mpr unready)
  | wouldBlock =>
    simp only [Socket.attempt] at stepped
    split at stepped
    · next possible =>
      cases stepped
      exact .wouldBlock possible.1 possible.2
    · cases stepped
  | failed =>
    simp only [Socket.attempt] at stepped
    split at stepped
    · cases stepped
      exact .failed
    · cases stepped
  | received size =>
    simp only [Socket.attempt] at stepped
    split at stepped
    · next possible =>
      cases stepped
      obtain ⟨-, some', inRoom, inQueue⟩ := possible
      exact .received size some' inRoom inQueue
    · cases stepped

/-- What each label does, and where. -/
inductive Moved (target : Target) (s : Socket) : Label → Socket → Prop where
  | arrive (datagram : Bytes) : Moved target s (.arrive datagram) { s with
      queue := s.queue ++ [datagram]
      arrived := s.arrived ++ [datagram]
      edge := true }
  | event (edge : s.edge = true) : Moved target s .event { s with edge := false, ready := true }
  | drain (tx : UdpBatchIo) (next : Socket) (idle : s.stage = .returned)
      (called : s.call tx false = some next) : Moved target s (.drain tx) next
  | wake (tx : UdpBatchIo) (next : Socket) (idle : s.stage = .returned) (ready : s.ready = true)
      (called : s.call tx true = some next) : Moved target s (.wake tx) next
  | kernel (answer : KernelAnswer) (next : Socket) (count : ℕ) (here : s.stage = .receive count)
      (attempted : Attempted target s count answer next) : Moved target s (.kernel answer) next
  | quiche (left : Bytes) (next : Socket) (index count : ℕ) (here : s.stage = .deliver index count)
      (handed : s.hand index count left = some next) : Moved target s (.quiche left) next
  | skip (index count : ℕ) (here : s.stage = .deliver index count)
      (empty : s.batch.received index = some []) :
      Moved target s .skip (s.nextSlot (index + 1) count)

theorem step_moved {label : Label} (stepped : step target s label = some next) :
    Moved target s label next := by
  cases label with
  | arrive datagram =>
    cases stepped
    exact .arrive datagram
  | event =>
    simp only [step] at stepped
    split at stepped
    · next edge =>
      cases stepped
      exact .event edge
    · cases stepped
  | drain tx =>
    simp only [step] at stepped
    split at stepped
    · next idle => exact .drain tx next idle stepped
    · cases stepped
  | wake tx =>
    simp only [step] at stepped
    split at stepped
    · next idle => exact .wake tx next idle.1 idle.2 stepped
    · cases stepped
  | kernel answer =>
    simp only [step] at stepped
    split at stepped
    · next count here => exact .kernel answer next count here (attempt_cases stepped)
    · cases stepped
  | quiche left =>
    simp only [step] at stepped
    split at stepped
    · next index count here => exact .quiche left next index count here stepped
    · cases stepped
  | skip =>
    simp only [step] at stepped
    split at stepped
    · next index count here =>
      split at stepped
      · next empty =>
        cases stepped
        exact .skip index count here empty
      · cases stepped
    · cases stepped

/-! ## The invariant -/

/-- Datagrams with something in them for quiche. -/
def payloads (datagrams : List Bytes) : List Bytes := datagrams.filter fun bytes => !bytes.isEmpty

theorem payloads_cons_of_ne (some' : bytes ≠ []) (rest : List Bytes) :
    payloads (bytes :: rest) = bytes :: payloads rest :=
  List.filter_cons_of_pos (by simpa using some')

@[simp] theorem payloads_append (first second : List Bytes) :
    payloads (first ++ second) = payloads first ++ payloads second := List.filter_append ..

/-- The slots that are filled and not handed over. -/
def Stage.window : Stage → ℕ × ℕ
  | .receive count | .failed count => (0, count)
  | .deliver index count => (index, count)
  | .returned | .faulted => (0, 0)

/-- Filled slots that the total of this call does not count. -/
def Stage.uncounted : Stage → ℕ
  | .receive count | .failed count => count
  | .deliver .. | .returned | .faulted => 0

/-- Where a call can be. `recvmmsg` fills its batch at once, so on FreeBSD no slot is filled
before or after a call that fails. -/
def Stage.Within (target : Target) (batchSize : ℕ) : Stage → Prop
  | .receive count | .failed count => count < batchSize ∧ (target = .freebsd → count = 0)
  | .deliver index count => index < count ∧ count ≤ batchSize
  | .returned => True
  | .faulted => False

/-- The slots `low..high` hold what was taken and not handed over, and the total leaves out
so many of them. -/
structure Socket.Between (target : Target) (size : ℕ) (s : Socket) (low high uncounted : ℕ) :
    Prop where
  sized : s.batch.datagramSize = size
  conserved : s.taken ++ s.queue = s.arrived
  counted : s.takenBefore + s.total + uncounted = s.taken.length
  delivered : ∃ waiting, Window.Holds s.batch.received low high waiting ∧
    s.handed ++ payloads waiting = payloads (s.taken.map (kept target size))

structure Socket.Sound (target : Target) (size : ℕ) (s : Socket) : Prop where
  within : s.stage.Within target s.batch.tx.batchSize
  between : s.Between target size s.stage.window.1 s.stage.window.2 s.stage.uncounted

variable {low high uncounted : ℕ}

theorem Socket.Between.atStage (between : s.Between target size low high uncounted) (stage : Stage) :
    Socket.Between target size { s with stage } low high uncounted :=
  ⟨between.sized, between.conserved, between.counted, between.delivered⟩

theorem finish_sound (between : s.Between target size low low 0) : s.finish.Sound target size := by
  obtain ⟨waiting, holds, delivered⟩ := between.delivered
  rw [Window.holds_nothing_iff] at holds
  subst holds
  exact ⟨trivial, between.sized, between.conserved, between.counted, [],
    Window.holds_nothing_iff.mpr rfl, delivered⟩

theorem batchReceived_sound (between : s.Between target size 0 count count)
    (inside : count ≤ s.batch.tx.batchSize) : (s.batchReceived count).Sound target size := by
  unfold Socket.batchReceived
  split
  · next none =>
    subst none
    exact finish_sound between
  · next some' =>
    refine ⟨⟨by omega, inside⟩, between.sized, between.conserved, ?_, between.delivered⟩
    have counted := between.counted
    simp only [Stage.uncounted]
    omega

theorem nextSlot_sound (between : s.Between target size index count 0) (ordered : index ≤ count)
    (inside : count ≤ s.batch.tx.batchSize) : (s.nextSlot index count).Sound target size := by
  unfold Socket.nextSlot
  split
  · next more => exact ⟨⟨more, inside⟩, between.atStage _⟩
  · next last =>
    have same : index = count := by omega
    subst same
    split
    · exact finish_sound between
    · obtain ⟨waiting, holds, delivered⟩ := between.delivered
      rw [Window.holds_nothing_iff] at holds
      subst holds
      exact ⟨⟨s.batch.tx.positive, fun _ => rfl⟩, between.sized, between.conserved,
        between.counted, [], Window.holds_nothing_iff.mpr rfl, delivered⟩

/-! ## The steps -/

theorem call_sound {tx : UdpBatchIo} {woken : Bool} (sound : s.Sound target size)
    (idle : s.stage = .returned) (stepped : s.call tx woken = some next) :
    next.Sound target size := by
  obtain ⟨-, between⟩ := sound
  rw [idle] at between
  obtain ⟨waiting, holds, delivered⟩ := between.delivered
  obtain rfl := Window.holds_nothing_iff.mp holds
  unfold Socket.call at stepped
  split at stepped
  · cases stepped
    exact ⟨⟨tx.positive, fun _ => rfl⟩, between.sized, between.conserved, rfl, [],
      Window.holds_nothing_iff.mpr rfl, delivered⟩
  · cases stepped

theorem take_sound (between : s.Between target size 0 count count)
    (batchStart : target = .freebsd → count = 0) {room : ℕ} (taken : room ≤ s.queue.length)
    (fits : count + room ≤ s.batch.tx.batchSize) : (s.take target count room).Sound target size := by
  obtain ⟨waiting, holds, delivered⟩ := between.delivered
  have length : (s.queue.take room).length = room := List.length_take_of_le taken
  obtain ⟨batch, filled, window, tx, sized⟩ := BatchIo.fillAll_some target s.batch
    (s.queue.take room) holds (by rw [length]; exact fits)
  rw [length, between.sized] at window
  have counted := between.counted
  have after : ∀ stage, Socket.Between target size { s with
      batch
      stage
      queue := s.queue.drop room
      taken := s.taken ++ s.queue.take room } 0 (count + room) (count + room) := by
    intro stage
    refine ⟨sized.trans between.sized, ?_, ?_, _, window, ?_⟩
    · rw [List.append_assoc, List.take_append_drop]
      exact between.conserved
    · simp only [List.length_append, length]
      omega
    · rw [payloads_append, ← List.append_assoc, delivered, List.map_append, payloads_append]
  unfold Socket.take
  rw [filled]
  cases target with
  | freebsd =>
    have none := batchStart rfl
    subst none
    have all := after s.stage
    rw [Nat.zero_add] at all
    exact batchReceived_sound all (by simp only [tx]; omega)
  | other =>
    simp only
    split
    · next more => exact ⟨⟨more, fun other => nomatch other⟩, after _⟩
    · exact batchReceived_sound (after s.stage) (by simp only [tx]; exact fits)

theorem attempt_sound {answer : KernelAnswer} (sound : s.Sound target size)
    (here : s.stage = .receive count) (attempted : Attempted target s count answer next) :
    next.Sound target size := by
  obtain ⟨within, between⟩ := sound
  rw [here] at within between
  simp only [Stage.window, Stage.uncounted] at between
  obtain ⟨room, batchStart⟩ := within
  cases attempted with
  | notReady unready => exact batchReceived_sound between room.le
  | wouldBlock ready empty =>
    exact batchReceived_sound
      ⟨between.sized, between.conserved, between.counted, between.delivered⟩ room.le
  | failed => exact ⟨⟨room, batchStart⟩, between.atStage _⟩
  | received taken some' inRoom inQueue =>
    refine take_sound between batchStart inQueue ?_
    cases target with
    | freebsd =>
      have none := batchStart rfl
      have lengths := s.batch.rxFull
      simp only [BatchIo.room] at inRoom
      omega
    | other =>
      simp only [BatchIo.room] at inRoom
      omega

/-- The slot at the front of the window is handed over as it was filled. -/
theorem hand_sound (sound : s.Sound target size) (here : s.stage = .deliver index count)
    (stepped : s.hand index count left = some next) : next.Sound target size := by
  obtain ⟨within, between⟩ := sound
  rw [here] at within between
  obtain ⟨waiting, holds, delivered⟩ := between.delivered
  obtain ⟨bytes, rest, rfl, read, window⟩ := holds.front within.1
  simp only [Stage.window] at read window
  rw [Socket.hand, read] at stepped
  simp only at stepped
  split at stepped
  · next handed =>
    cases stepped
    refine nextSlot_sound ⟨between.sized, between.conserved, between.counted, rest, ?_, ?_⟩
      within.1 within.2
    · refine window.congr fun other after _ => ?_
      exact BatchIo.received_write_other (by omega)
    · rw [← delivered, payloads_cons_of_ne handed.1, List.append_assoc, List.singleton_append]
  · cases stepped

theorem skip_sound (sound : s.Sound target size) (here : s.stage = .deliver index count)
    (empty : s.batch.received index = some []) :
    (s.nextSlot (index + 1) count).Sound target size := by
  obtain ⟨within, between⟩ := sound
  rw [here] at within between
  obtain ⟨waiting, holds, delivered⟩ := between.delivered
  obtain ⟨bytes, rest, rfl, read, window⟩ := holds.front within.1
  cases read.symm.trans empty
  exact nextSlot_sound ⟨between.sized, between.conserved, between.counted, rest, window, delivered⟩
    within.1 within.2

theorem step_sound {label : Label} (sound : s.Sound target size)
    (stepped : step target s label = some next) : next.Sound target size := by
  have ⟨within, between⟩ := sound
  cases step_moved stepped with
  | arrive datagram =>
    refine ⟨within, between.sized, ?_, between.counted, between.delivered⟩
    rw [← List.append_assoc, between.conserved]
  | event edge =>
    exact ⟨within, between.sized, between.conserved, between.counted, between.delivered⟩
  | drain tx next idle called => exact call_sound sound idle called
  | wake tx next idle ready called => exact call_sound sound idle called
  | kernel answer next count here attempted => exact attempt_sound sound here attempted
  | quiche left next index count here handed => exact hand_sound sound here handed
  | skip index count here empty => exact skip_sound sound here empty

/-! ## What quiche is handed -/

/-- What a target passes on of the datagrams it takes: FreeBSD only those it received whole,
the others as much of each as a buffer holds, and neither the empty ones. -/
def passedOn (target : Target) (size : ℕ) (datagrams : List Bytes) : List Bytes :=
  match target with
  | .freebsd => datagrams.filter fun datagram =>
      decide (0 < datagram.length ∧ datagram.length ≤ size)
  | .other => payloads (datagrams.map (List.take size))

theorem payloads_kept (target : Target) (size : ℕ) (datagrams : List Bytes) :
    payloads (datagrams.map (kept target size)) = passedOn target size datagrams := by
  cases target with
  | freebsd =>
    induction datagrams with
    | nil => rfl
    | cons datagram rest ih =>
      rw [List.map_cons, passedOn, List.filter_cons]
      rcases Nat.lt_or_ge size datagram.length with long | fits
      · rw [kept_of_cut long, if_neg (by simp only [decide_eq_true_eq]; omega)]
        exact ih
      · rw [kept_of_fits fits]
        by_cases empty : datagram = []
        · subst empty
          exact ih
        · have full : 0 < datagram.length := List.length_pos_iff.mpr empty
          rw [payloads_cons_of_ne empty, if_pos (by simp only [decide_eq_true_eq]; omega), ih]
          rfl
  | other =>
    have same : kept Target.other size = List.take size := by
      funext datagram
      rcases Nat.lt_or_ge size datagram.length with long | fits
      · exact kept_of_cut long
      · rw [kept_of_fits fits, List.take_of_length_le fits]
    rw [same, passedOn]

/-- A socket before its first drain. The handshake may have left the readiness flag set. -/
def start (batch : BatchIo) (ready : Bool) : Socket := { batch, ready }

theorem start_sound (target : Target) (batch : BatchIo) (ready : Bool) :
    (start batch ready).Sound target batch.datagramSize :=
  ⟨trivial, rfl, rfl, rfl, [], Window.holds_nothing_iff.mpr rfl, rfl⟩

/-- No step indexes outside the buffers. -/
theorem Socket.Sound.whole (sound : s.Sound target size) : s.stage ≠ .faulted := by
  intro faulted
  have within := sound.within
  rw [faulted] at within
  exact within

/-- Whatever arrives and however the kernel answers, quiche is handed what was taken off the
socket, in order and once, with nothing of an older datagram in it: at every moment what was
handed over and what stands in the window of the buffers make up what has been taken. A
drain that returns has handed over all of it and its total is what it took; one that fails
has lost nothing on FreeBSD, and on other targets the slots filled before the error. -/
theorem received_in_order (target : Target) (batch : BatchIo) (ready : Bool)
    (reached : Transition.Reachable (step target) (start batch ready) s) :
    s.taken ++ s.queue = s.arrived ∧
      (∃ waiting, Window.Holds s.batch.received s.stage.window.1 s.stage.window.2 waiting ∧
        s.handed ++ payloads waiting = passedOn target batch.datagramSize s.taken) ∧
      (s.stage = .returned → s.handed = passedOn target batch.datagramSize s.taken ∧
        s.takenBefore + s.total = s.taken.length) ∧
      (∀ count, s.stage = .failed count → count < s.batch.tx.batchSize ∧
        (target = .freebsd → s.handed = passedOn target batch.datagramSize s.taken)) ∧
      s.stage ≠ .faulted := by
  have sound : s.Sound target batch.datagramSize :=
    reached.invariant (Socket.Sound target batch.datagramSize)
      (fun _ _ _ sound stepped => step_sound sound stepped) (start_sound target batch ready)
  obtain ⟨waiting, holds, delivered⟩ := sound.between.delivered
  rw [payloads_kept] at delivered
  have all : s.stage.window = (0, 0) → s.handed = passedOn target batch.datagramSize s.taken := by
    intro closed
    rw [closed] at holds
    rw [← delivered, Window.holds_nothing_iff.mp holds, payloads, List.filter_nil,
      List.append_nil]
  refine ⟨sound.between.conserved, ⟨waiting, holds, delivered⟩, ?_, ?_, sound.whole⟩
  · intro returned
    have counted := sound.between.counted
    rw [returned] at counted all
    exact ⟨all rfl, counted⟩
  · intro count failed
    have within := sound.within
    rw [failed] at within all
    refine ⟨within.1, fun freebsd => all ?_⟩
    rw [Stage.window, within.2 freebsd]

/-- Two slots of two bytes. -/
def smallBatch : BatchIo where
  tx :=
    { txBuffers := [[0, 0], [0, 0]], txLens := [0, 0], txAt := [0, 0], batchSize := 2,
      lastPacingWait := 0, maxPacingWait := 0, pacedSleeps := 0, positive := by decide,
      bounded := by decide, buffersFull := rfl, lensFull := rfl, atFull := rfl }
  datagramSize := 2
  rxBuffers := [[0, 0], [0, 0]]
  rxFull := rfl
  rxSized := by decide

/-- A shorter datagram behind a longer one, then one that does not fit, which FreeBSD drops. -/
def shorterThenCut : List Label :=
  [.arrive [1, 2], .event, .wake smallBatch.tx, .kernel (.received 1), .quiche [9, 9],
    .arrive [5], .arrive [6, 7, 8], .drain smallBatch.tx, .kernel (.received 2), .quiche [4],
    .skip, .kernel .wouldBlock]

def afterShorterThenCut : Option Socket :=
  Transition.run (step .freebsd) (start smallBatch false) shorterThenCut

theorem received_in_order_run :
    ∃ s, afterShorterThenCut = some s ∧ s.stage = .returned ∧ s.handed = [[1, 2], [5]] ∧
      s.taken ++ s.queue = s.arrived := by
  have ran : ∃ s, afterShorterThenCut = some s ∧ s.stage = .returned ∧
      s.handed = [[1, 2], [5]] := ⟨_, rfl, rfl, rfl⟩
  obtain ⟨s, reached, returned, handed⟩ := ran
  exact ⟨s, reached, returned, handed,
    (received_in_order .freebsd smallBatch false ⟨shorterThenCut, reached⟩).1⟩

/-! ## Readiness -/

/-- The readiness flag is set while a drain that was woken has found nothing yet, and no
datagram waits without the flag or an edge. Every wake that found nothing has used up one of
them. -/
structure Socket.Awake (s : Socket) : Prop where
  signalled : s.queue ≠ [] → s.ready = true ∨ s.edge = true
  fresh : s.woken = true → s.total = 0 → s.stage = .receive 0 → s.ready = true
  begun : ∀ index count, s.stage = .deliver index count → 0 < s.total
  paid : s.emptyWakes + s.ready.toNat + s.edge.toNat ≤ s.arrived.length + 1

theorem finish_awake (signalled : s.queue ≠ [] → s.ready = true ∨ s.edge = true)
    (paid : s.emptyWakes + s.ready.toNat + s.edge.toNat +
      (if s.woken = true ∧ s.total = 0 then 1 else 0) ≤ s.arrived.length + 1) :
    s.finish.Awake := by
  refine ⟨signalled, fun _ _ here => (nomatch here), fun _ _ here => (nomatch here), ?_⟩
  simp only [Socket.finish]
  split
  · next empty =>
    rw [if_pos empty] at paid
    omega
  · next other =>
    rw [if_neg other] at paid
    omega

theorem batchReceived_awake (signalled : s.queue ≠ [] → s.ready = true ∨ s.edge = true)
    (paid : s.emptyWakes + s.ready.toNat + s.edge.toNat +
      (if s.woken = true ∧ s.total = 0 ∧ count = 0 then 1 else 0) ≤ s.arrived.length + 1) :
    (s.batchReceived count).Awake := by
  unfold Socket.batchReceived
  split
  · next none =>
    refine finish_awake signalled ?_
    simpa only [none, and_true] using paid
  · next some' =>
    refine ⟨signalled, fun _ _ here => (nomatch here), ?_, ?_⟩
    · intro index last _
      simp only
      omega
    · simp only [some', and_false, if_false] at paid
      exact paid

/-- Behind the first batch of a call nothing counts as an empty wake. -/
theorem nextSlot_awake (awake : s.Awake) (begun : 0 < s.total) :
    (s.nextSlot index count).Awake := by
  unfold Socket.nextSlot
  split
  · exact ⟨awake.signalled, fun _ _ here => (nomatch here), fun _ _ _ => begun, awake.paid⟩
  · split
    · refine finish_awake awake.signalled ?_
      rw [if_neg (by omega)]
      exact awake.paid
    · exact ⟨awake.signalled, fun _ none => absurd none begun.ne', fun _ _ here => (nomatch here),
        awake.paid⟩

theorem call_awake {tx : UdpBatchIo} {woken : Bool} (awake : s.Awake)
    (ready : woken = true → s.ready = true) (stepped : s.call tx woken = some next) :
    next.Awake := by
  unfold Socket.call at stepped
  split at stepped
  · cases stepped
    exact ⟨awake.signalled, fun wake _ _ => ready wake, fun _ _ here => (nomatch here),
      awake.paid⟩
  · cases stepped

theorem take_awake {room : ℕ} (awake : s.Awake) (some' : 0 < room) :
    (s.take target count room).Awake := by
  have signalled : s.queue.drop room ≠ [] → s.ready = true ∨ s.edge = true := by
    intro more
    exact awake.signalled fun none => more (by rw [none, List.drop_nil])
  unfold Socket.take
  split
  · exact ⟨awake.signalled, fun _ _ here => (nomatch here), fun _ _ here => (nomatch here),
      awake.paid⟩
  · cases target with
    | freebsd =>
      refine batchReceived_awake signalled ?_
      rw [if_neg (by omega)]
      exact awake.paid
    | other =>
      simp only
      split
      · refine ⟨signalled, fun _ _ here => ?_, fun _ _ here => (nomatch here), awake.paid⟩
        rw [Stage.receive.injEq] at here
        omega
      · refine batchReceived_awake signalled ?_
        rw [if_neg (by omega)]
        exact awake.paid

theorem attempt_awake {answer : KernelAnswer} (awake : s.Awake) (here : s.stage = .receive count)
    (attempted : Attempted target s count answer next) : next.Awake := by
  -- a wake that has found nothing has the flag set, so it can only end by clearing it
  have unspent : s.ready = false → ¬(s.woken = true ∧ s.total = 0 ∧ count = 0) := by
    rintro unready ⟨woken, nothing, rfl⟩
    exact Bool.false_ne_true (unready.symm.trans (awake.fresh woken nothing here))
  have paid := awake.paid
  cases attempted with
  | notReady unready =>
    refine batchReceived_awake awake.signalled ?_
    rw [if_neg (unspent unready)]
    exact paid
  | wouldBlock ready empty =>
    refine batchReceived_awake (fun more => absurd empty more) ?_
    rw [ready, Bool.toNat_true] at paid
    simp only [Bool.toNat_false]
    split <;> omega
  | failed =>
    exact ⟨awake.signalled, fun _ _ here => (nomatch here), fun _ _ here => (nomatch here), paid⟩
  | received taken some' inRoom inQueue => exact take_awake awake some'

theorem hand_awake (awake : s.Awake) (begun : 0 < s.total)
    (handed : s.hand index count left = some next) : next.Awake := by
  unfold Socket.hand at handed
  split at handed
  · cases handed
    exact ⟨awake.signalled, fun _ _ here => (nomatch here), fun _ _ here => (nomatch here),
      awake.paid⟩
  · split at handed
    · cases handed
      exact nextSlot_awake ⟨awake.signalled, awake.fresh, awake.begun, awake.paid⟩ begun
    · cases handed

theorem step_awake {label : Label} (awake : s.Awake) (stepped : step target s label = some next) :
    next.Awake := by
  have paid := awake.paid
  cases step_moved stepped with
  | arrive datagram =>
    refine ⟨fun _ => .inr rfl, awake.fresh, awake.begun, ?_⟩
    simp only [Bool.toNat_true, List.length_append, List.length_singleton]
    omega
  | event edge =>
    refine ⟨fun _ => .inl rfl, fun _ _ _ => rfl, awake.begun, ?_⟩
    rw [edge, Bool.toNat_true] at paid
    simp only [Bool.toNat_true, Bool.toNat_false]
    omega
  | drain tx next idle called =>
    exact call_awake awake (fun (woken : false = true) => (nomatch woken)) called
  | wake tx next idle ready called => exact call_awake awake (fun _ => ready) called
  | kernel answer next count here attempted => exact attempt_awake awake here attempted
  | quiche left next index count here handed =>
    exact hand_awake awake (awake.begun _ _ here) handed
  | skip index count here empty => exact nextSlot_awake awake (awake.begun _ _ here)

theorem start_awake (batch : BatchIo) (ready : Bool) : (start batch ready).Awake := by
  refine ⟨fun more => absurd rfl more, fun woken => (nomatch woken), fun _ _ here => (nomatch here),
    ?_⟩
  cases ready
  · exact Nat.zero_le _
  · exact le_rfl

/-! ## Progress -/

/-- What the drains share with the kernel and with Tokio's driver. -/
structure Traffic where
  queue : List Bytes
  edge : Bool
  ready : Bool
  arrived : List Bytes
  taken : List Bytes

def Socket.traffic (s : Socket) : Traffic := ⟨s.queue, s.edge, s.ready, s.arrived, s.taken⟩

/-- A step as the kernel and the driver see it: the drains touch only what they take and, on
an empty queue, the flag. -/
def Traffic.after (t : Traffic) : Label → Traffic
  | .arrive datagram =>
    { t with queue := t.queue ++ [datagram], arrived := t.arrived ++ [datagram], edge := true }
  | .event => { t with edge := false, ready := true }
  | .kernel .wouldBlock => { t with ready := false }
  | .kernel (.received size) =>
    { t with queue := t.queue.drop size, taken := t.taken ++ t.queue.take size }
  | _ => t

theorem batchReceived_traffic : (s.batchReceived count).traffic = s.traffic := by
  unfold Socket.batchReceived
  split <;> rfl

theorem nextSlot_traffic : (s.nextSlot index count).traffic = s.traffic := by
  unfold Socket.nextSlot
  split
  · rfl
  · split <;> rfl

theorem call_traffic {tx : UdpBatchIo} {woken : Bool} (stepped : s.call tx woken = some next) :
    next.traffic = s.traffic ∧ next.stage = .receive 0 := by
  unfold Socket.call at stepped
  split at stepped
  · cases stepped
    exact ⟨rfl, rfl⟩
  · cases stepped

theorem take_traffic {room : ℕ} (whole : (s.take target count room).stage ≠ .faulted) :
    (s.take target count room).traffic =
      { s.traffic with queue := s.queue.drop room, taken := s.taken ++ s.queue.take room } := by
  unfold Socket.take at whole ⊢
  split
  · next fails =>
    rw [fails] at whole
    exact absurd rfl whole
  · cases target with
    | freebsd => exact batchReceived_traffic
    | other =>
      simp only
      split
      · rfl
      · exact batchReceived_traffic

theorem attempt_traffic {answer : KernelAnswer} (whole : next.stage ≠ .faulted)
    (attempted : Attempted target s count answer next) :
    next.traffic = s.traffic.after (.kernel answer) := by
  cases attempted with
  | notReady unready => exact batchReceived_traffic
  | wouldBlock ready empty => exact batchReceived_traffic
  | failed => rfl
  | received size some' inRoom inQueue => exact take_traffic whole

theorem hand_traffic (stepped : s.hand index count left = some next) :
    next.traffic = s.traffic := by
  unfold Socket.hand at stepped
  split at stepped
  · cases stepped
    rfl
  · split at stepped
    · cases stepped
      exact nextSlot_traffic
    · cases stepped

theorem step_traffic {label : Label} (whole : next.stage ≠ .faulted)
    (moved : Moved target s label next) : next.traffic = s.traffic.after label := by
  cases moved with
  | arrive datagram => rfl
  | event edge => rfl
  | drain tx next idle called => exact (call_traffic called).1
  | wake tx next idle ready called => exact (call_traffic called).1
  | kernel answer next count here attempted => exact attempt_traffic whole attempted
  | quiche left next index count here handed => exact hand_traffic handed
  | skip index count here empty => exact nextSlot_traffic

/-- Once set, the flag is cleared by nothing but an empty queue. -/
theorem ready_stays {label : Label} (whole : next.stage ≠ .faulted)
    (stepped : step target s label = some next) (ready : s.ready = true) (more : next.queue ≠ []) :
    next.ready = true := by
  have moved := step_moved stepped
  have traffic := step_traffic whole moved
  have flag : next.ready = (s.traffic.after label).ready := congrArg Traffic.ready traffic
  have queue : next.queue = (s.traffic.after label).queue := congrArg Traffic.queue traffic
  cases moved with
  | event edge => exact flag
  | arrive | drain | wake | quiche | skip => exact flag.trans ready
  | kernel answer next count here attempted =>
    cases attempted with
    | wouldBlock ready empty => exact absurd (queue.trans empty) more
    | notReady | failed | received => exact flag.trans ready

theorem taken_grows {label : Label} (whole : next.stage ≠ .faulted)
    (stepped : step target s label = some next) :
    s.taken <+: next.taken ∧ s.arrived <+: next.arrived := by
  have traffic := step_traffic whole (step_moved stepped)
  have taken : next.taken = (s.traffic.after label).taken := congrArg Traffic.taken traffic
  have arrived : next.arrived = (s.traffic.after label).arrived := congrArg Traffic.arrived traffic
  rw [taken, arrived]
  cases label with
  | arrive datagram => exact ⟨List.prefix_rfl, List.prefix_append _ _⟩
  | event | drain | wake | quiche | skip => exact ⟨List.prefix_rfl, List.prefix_rfl⟩
  | kernel answer =>
    cases answer with
    | received size => exact ⟨List.prefix_append _ _, List.prefix_rfl⟩
    | notReady | wouldBlock | failed => exact ⟨List.prefix_rfl, List.prefix_rfl⟩

/-- The label is the return of a wait for readability. -/
def Label.isWake : Label → Bool
  | .wake _ => true
  | _ => false

/-- How often the wait for readability has returned. -/
def wakes (labels : List Label) : ℕ := labels.countP Label.isWake

/-- Since `s` every wake up to `due` has taken a datagram, but for one that is about to and one
whose socket failed. -/
structure Progressed (target : Target) (size : ℕ) (s t : Socket) (due : ℕ) : Prop where
  sound : t.Sound target size
  arrived : s.arrived <+: t.arrived
  served : s.taken.length + due ≤ t.taken.length ∨
    (t.stage = .receive 0 ∧ t.ready = true ∧ t.queue ≠ [] ∧
      s.taken.length + due ≤ t.taken.length + 1) ∨
    ∃ count, t.stage = .failed count

namespace Progressed

variable {due : ℕ} {t : Socket} {label : Label}

/-- A step that is no wake keeps what the wakes so far have brought. -/
theorem step_kept (progressed : Progressed target size s t due)
    (stepped : step target t label = some next) (other : label.isWake = false) :
    s.taken.length + due ≤ next.taken.length ∨
      (next.stage = .receive 0 ∧ next.ready = true ∧ next.queue ≠ [] ∧
        s.taken.length + due ≤ next.taken.length + 1) ∨
      ∃ count, next.stage = .failed count := by
  have whole := (step_sound progressed.sound stepped).whole
  have grown := (taken_grows whole stepped).1.length_le
  have moved := step_moved stepped
  have traffic := congrArg Traffic.taken (step_traffic whole moved)
  rcases progressed.served with served | ⟨here, ready, more, served⟩ | ⟨count, failed⟩
  · exact .inl (served.trans grown)
  · -- the call is at its first attempt, with the flag set and something in the queue
    cases moved with
    | arrive datagram => exact .inr (.inl ⟨here, ready, by simp, served⟩)
    | event edge => exact .inr (.inl ⟨here, rfl, more, served⟩)
    | wake => cases other
    | drain tx next idle called => cases here.symm.trans idle
    | quiche left next index count there handed => cases here.symm.trans there
    | skip index count there empty => cases here.symm.trans there
    | kernel answer next count there attempted =>
      cases attempted with
      | notReady unready => cases ready.symm.trans unready
      | wouldBlock _ empty => exact absurd empty more
      | failed => exact .inr (.inr ⟨count, rfl⟩)
      | received size some' inRoom inQueue =>
        have taken : (t.take target count size).taken = t.taken ++ t.queue.take size := traffic
        left
        rw [taken, List.length_append, List.length_take_of_le inQueue]
        omega
  · cases moved with
    | arrive datagram => exact .inr (.inr ⟨count, failed⟩)
    | event edge => exact .inr (.inr ⟨count, failed⟩)
    | wake => cases other
    | drain tx next idle called => cases failed.symm.trans idle
    | kernel answer next count there attempted => cases failed.symm.trans there
    | quiche left next index count there handed => cases failed.symm.trans there
    | skip index count there empty => cases failed.symm.trans there

/-- A wake while something waits that was there at the start is about to take a datagram. -/
theorem step_wake (progressed : Progressed target size s t due)
    (stepped : step target t label = some next) (wake : label.isWake = true)
    (behind : t.taken.length < s.arrived.length) :
    next.stage = .receive 0 ∧ next.ready = true ∧ next.queue ≠ [] ∧
      s.taken.length + (due + 1) ≤ next.taken.length + 1 := by
  cases step_moved stepped with
  | arrive | event | drain | kernel | quiche | skip => cases wake
  | wake tx next idle ready called =>
    obtain ⟨traffic, here⟩ := call_traffic called
    have taken : next.taken = t.taken := congrArg Traffic.taken traffic
    have queue : next.queue = t.queue := congrArg Traffic.queue traffic
    have flag : next.ready = t.ready := congrArg Traffic.ready traffic
    refine ⟨here, flag.trans ready, ?_, ?_⟩
    · rw [queue]
      intro empty
      have all := progressed.sound.between.conserved
      rw [empty, List.append_nil] at all
      have there := progressed.arrived.length_le
      rw [← all] at there
      omega
    · rw [taken]
      rcases progressed.served with served | ⟨midway, -⟩ | ⟨count, failed⟩
      · omega
      · cases idle.symm.trans midway
      · cases idle.symm.trans failed

theorem step_progressed (progressed : Progressed target size s t (min due s.queue.length))
    (conserved : s.taken ++ s.queue = s.arrived) (stepped : step target t label = some next) :
    Progressed target size s next (min (due + label.isWake.toNat) s.queue.length) := by
  have sound := step_sound progressed.sound stepped
  obtain ⟨taken, arrived⟩ := taken_grows sound.whole stepped
  refine ⟨sound, progressed.arrived.trans arrived, ?_⟩
  cases wake : label.isWake with
  | false => exact progressed.step_kept stepped wake
  | true =>
    have all : s.taken.length + s.queue.length = s.arrived.length := by
      rw [← List.length_append, conserved]
    rw [Bool.toNat_true]
    rcases Nat.lt_or_ge t.taken.length s.arrived.length with behind | ahead
    · obtain ⟨here, ready, more, served⟩ := progressed.step_wake stepped wake behind
      exact .inr (.inl ⟨here, ready, more, by omega⟩)
    · have grown := taken.length_le
      left
      omega

end Progressed

theorem progressed_run {labels : List Label} {t : Socket} (sound : s.Sound target size)
    (ran : Transition.run (step target) s labels = some t) :
    Progressed target size s t (min (wakes labels) s.queue.length) := by
  refine Transition.run_preserves_history
    (fun past t => Progressed target size s t (min (wakes past) s.queue.length))
    (fun past t label next _ progressed stepped => ?_)
    ⟨sound, List.prefix_rfl, .inl ?_⟩ ran
  · have counted : wakes (past ++ [label]) = wakes past + label.isWake.toNat := by
      rw [wakes, List.countP_append, List.countP_singleton]
      cases label.isWake <;> rfl
    rw [counted]
    exact progressed.step_progressed sound.between.conserved stepped
  · rw [wakes, List.countP_nil, Nat.zero_min, Nat.add_zero]

/-- What waited at the start is received in order, a datagram for every wake at the least. -/
theorem Progressed.received {t : Socket} {due : ℕ}
    (progressed : Progressed target size s t (min due s.queue.length))
    (conserved : s.taken ++ s.queue = s.arrived) (returned : t.stage = .returned) :
    s.taken ++ s.queue.take due <+: t.taken := by
  have served : s.taken.length + min due s.queue.length ≤ t.taken.length := by
    rcases progressed.served with served | ⟨midway, -⟩ | ⟨count, failed⟩
    · exact served
    · cases returned.symm.trans midway
    · cases returned.symm.trans failed
  have earlier : s.taken ++ s.queue.take due <+: t.arrived := by
    refine List.IsPrefix.trans ?_ progressed.arrived
    rw [← conserved]
    exact (List.prefix_append_right_inj _).mpr (List.take_prefix _ _)
  have later : t.taken <+: t.arrived := by
    rw [← progressed.sound.between.conserved]
    exact List.prefix_append _ _
  refine List.prefix_of_prefix_length_le earlier later ?_
  rw [List.length_append, List.length_take]
  exact served

/-- A wait for readability returns at once, or once the driver has seen the edge. -/
theorem Socket.Awake.returns {tx : UdpBatchIo} (awake : s.Awake) (idle : s.stage = .returned)
    (more : s.queue ≠ []) (same : tx.batchSize = s.batch.tx.batchSize) :
    (∃ next, step target s (.wake tx) = some next) ∨
      ∃ seen, step target s .event = some seen ∧ ∃ next, step target seen (.wake tx) = some next := by
  rcases awake.signalled more with ready | edge
  · left
    simp [step, Socket.call, idle, ready, same]
  · right
    simp [step, Socket.call, idle, edge, same]

/-- No datagram is left behind asleep, and no wake-up spins. A datagram that waits has the
readiness flag or an edge that will set it, and the flag stays as long as one waits, so the wait
for readability returns. From any moment on each wake receives at least one of the datagrams that
waited, in their order, until all of them are received, unless the socket fails; and the wakes
that find nothing are at most one more than the datagrams that have arrived. -/
theorem wakes_for_datagrams (target : Target) (batch : BatchIo) (ready : Bool)
    (reached : Transition.Reachable (step target) (start batch ready) s) :
    (s.queue ≠ [] → s.ready = true ∨ s.edge = true) ∧
      (∀ label next, step target s label = some next → s.ready = true → next.queue ≠ [] →
        next.ready = true) ∧
      (s.stage = .returned → s.queue ≠ [] → ∀ tx : UdpBatchIo,
        tx.batchSize = s.batch.tx.batchSize →
          (∃ next, step target s (.wake tx) = some next) ∨
            ∃ seen, step target s .event = some seen ∧
              ∃ next, step target seen (.wake tx) = some next) ∧
      (∀ labels later, Transition.run (step target) s labels = some later →
        later.stage = .returned → s.taken ++ s.queue.take (wakes labels) <+: later.taken) ∧
      s.emptyWakes ≤ s.arrived.length + 1 := by
  have awake : s.Awake :=
    reached.invariant Socket.Awake (fun _ _ _ awake stepped => step_awake awake stepped)
      (start_awake batch ready)
  have sound : s.Sound target batch.datagramSize :=
    reached.invariant (Socket.Sound target batch.datagramSize)
      (fun _ _ _ sound stepped => step_sound sound stepped) (start_sound target batch ready)
  have paid := awake.paid
  exact ⟨awake.signalled,
    fun label next stepped => ready_stays (step_sound sound stepped).whole stepped,
    fun idle more tx same => awake.returns idle more same,
    fun labels later ran returned =>
      (progressed_run sound ran).received sound.between.conserved returned,
    by omega⟩

/-- A datagram has arrived and Tokio's driver has not seen it yet. -/
def arrivedUnseen : Socket :=
  { start smallBatch false with queue := [[1, 2]], edge := true, arrived := [[1, 2]] }

/-- One wake receives it. -/
def wokenOnce : List Label :=
  [.event, .wake smallBatch.tx, .kernel (.received 1), .quiche [9, 9]]

theorem wakes_for_datagrams_run :
    ∃ later, Transition.run (step .freebsd) arrivedUnseen wokenOnce = some later ∧
      [[1, 2]] <+: later.taken ∧
      ∃ seen, step .freebsd arrivedUnseen .event = some seen ∧
        ∃ next, step .freebsd seen (.wake smallBatch.tx) = some next := by
  have reached : Transition.Reachable (step .freebsd) (start smallBatch false) arrivedUnseen :=
    ⟨[.arrive [1, 2]], rfl⟩
  obtain ⟨-, -, returns, received, -⟩ := wakes_for_datagrams .freebsd smallBatch false reached
  have ran : ∃ later, Transition.run (step .freebsd) arrivedUnseen wokenOnce = some later ∧
      later.stage = .returned := ⟨_, rfl, rfl⟩
  obtain ⟨later, ran, idle⟩ := ran
  refine ⟨later, ran, received wokenOnce later ran idle, ?_⟩
  rcases returns rfl (List.cons_ne_nil _ _) smallBatch.tx rfl with ⟨next, at_once⟩ | seen
  · cases at_once
  · exact seen

end Usque.UdpReceive
