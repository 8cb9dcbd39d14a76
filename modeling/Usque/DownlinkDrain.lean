import Usque.DataLoop

/-! The receive drain with everything around it: the answers quiche has yet to give,
the answer of every TUN write, and the calls of a whole run one after the other. The
pump's own `drainIncoming` is this drain with the writes' answers forgotten. -/
namespace Usque.DataLoop

open Packet NativeTun

/-- What the drain reads and writes. -/
structure Downlink where
  stats : RxStats
  /-- The payloads given to `send_packet`, in order, each with its answer. -/
  offered : List (Bytes × Except TunError Unit)
  /-- The answers `dgram_recv_buf` has yet to give, `Done` once they run out. -/
  answers : List RecvAnswer

section Drain

variable (flowId : UInt64) (sendPacket : ℕ → Except TunError Unit)

/-- What becomes of one DATAGRAM. The answer of a write is the one the device has
for the number of the write, and nothing depends on it. -/
def takeDatagram (link : Downlink) (dgram : Bytes) : Downlink :=
  match ConnectIp.parseDatagram dgram flowId with
  | some ipPayload =>
    match validateIncoming ipPayload with
    | .ok _ => { link with
        stats := { link.stats with
          rxPackets := link.stats.rxPackets + 1
          rxBytes := link.stats.rxBytes + ipPayload.length }
        offered := link.offered ++ [(ipPayload, sendPacket link.offered.length)] }
    | .error _ => link
  | none => link

/-- The loop of `drain_incoming_datagrams` with `left` DATAGRAMs of its burst to
go: what it returns and what it leaves. -/
def drainTurns : ℕ → Downlink → Bool × Downlink
  | 0, link => (true, { link with
      stats := { link.stats with rxDrainBudgetHits := link.stats.rxDrainBudgetHits + 1 } })
  | left + 1, link =>
    match link.answers with
    | .datagram dgram :: rest =>
      drainTurns left (takeDatagram flowId sendPacket { link with answers := rest } dgram)
    | .done :: rest => (false, { link with answers := rest })
    | .error :: rest => (false, { link with answers := rest })
    | [] => (false, link)

def drainIncomingDatagrams (link : Downlink) : Bool × Downlink :=
  drainTurns flowId sendPacket rxDgramDrainBurst link

/-- The calls of a run, one an iteration of the pump. -/
def drainCalls : ℕ → Downlink → List Bool × Downlink
  | 0, link => ([], link)
  | calls + 1, link =>
    let (returned, next) := drainIncomingDatagrams flowId sendPacket link
    let (others, last) := drainCalls calls next
    (returned :: others, last)

end Drain

variable {flowId : UInt64} {sendPacket : ℕ → Except TunError Unit}

/-- The counters after these payloads were offered and the budget was hit some
number of times. -/
def RxStats.credit (stats : RxStats) (payloads : List Bytes) (hits : ℕ) : RxStats where
  rxPackets := stats.rxPackets + payloads.length
  rxBytes := stats.rxBytes + (payloads.map List.length).sum
  rxDrainBudgetHits := stats.rxDrainBudgetHits + hits

theorem RxStats.credit_credit (stats : RxStats) (first second : List Bytes) (hits more : ℕ) :
    (stats.credit first hits).credit second more = stats.credit (first ++ second) (hits + more) := by
  simp [RxStats.credit, Nat.add_assoc]

/-- Some payloads were offered after those of `link`, in this order, and counted. -/
structure Offers (link next : Downlink) (payloads : List Bytes) (hits : ℕ) : Prop where
  offered : ∃ fresh, next.offered = link.offered ++ fresh ∧ fresh.map Prod.fst = payloads
  stats : next.stats = link.stats.credit payloads hits

theorem Offers.refl (link : Downlink) : Offers link link [] 0 :=
  ⟨⟨[], by simp, rfl⟩, rfl⟩

theorem Offers.trans {link middle next : Downlink} {first second : List Bytes} {hits more : ℕ}
    (before : Offers link middle first hits) (after : Offers middle next second more) :
    Offers link next (first ++ second) (hits + more) := by
  obtain ⟨⟨fresh, offered, named⟩, stats⟩ := before
  obtain ⟨⟨later, offeredLater, namedLater⟩, statsLater⟩ := after
  refine ⟨⟨fresh ++ later, ?_, ?_⟩, ?_⟩
  · rw [offeredLater, offered, List.append_assoc]
  · rw [List.map_append, named, namedLater]
  · rw [statsLater, stats, RxStats.credit_credit]

/-- One DATAGRAM offers its payload when both checks accept it, and nothing else. -/
theorem takeDatagram_offers (flowId : UInt64) (sendPacket : ℕ → Except TunError Unit)
    (link : Downlink) (dgram : Bytes) :
    Offers link (takeDatagram flowId sendPacket link dgram)
        ([dgram].filterMap (acceptedPayload flowId)) 0 ∧
      (takeDatagram flowId sendPacket link dgram).answers = link.answers := by
  unfold takeDatagram acceptedPayload
  cases parsed : ConnectIp.parseDatagram dgram flowId with
  | none => simpa [parsed] using Offers.refl link
  | some ipPayload =>
    cases checked : validateIncoming ipPayload with
    | error reason =>
      simpa [parsed, checked, Option.filter, Except.isOk, Except.toBool] using Offers.refl link
    | ok version =>
      simp only [List.filterMap_cons, List.filterMap_nil, parsed, Option.filter, checked,
        Except.isOk, Except.toBool, if_true, and_true]
      exact ⟨⟨_, rfl, rfl⟩, by simp [RxStats.credit]⟩

/-- What a drain of at most `burst` DATAGRAMs does: it takes `datagrams` and then
`stop` from the answers, and offers what the checks accept of them. -/
structure Drains (flowId : UInt64) (burst : ℕ) (link : Downlink) (returned : Bool)
    (next : Downlink) (datagrams : List Bytes) (stop : List RecvAnswer) : Prop where
  taken : link.answers = datagrams.map .datagram ++ stop ++ next.answers
  few : datagrams.length ≤ burst
  exhausted : returned = true ↔ datagrams.length = burst
  offers : Offers link next (datagrams.filterMap (acceptedPayload flowId)) returned.toNat
  /-- Only the burst, `Done` or an error ends the drain. -/
  stopped : (returned = true ∧ stop = []) ∨ (returned = false ∧ (stop = [.done] ∨ stop = [.error] ∨
    (stop = [] ∧ next.answers = [])))

theorem drainTurns_drains (flowId : UInt64) (sendPacket : ℕ → Except TunError Unit)
    (left : ℕ) (link : Downlink) :
    ∃ datagrams stop, Drains flowId left link (drainTurns flowId sendPacket left link).1
      (drainTurns flowId sendPacket left link).2 datagrams stop := by
  induction left generalizing link with
  | zero =>
    exact ⟨[], [], rfl, Nat.le_refl _, by simp [drainTurns],
      ⟨⟨[], by simp [drainTurns], rfl⟩, rfl⟩, .inl ⟨rfl, rfl⟩⟩
  | succ left ih =>
    rw [drainTurns]
    split
    · rename_i dgram rest coming
      obtain ⟨datagrams, stop, taken, few, exhausted, offers, stopped⟩ :=
        ih (takeDatagram flowId sendPacket { link with answers := rest } dgram)
      obtain ⟨one, same⟩ := takeDatagram_offers flowId sendPacket
        { link with answers := rest } dgram
      refine ⟨dgram :: datagrams, stop, ?_, Nat.succ_le_succ few, ?_, ?_, stopped⟩
      · rw [same] at taken
        rw [coming]
        exact congrArg (RecvAnswer.datagram dgram :: ·) taken
      · rw [exhausted, List.length_cons, Nat.add_right_cancel_iff]
      · have both := one.trans offers
        rw [← List.filterMap_append, Nat.zero_add] at both
        exact ⟨both.offered, both.stats⟩
    · rename_i rest coming
      exact ⟨[], [.done], coming, Nat.zero_le _, by simp, ⟨⟨[], by simp, rfl⟩, rfl⟩,
        .inr ⟨rfl, .inl rfl⟩⟩
    · rename_i rest coming
      exact ⟨[], [.error], coming, Nat.zero_le _, by simp, ⟨⟨[], by simp, rfl⟩, rfl⟩,
        .inr ⟨rfl, .inr (.inl rfl)⟩⟩
    · rename_i coming
      exact ⟨[], [], by simp [coming], Nat.zero_le _, by simp, Offers.refl link,
        .inr ⟨rfl, .inr (.inr ⟨rfl, coming⟩)⟩⟩

/-- The pump's drain is this one with the answers of the writes forgotten. -/
theorem drainTurns_forgets (left : ℕ) (link : Downlink) :
    (drainTurns flowId sendPacket left link).1 =
        (drainIncoming flowId left link.stats link.answers).budgetExhausted ∧
      (drainTurns flowId sendPacket left link).2.stats =
        (drainIncoming flowId left link.stats link.answers).stats ∧
      (drainTurns flowId sendPacket left link).2.offered.map Prod.fst =
        link.offered.map Prod.fst ++ (drainIncoming flowId left link.stats link.answers).written := by
  induction left generalizing link with
  | zero => simp [drainTurns, drainIncoming]
  | succ left ih =>
    rw [drainTurns]
    split
    · rename_i dgram rest coming
      rw [coming, drainIncoming]
      have turn := ih (takeDatagram flowId sendPacket { link with answers := rest } dgram)
      unfold takeDatagram acceptedPayload at *
      cases parsed : ConnectIp.parseDatagram dgram flowId with
      | none => simpa [parsed] using turn
      | some ipPayload =>
        cases checked : validateIncoming ipPayload with
        | error reason =>
          simpa [parsed, checked, Option.filter, Except.isOk, Except.toBool] using turn
        | ok version =>
          simpa [parsed, checked, Option.filter, Except.isOk, Except.toBool] using turn
    · rename_i rest coming
      simp [coming, drainIncoming]
    · rename_i rest coming
      simp [coming, drainIncoming]
    · rename_i coming
      simp [coming, drainIncoming]

/-- The DATAGRAMs among some answers. -/
def received (answers : List RecvAnswer) : List Bytes :=
  answers.filterMap fun
    | .datagram bytes => some bytes
    | .done | .error => none

theorem received_datagrams (datagrams : List Bytes) :
    received (datagrams.map .datagram) = datagrams := by
  induction datagrams with
  | nil => rfl
  | cons dgram rest ih => exact congrArg (dgram :: ·) ih

theorem Drains.received {burst : ℕ} {link next : Downlink} {returned : Bool}
    {datagrams : List Bytes} {stop : List RecvAnswer}
    (drains : Drains flowId burst link returned next datagrams stop) :
    received (datagrams.map .datagram ++ stop) = datagrams := by
  have nothing : DataLoop.received stop = [] := by
    rcases drains.stopped with ⟨-, rfl⟩ | ⟨-, rfl | rfl | ⟨rfl, -⟩⟩ <;> rfl
  have parts := received_datagrams datagrams
  simp only [DataLoop.received, List.filterMap_append] at nothing parts ⊢
  rw [nothing, parts, List.append_nil]

/-- Over any number of calls the answers are taken from the front without a gap,
and what is offered is what the checks accept of the DATAGRAMs among them. -/
theorem drainCalls_offers (calls : ℕ) (link : Downlink) :
    ∃ taken, link.answers = taken ++ (drainCalls flowId sendPacket calls link).2.answers ∧
      Offers link (drainCalls flowId sendPacket calls link).2
        ((received taken).filterMap (acceptedPayload flowId))
        ((drainCalls flowId sendPacket calls link).1.count true) := by
  induction calls generalizing link with
  | zero => exact ⟨[], rfl, Offers.refl link⟩
  | succ calls ih =>
    obtain ⟨datagrams, stop, drains⟩ :=
      drainTurns_drains flowId sendPacket rxDgramDrainBurst link
    obtain ⟨later, laterTaken, laterOffers⟩ :=
      ih (drainTurns flowId sendPacket rxDgramDrainBurst link).2
    refine ⟨datagrams.map .datagram ++ stop ++ later, ?_, ?_⟩
    · rw [drains.taken, laterTaken]
      simp only [List.append_assoc]
      rfl
    · have both := drains.offers.trans laterOffers
      have split : DataLoop.received (datagrams.map .datagram ++ stop ++ later) =
          datagrams ++ DataLoop.received later := by
        have first := drains.received
        simp only [DataLoop.received, List.filterMap_append] at first ⊢
        rw [first]
      rw [split, List.filterMap_append]
      have hits : (drainCalls flowId sendPacket (calls + 1) link).1.count true =
          (drainTurns flowId sendPacket rxDgramDrainBurst link).1.toNat +
            (drainCalls flowId sendPacket calls
              (drainTurns flowId sendPacket rxDgramDrainBurst link).2).1.count true := by
        simp only [drainCalls, drainIncomingDatagrams, List.count_cons]
        cases (drainTurns flowId sendPacket rxDgramDrainBurst link).1
        · simp
        · simp [Nat.add_comm]
      rw [hits]
      exact both

/-- The drain of every call and of every run of calls, whatever quiche answers and
whatever the TUN writes return. -/
theorem downlink_drain (flowId : UInt64) (sendPacket : ℕ → Except TunError Unit)
    (link : Downlink) :
    (∃ datagrams stop, Drains flowId 32 link
      (drainIncomingDatagrams flowId sendPacket link).1
      (drainIncomingDatagrams flowId sendPacket link).2 datagrams stop) ∧
    ∀ calls, ∃ taken,
      link.answers = taken ++ (drainCalls flowId sendPacket calls link).2.answers ∧
      Offers link (drainCalls flowId sendPacket calls link).2
        ((received taken).filterMap (acceptedPayload flowId))
        ((drainCalls flowId sendPacket calls link).1.count true) :=
  ⟨drainTurns_drains flowId sendPacket rxDgramDrainBurst link, fun calls => drainCalls_offers calls link⟩

end Usque.DataLoop
