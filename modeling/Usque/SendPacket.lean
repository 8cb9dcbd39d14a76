import Usque.Uplink

/-! The one-packet path `send_packet_datagram` (`api/masque.rs`): the activation
probe and the packet captured before the session go through it. Each turn of its
retry loop is one entry of a tape of answers; behind the end of the tape the
DATAGRAM queue stays full. -/
namespace Usque

def datagramAttempts : ℕ := 512

namespace SendPacket

open Packet Uplink

inductive SendError where
  | flush
  | udp
  | closed
  deriving DecidableEq

/-- What one turn of the retry loop meets: room in the queue and the answer of
`dgram_send_buf`, or a full queue and what happens while the loop waits. -/
inductive Attempt where
  | accepted
  | refused
  | waited (failure : Option SendError)
  deriving DecidableEq

/-- The result, the counters, and what went into quiche and to the TUN. -/
structure Outcome where
  result : Except SendError Bool
  stats : TxStats
  sent : List Bytes
  written : List Bytes

def dropped (stats : TxStats) (written : List Bytes) : Outcome :=
  ⟨.ok false, { stats with dropped := stats.dropped + 1 }, [], written⟩

/-- The retry loop with `left` attempts to go. -/
def offer (dgram : Bytes) (pktLen : ℕ) (stats : TxStats) : ℕ → List Attempt → Outcome
  | 0, _ => dropped stats []
  | _ + 1, .accepted :: _ =>
    ⟨.ok true, { stats with
      txPackets := stats.txPackets + 1
      txBytes := stats.txBytes + pktLen }, [dgram], []⟩
  | _ + 1, .refused :: _ => dropped stats []
  | _ + 1, .waited (some failure) :: _ => ⟨.error failure, stats, [], []⟩
  | left + 1, .waited none :: rest => offer dgram pktLen stats left rest
  | left + 1, [] => offer dgram pktLen stats left []

/-- `send_packet_datagram` with the device's cached MTU and quiche's writable
length. -/
def sendPacketDatagram (flowPrefix pkt : Bytes) (currentMtu : UInt16) (maxWritableLen : Option ℕ)
    (stats : TxStats) (tape : List Attempt) : Outcome :=
  let (answer, pkt) := prepareOutgoing pkt
  match answer with
  | .error _ => dropped stats []
  | .ok _ =>
    let dgram := flowPrefix ++ pkt
    match maxWritableLen.filter (dgram.length > ·) with
    | some _ => dropped stats (Icmp.composeIcmpTooLarge pkt currentMtu).toList
    | none => offer dgram pkt.length stats datagramAttempts tape

variable {flowPrefix pkt : Bytes} {currentMtu : UInt16} {maxWritableLen : Option ℕ}
  {stats : TxStats} {tape : List Attempt}

/-- The loop hands over the datagram at most once, and nothing else. -/
theorem offer_sent (dgram : Bytes) (pktLen : ℕ) (stats : TxStats) (left : ℕ)
    (tape : List Attempt) :
    (offer dgram pktLen stats left tape).sent = [dgram] ∧
        (offer dgram pktLen stats left tape).result = .ok true ∨
      (offer dgram pktLen stats left tape).sent = [] ∧
        (offer dgram pktLen stats left tape).result ≠ .ok true := by
  induction left generalizing tape with
  | zero => exact .inr ⟨rfl, by simp [offer, dropped]⟩
  | succ left ih =>
    cases tape with
    | nil => exact ih []
    | cons attempt rest =>
      cases attempt with
      | accepted => exact .inl ⟨rfl, rfl⟩
      | refused => exact .inr ⟨rfl, by simp [offer, dropped]⟩
      | waited failure =>
        cases failure with
        | some failure => exact .inr ⟨rfl, by simp [offer]⟩
        | none => exact ih rest

/-- A wait fails while an attempt is left and no answer has come. -/
def waitFails : ℕ → List Attempt → Bool
  | left + 1, .waited none :: rest => waitFails left rest
  | _ + 1, .waited (some _) :: _ => true
  | _, _ => false

theorem offer_error_iff (dgram : Bytes) (pktLen : ℕ) (stats : TxStats) (left : ℕ)
    (tape : List Attempt) :
    (∃ failure, (offer dgram pktLen stats left tape).result = .error failure) ↔
      waitFails left tape = true := by
  have behindTheTape (left : ℕ) :
      ¬ ∃ failure, (offer dgram pktLen stats left []).result = .error failure := by
    induction left with
    | zero => simp [offer, dropped]
    | succ left ih => exact ih
  induction left generalizing tape with
  | zero => simp [offer, dropped, waitFails]
  | succ left ih =>
    cases tape with
    | nil => simp [waitFails, behindTheTape]
    | cons attempt rest =>
      cases attempt with
      | accepted => simp [offer, waitFails]
      | refused => simp [offer, dropped, waitFails]
      | waited failure =>
        cases failure with
        | some failure => simp [offer, waitFails]
        | none => exact ih rest

/-- A packet that may be sent waits for room, and the wait fails. -/
def Fails (flowPrefix pkt : Bytes) (maxWritableLen : Option ℕ) (tape : List Attempt) : Prop :=
  (prepareOutgoing pkt).1.isOk = true ∧
    (∀ writable ∈ maxWritableLen, flowPrefix.length + pkt.length ≤ writable) ∧
    waitFails datagramAttempts tape = true

instance : Decidable (Fails flowPrefix pkt maxWritableLen tape) :=
  inferInstanceAs (Decidable (_ ∧ _ ∧ _))

/-- Every other refusal only drops the packet. -/
theorem sendPacketDatagram_error_iff :
    (∃ failure, (sendPacketDatagram flowPrefix pkt currentMtu maxWritableLen stats tape).result =
        .error failure) ↔ Fails flowPrefix pkt maxWritableLen tape := by
  have size : (flowPrefix ++ (prepareOutgoing pkt).2).length = flowPrefix.length + pkt.length := by
    rw [List.length_append, prepareOutgoing_length]
  unfold sendPacketDatagram Fails
  dsimp only
  split
  · rename_i error refused
    simp [dropped, refused, Except.isOk, Except.toBool]
  · rename_i version prepared
    have isOk : (prepareOutgoing pkt).1.isOk = true := by
      rw [prepared]
      rfl
    split
    · rename_i writable refused
      obtain ⟨known, exceeds⟩ := Option.filter_eq_some_iff.mp refused
      have tooLong : writable < flowPrefix.length + pkt.length := by
        rw [← size]
        exact of_decide_eq_true exceeds
      simp only [dropped, reduceCtorEq, exists_false, false_iff, not_and]
      intro _ fits
      exact absurd (fits writable known) (by omega)
    · rename_i fits
      rw [offer_error_iff]
      have room : ∀ writable ∈ maxWritableLen, flowPrefix.length + pkt.length ≤ writable := by
        intro writable known
        have kept := Option.filter_eq_none_iff.mp fits writable known
        rw [size] at kept
        simpa using kept
      exact ⟨fun failed => ⟨isOk, room, failed⟩, fun failed => failed.2.2⟩

/-- A packet goes into quiche at most once: prepared, behind the prefix. -/
theorem sendPacketDatagram_sent (flowPrefix pkt : Bytes) (currentMtu : UInt16)
    (maxWritableLen : Option ℕ) (stats : TxStats) (tape : List Attempt) :
    (sendPacketDatagram flowPrefix pkt currentMtu maxWritableLen stats tape).sent =
        [flowPrefix ++ (prepareOutgoing pkt).2] ∨
      (sendPacketDatagram flowPrefix pkt currentMtu maxWritableLen stats tape).sent = [] := by
  unfold sendPacketDatagram
  dsimp only
  split
  · exact .inr rfl
  · split
    · exact .inr rfl
    · rcases offer_sent (flowPrefix ++ (prepareOutgoing pkt).2) (prepareOutgoing pkt).2.length
        stats datagramAttempts tape with accepted | given
      · exact .inl accepted.1
      · exact .inr given.1

/-- The oversize branch: the packet is dropped and answered. -/
theorem sendPacketDatagram_oversize {version : UInt8} {writable : ℕ}
    (prepared : (prepareOutgoing pkt).1 = .ok version) (known : maxWritableLen = some writable)
    (exceeds : writable < flowPrefix.length + pkt.length) :
    sendPacketDatagram flowPrefix pkt currentMtu maxWritableLen stats tape =
      dropped stats (Icmp.composeIcmpTooLarge (prepareOutgoing pkt).2 currentMtu).toList := by
  have refused : maxWritableLen.filter ((flowPrefix ++ (prepareOutgoing pkt).2).length > ·) =
      some writable := by
    rw [known, Option.filter_some, if_pos]
    simpa [prepareOutgoing_length] using exceeds
  simp only [sendPacketDatagram, prepared, refused]

end SendPacket
end Usque
