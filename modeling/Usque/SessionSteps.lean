import Usque.DataLoopSteps
import Usque.Session

/-! What one step of a session attempt can do. Its calls fall into six phases; a
step stays in its phase, goes on to the next one or returns, and what it adds to
the log follows from that. Every invariant of the session is derived from here. -/
namespace Usque.Session

open NativeTun Handshake Http3 Uplink

/-- How far the attempt has come. Nothing may be sent before the pin is verified;
an announced session still holds the captured packet, a serving one does not. -/
inductive Phase where
  | unverified
  | verified
  | requested
  | announced
  | serving
  | returned
  deriving DecidableEq

def phase : Stage → Phase
  | .setup | .handshake | .flushHandshake | .verify => .unverified
  | .request => .verified
  | .flushRequest _ | .connect _ _ | .pollConnect _ _ | .flushConnect _ _ | .announce _ =>
    .requested
  | .probe _ | .pending _ => .announced
  | .flushPending _ | .enter _ | .pump _ _ | .cleanup _ => .serving
  | .returned _ => .returned

/-- Whether `data_loop` runs. -/
def pumping : Stage → Bool
  | .pump _ _ => true
  | _ => false

/-- Before the CONNECT response. -/
def Phase.Early (phase : Phase) : Prop :=
  phase = .unverified ∨ phase = .verified ∨ phase = .requested

/-- The captured packet, where there is one, goes out and so does the flush
behind it. -/
def PendingSent (s : Session) (input : Input) : Prop :=
  match s.stage, input with
  | .pending tunnel, .offered _ maxWritableLen tape =>
    ∀ packet ∈ s.pending, ¬ SendPacket.Fails tunnel.flowPrefix packet maxWritableLen tape
  | .flushPending _, .flushed _ ok _ => ok = true
  | _, _ => True

instance (s : Session) (input : Input) : Decidable (PendingSent s input) := by
  unfold PendingSent
  split <;> infer_instance

/-- Only the position, the clock and the log change. -/
structure Adds (s next : Session) (events : List Event) : Prop where
  device : next.device = s.device
  moments : next.moments = s.moments
  pending : next.pending = s.pending
  published : next.published = s.published
  established : next.sessionEstablished = s.sessionEstablished
  log : next.log = s.log ++ events

/-- What goes into quiche for the captured packet: nothing, or one datagram with
the prepared packet. -/
def PendingDgrams (packet : Bytes) (dgrams : List Bytes) : Prop :=
  dgrams = [] ∨ ∃ flowPrefix, dgrams = [flowPrefix ++ (Packet.prepareOutgoing packet).2]

/-! ## What a session announces -/

theorem mem_hookEvents {point : HookPoint} {path : Option String} {event : Event}
    (member : event ∈ hookEvents point path) : ∃ name, event = .hookRun point name := by
  obtain ⟨name, -, rfl⟩ := List.mem_map.mp member
  exact ⟨name, rfl⟩

theorem opening_cases {cfg : MasqueConfig} {latency : ℕ} {event : Event}
    (member : event ∈ opening cfg latency) :
    event = .connected latency ∨ event = .statsSpawned ∨ ∃ name, event = .hookRun .connect name := by
  rcases List.mem_append.mp member with front | stats
  · rcases List.mem_append.mp front with reported | hook
    · split at reported
      · exact .inl (List.mem_singleton.mp reported)
      · cases reported
    · exact .inr (.inr (mem_hookEvents hook))
  · exact .inr (.inl (List.mem_singleton.mp stats))

theorem closing_cases {cfg : MasqueConfig} {event : Event} (member : event ∈ closing cfg) :
    event = .statsAborted ∨ event = .disconnected ∨
      ∃ name, event = .hookRun .disconnect name := by
  rcases List.mem_append.mp member with front | hook
  · rcases List.mem_cons.mp front with aborted | reported
    · exact .inl aborted
    · split at reported
      · exact .inr (.inl (List.mem_singleton.mp reported))
      · cases reported
  · exact .inr (.inr (mem_hookEvents hook))

section Moves

variable (spkiOf : Bytes → Option Bytes) (cfg : MasqueConfig) (endpoint : MasqueEndpoint)
  (mtu : ℕ)

/-- The call behind an input, with the stage that makes it. -/
inductive Called (s : Session) : Input → Session → Prop where
  | setUp (took : Duration) (here : s.stage = .setup) :
    Called s (.setUp took true)
      { s.wait took with stage := .handshake, heard := (s.wait took).now }
  | setUpFailed (took : Duration) (here : s.stage = .setup) :
    Called s (.setUp took false) ((s.wait took).bail .setup)
  | established (here : s.stage = .handshake) : Called s .established { s with stage := .verify }
  | handshakePass (timeout : Option Duration) (arrival : Arrival) (here : s.stage = .handshake) :
    Called s (.pass timeout arrival) (s.await arrival .flushHandshake)
  | connectPass (timeout : Option Duration) (arrival : Arrival) (streamId : StreamId)
      (deadline : Instant) (here : s.stage = .connect streamId deadline)
      (ahead : s.now < deadline) :
    Called s (.pass timeout arrival) (s.await arrival (.pollConnect streamId deadline))
  | connectTimeout (timeout : Option Duration) (arrival : Arrival) (streamId : StreamId)
      (deadline : Instant) (here : s.stage = .connect streamId deadline)
      (passed : deadline ≤ s.now) :
    Called s (.pass timeout arrival) (s.bail .connectTimeout)
  | flushHandshake (took : Duration) (ok closed : Bool) (here : s.stage = .flushHandshake) :
    Called s (.flushed took ok closed) (s.flush took ok closed .handshakeClosed .handshake)
  | flushRequest (took : Duration) (ok closed : Bool) (streamId : StreamId)
      (here : s.stage = .flushRequest streamId) :
    Called s (.flushed took ok closed) (s.awaitResponse took ok streamId)
  | flushConnect (took : Duration) (ok closed : Bool) (streamId : StreamId) (deadline : Instant)
      (here : s.stage = .flushConnect streamId deadline) :
    Called s (.flushed took ok closed)
      (s.flush took ok closed .connectClosed (.connect streamId deadline))
  | flushPending (took : Duration) (closed : Bool) (tunnel : Tunnel)
      (here : s.stage = .flushPending tunnel) :
    Called s (.flushed took true closed) { s.wait took with stage := .enter tunnel }
  | flushPendingFailed (took : Duration) (closed : Bool) (tunnel : Tunnel)
      (here : s.stage = .flushPending tunnel) :
    Called s (.flushed took false closed) ((s.wait took).bail .flush)
  | certificate (peerCert : Option Bytes) (here : s.stage = .verify) :
    Called s (.certificate peerCert) (s.checkPin spkiOf cfg endpoint peerCert)
  | requested (http3 : Bool) (streamId : Option StreamId) (here : s.stage = .request) :
    Called s (.requested http3 streamId) (s.sendRequest http3 streamId)
  | polled (answers : List PollAnswer) (streamId : StreamId) (deadline : Instant)
      (here : s.stage = .pollConnect streamId deadline) :
    Called s (.polled answers) (s.readResponse answers streamId deadline)
  | announce (streamId : StreamId) (here : s.stage = .announce streamId) :
    Called s .proceed (s.announce cfg streamId)
  | loopEnded (a : LoopArgs) (loop : DataLoop a) (error : DataLoop.LoopError)
      (here : s.stage = .pump a loop) (ended : loop.stage = .ended error) :
    Called s .proceed { s with stage := .cleanup (.pump error) }
  | cleanUp (error : SessionError) (here : s.stage = .cleanup error) :
    Called s .proceed (s.cleanUp cfg error)
  | probe (tunnel : Tunnel) (took : Duration) (maxWritableLen : Option ℕ)
      (tape : List SendPacket.Attempt) (here : s.stage = .probe tunnel) :
    Called s (.offered took maxWritableLen tape) (s.sendProbe cfg tunnel took maxWritableLen tape)
  | pending (tunnel : Tunnel) (took : Duration) (maxWritableLen : Option ℕ)
      (tape : List SendPacket.Attempt) (here : s.stage = .pending tunnel) :
    Called s (.offered took maxWritableLen tape) (s.sendPending tunnel took maxWritableLen tape)
  | entered (tunnel : Tunnel) (quicDeadline : Option Instant) (here : s.stage = .enter tunnel) :
    Called s (.entered quicDeadline) (s.enterLoop cfg mtu tunnel quicDeadline)
  | pump (a : LoopArgs) (loop after : DataLoop a) (label : DataLoop.Label)
      (here : s.stage = .pump a loop) (moved : DataLoop.step loop label = some after) :
    Called s (.pump label) (s.follow loop after)

/-- The regular steps. -/
inductive Moved (s next : Session) : Prop where
  | within (adds : Adds s next []) (same : phase next.stage = phase s.stage)
      (outside : pumping next.stage = false)
  | failed (adds : Adds s next []) (early : (phase s.stage).Early)
      (ends : phase next.stage = .returned)
  | unchecked (adds : Adds s next []) (insecure : cfg.insecure = true)
      (before : phase s.stage = .unverified) (after : phase next.stage = .verified)
  | accepted (cert : Bytes) (valid : spkiOf cert = some endpoint.endpointPubKeySpkiDer)
      (adds : Adds s next [.accepted cert])
      (before : phase s.stage = .unverified) (after : phase next.stage = .verified)
  | requested (adds : Adds s next [.sent .request])
      (before : phase s.stage = .verified) (after : phase next.stage = .requested)
  | announced (latency : ℕ)
      (before : phase s.stage = .requested) (after : phase next.stage = .announced)
      (device : next.device = s.device) (moments : next.moments = s.moments)
      (pending : next.pending = s.pending) (established : next.sessionEstablished = true)
      (published : next.published =
        if cfg.deviceState then .connected latency else s.published)
      (log : next.log = s.log ++ opening cfg latency)
  | probed (dgrams : List Bytes) (adds : Adds s next (dgrams.map fun dgram => .sent (.probe dgram)))
      (before : phase s.stage = .announced) (after : phase next.stage = .announced)
  | unneeded (adds : Adds s next []) (idle : s.pending = none)
      (before : phase s.stage = .announced) (after : phase next.stage = .serving)
      (outside : pumping next.stage = false)
  | handed (packet : Bytes) (dgrams : List Bytes) (held : s.pending = some packet)
      (once : PendingDgrams packet dgrams)
      (before : phase s.stage = .announced) (after : phase next.stage = .serving)
      (outside : pumping next.stage = false)
      (device : next.device = s.device) (moments : next.moments = s.moments)
      (pending : next.pending = none) (published : next.published = s.published)
      (established : next.sessionEstablished = s.sessionEstablished)
      (log : next.log = s.log ++
        .handed packet :: dgrams.map fun dgram => .sent (.pending dgram))
  | entered (tunnel : Tunnel) (loop : DataLoop (loopArgs cfg mtu tunnel))
      (adds : Adds s next []) (before : phase s.stage = .serving)
      (there : next.stage = .pump (loopArgs cfg mtu tunnel) loop) (device : loop.device = s.device)
  | pumped (a : LoopArgs) (loop after : DataLoop a) (label : DataLoop.Label)
      (here : s.stage = .pump a loop) (stepped : DataLoop.step loop label = some after)
      (same : next = s.follow loop after)
  | cleaned (before : phase s.stage = .serving) (after : phase next.stage = .returned)
      (device : next.device = s.device) (moments : next.moments = s.moments)
      (pending : next.pending = s.pending)
      (established : next.sessionEstablished = s.sessionEstablished)
      (published : next.published = if cfg.deviceState then .disconnected else s.published)
      (log : next.log = s.log ++ closing cfg)

/-- The two steps that leave an announced session without its cleanup. -/
inductive Abandoned (s next : Session) : Prop where
  | sending (packet : Bytes) (dgrams : List Bytes) (held : s.pending = some packet)
      (once : PendingDgrams packet dgrams)
      (before : phase s.stage = .announced) (after : phase next.stage = .returned)
      (device : next.device = s.device) (moments : next.moments = s.moments)
      (pending : next.pending = none) (published : next.published = s.published)
      (established : next.sessionEstablished = s.sessionEstablished)
      (log : next.log = s.log ++
        .handed packet :: dgrams.map fun dgram => .sent (.pending dgram))
  | flushing (adds : Adds s next []) (before : phase s.stage = .serving)
      (after : phase next.stage = .returned)

variable {spkiOf cfg endpoint mtu} {s next : Session} {input : Input}

theorem step_called (stepped : step spkiOf cfg endpoint mtu s input = some next) :
    Called spkiOf cfg endpoint mtu s input next := by
  cases input with
  | setUp took ok =>
    simp only [step] at stepped
    split at stepped
    · rename_i here
      cases stepped
      cases ok with
      | true => exact .setUp took here
      | false => exact .setUpFailed took here
    · cases stepped
  | established =>
    simp only [step] at stepped
    split at stepped
    · rename_i here
      cases stepped
      exact .established here
    · cases stepped
  | pass timeout arrival =>
    simp only [step] at stepped
    split at stepped
    · split at stepped
      · rename_i here
        cases stepped
        exact .handshakePass timeout arrival here
      · rename_i streamId deadline here
        cases stepped
        split
        · exact .connectTimeout timeout arrival streamId deadline here ‹_›
        · rename_i ahead
          exact .connectPass timeout arrival streamId deadline here (Int.not_le.mp ahead)
      · cases stepped
    · cases stepped
  | flushed took ok closed =>
    simp only [step] at stepped
    split at stepped
    · rename_i here
      cases stepped
      exact .flushHandshake took ok closed here
    · rename_i streamId here
      cases stepped
      exact .flushRequest took ok closed streamId here
    · rename_i streamId deadline here
      cases stepped
      exact .flushConnect took ok closed streamId deadline here
    · rename_i tunnel here
      cases stepped
      cases ok with
      | true => exact .flushPending took closed tunnel here
      | false => exact .flushPendingFailed took closed tunnel here
    · cases stepped
  | certificate peerCert =>
    simp only [step] at stepped
    split at stepped
    · rename_i here
      cases stepped
      exact .certificate peerCert here
    · cases stepped
  | requested http3 streamId =>
    simp only [step] at stepped
    split at stepped
    · rename_i here
      cases stepped
      exact .requested http3 streamId here
    · cases stepped
  | polled answers =>
    simp only [step] at stepped
    split at stepped
    · rename_i streamId deadline here
      cases stepped
      exact .polled answers streamId deadline here
    · cases stepped
  | proceed =>
    simp only [step] at stepped
    split at stepped
    · rename_i streamId here
      cases stepped
      exact .announce streamId here
    · rename_i a loop here
      split at stepped
      · rename_i error ended
        cases stepped
        exact .loopEnded a loop error here ended
      · cases stepped
    · rename_i error here
      cases stepped
      exact .cleanUp error here
    · cases stepped
  | offered took maxWritableLen tape =>
    simp only [step] at stepped
    split at stepped
    · rename_i tunnel here
      cases stepped
      exact .probe tunnel took maxWritableLen tape here
    · rename_i tunnel here
      cases stepped
      exact .pending tunnel took maxWritableLen tape here
    · cases stepped
  | entered quicDeadline =>
    simp only [step] at stepped
    split at stepped
    · rename_i tunnel here
      cases stepped
      exact .entered tunnel quicDeadline here
    · cases stepped
  | pump label =>
    simp only [step] at stepped
    split at stepped
    · rename_i a loop here
      obtain ⟨after, moved, rfl⟩ := Option.map_eq_some_iff.mp stepped
      exact .pump a loop after label here moved
    · cases stepped

theorem Adds.refl (s : Session) : Adds s s [] := ⟨rfl, rfl, rfl, rfl, rfl, by simp⟩

theorem Adds.at_stage {events : List Event} (adds : Adds s next events) (stage : Stage) :
    Adds s { next with stage := stage } events :=
  ⟨adds.device, adds.moments, adds.pending, adds.published, adds.established, adds.log⟩

theorem Adds.bail {events : List Event} (adds : Adds s next events) (error : SessionError) :
    Adds s (next.bail error) events := adds.at_stage _

theorem Adds.wait {events : List Event} (adds : Adds s next events) (took : Duration) :
    Adds s (next.wait took) events :=
  ⟨adds.device, adds.moments, adds.pending, adds.published, adds.established, adds.log⟩

theorem Adds.heard_at {events : List Event} (adds : Adds s next events) (heard : Instant) :
    Adds s { next with heard := heard } events :=
  ⟨adds.device, adds.moments, adds.pending, adds.published, adds.established, adds.log⟩

theorem adds_stage (stage : Stage) : Adds s { s with stage := stage } [] := (Adds.refl s).at_stage stage

theorem adds_emit (stage : Stage) (events : List Event) :
    Adds s (emit { s with stage := stage } events) events := ⟨rfl, rfl, rfl, rfl, rfl, rfl⟩

theorem adds_bail (error : SessionError) : Adds s (s.bail error) [] := (Adds.refl s).bail error

theorem adds_wait (took : Duration) : Adds s (s.wait took) [] := (Adds.refl s).wait took

/-- A pass of a wait loop goes on or fails. -/
theorem await_moved {arrival : Arrival} {onward : Stage} (early : (phase s.stage).Early)
    (same : phase onward = phase s.stage) (outside : pumping onward = false) :
    Moved spkiOf cfg endpoint mtu s (s.await arrival onward) := by
  cases arrival with
  | received waited =>
    exact .within (((adds_wait waited).at_stage onward).heard_at _) same outside
  | failed waited => exact .failed ((adds_wait waited).bail _) early rfl
  | slept waited => exact .within ((adds_wait waited).at_stage onward) same outside

theorem flush_moved {took : Duration} {ok closed : Bool} {whenClosed : SessionError}
    {onward : Stage} (early : (phase s.stage).Early) (same : phase onward = phase s.stage)
    (outside : pumping onward = false) :
    Moved spkiOf cfg endpoint mtu s (s.flush took ok closed whenClosed onward) := by
  unfold flush
  dsimp only
  split
  · exact .failed ((adds_wait took).bail _) early rfl
  · split
    · exact .failed ((adds_wait took).bail _) early rfl
    · exact .within ((adds_wait took).at_stage onward) same outside

theorem checkPin_moved {peerCert : Option Bytes} (here : s.stage = .verify) :
    Moved spkiOf cfg endpoint mtu s (s.checkPin spkiOf cfg endpoint peerCert) := by
  have before : phase s.stage = .unverified := by rw [here]; rfl
  have early : (phase s.stage).Early := .inl before
  unfold checkPin
  split
  · exact .unchecked (adds_stage _) ‹_› before rfl
  · split
    · exact .failed (adds_bail _) early rfl
    · rename_i cert
      split
      · rename_i valid
        exact .accepted cert (verifyEndpointKey_iff.mp valid) (adds_emit _ _) before rfl
      · exact .failed (adds_bail _) early rfl

theorem sendRequest_moved {http3 : Bool} {streamId : Option StreamId}
    (here : s.stage = .request) :
    Moved spkiOf cfg endpoint mtu s (s.sendRequest http3 streamId) := by
  have before : phase s.stage = .verified := by rw [here]; rfl
  have early : (phase s.stage).Early := .inr (.inl before)
  unfold sendRequest
  split
  · exact .failed (adds_bail _) early rfl
  · split
    · exact .failed (adds_bail _) early rfl
    · exact .requested (adds_emit _ _) before rfl

theorem readResponse_moved {answers : List PollAnswer} {streamId : StreamId} {deadline : Instant}
    (before : phase s.stage = .requested) :
    Moved spkiOf cfg endpoint mtu s (s.readResponse answers streamId deadline) := by
  unfold readResponse
  split
  · exact .failed (adds_bail _) (.inr (.inr before)) rfl
  · exact .within (adds_stage _) before.symm rfl
  · exact .within (adds_stage _) before.symm rfl

/-- The flow prefix never fails, so an announced session stays announced. -/
theorem announce_moved {streamId : StreamId} (here : s.stage = .announce streamId) :
    Moved spkiOf cfg endpoint mtu s (s.announce cfg streamId) := by
  obtain ⟨flowPrefix, built⟩ := ConnectIp.buildFlowPrefix_quarter_stream streamId
  have before : phase s.stage = .requested := by rw [here]; rfl
  simp only [announce, built]
  exact .announced s.latencyMs before rfl rfl rfl rfl rfl rfl rfl

theorem sendProbe_moved {tunnel : Tunnel} {took : Duration} {maxWritableLen : Option ℕ}
    {tape : List SendPacket.Attempt} (here : s.stage = .probe tunnel) :
    Moved spkiOf cfg endpoint mtu s (s.sendProbe cfg tunnel took maxWritableLen tape) := by
  have before : phase s.stage = .announced := by rw [here]; rfl
  unfold sendProbe
  split
  · exact .within (adds_stage _) before.symm rfl
  · exact .probed _ ⟨rfl, rfl, rfl, rfl, rfl, rfl⟩ before rfl

/-- The captured packet is taken before it is known whether it can be sent. -/
theorem sendPending_moved {tunnel : Tunnel} {took : Duration} {maxWritableLen : Option ℕ}
    {tape : List SendPacket.Attempt} (here : s.stage = .pending tunnel) :
    (PendingSent s (.offered took maxWritableLen tape) ∧
      Moved spkiOf cfg endpoint mtu s (s.sendPending tunnel took maxWritableLen tape)) ∨
    (¬ PendingSent s (.offered took maxWritableLen tape) ∧
      Abandoned s (s.sendPending tunnel took maxWritableLen tape)) := by
  have before : phase s.stage = .announced := by rw [here]; rfl
  have condition : PendingSent s (.offered took maxWritableLen tape) ↔
      ∀ packet ∈ s.pending, ¬ SendPacket.Fails tunnel.flowPrefix packet maxWritableLen tape := by
    simp only [PendingSent, here]
  rw [condition]
  cases held : s.pending with
  | none =>
    refine .inl ⟨nofun, ?_⟩
    simp only [sendPending, held]
    exact .unneeded (adds_stage _) held before rfl rfl
  | some packet =>
    have fails : (∃ error, (SendPacket.sendPacketDatagram tunnel.flowPrefix packet s.device.mtu
        maxWritableLen tunnel.stats tape).result = .error error) ↔
        SendPacket.Fails tunnel.flowPrefix packet maxWritableLen tape :=
      SendPacket.sendPacketDatagram_error_iff
    have once : PendingDgrams packet (SendPacket.sendPacketDatagram tunnel.flowPrefix packet
        s.device.mtu maxWritableLen tunnel.stats tape).sent := by
      rcases SendPacket.sendPacketDatagram_sent tunnel.flowPrefix packet s.device.mtu
        maxWritableLen tunnel.stats tape with one | none
      · exact .inr ⟨tunnel.flowPrefix, one⟩
      · exact .inl none
    simp only [sendPending, held]
    split
    · rename_i error failed
      refine .inr ⟨fun sent => sent packet rfl (fails.mp ⟨error, failed⟩), ?_⟩
      exact .sending packet _ held once before rfl rfl rfl rfl rfl rfl rfl
    · rename_i queued succeeded
      refine .inl ⟨?_, .handed packet _ held once before rfl rfl rfl rfl rfl rfl rfl rfl⟩
      rintro other same failing
      obtain rfl := Option.some.inj same
      obtain ⟨error, failed⟩ := fails.mpr failing
      rw [succeeded] at failed
      cases failed

theorem enterLoop_moved {tunnel : Tunnel} {quicDeadline : Option Instant}
    (here : s.stage = .enter tunnel) :
    Moved spkiOf cfg endpoint mtu s (s.enterLoop cfg mtu tunnel quicDeadline) := by
  obtain ⟨free, -, started⟩ := DataLoop.start_eq (loopArgs cfg mtu tunnel) tunnel.stats s.device
    s.now quicDeadline
  simp only [enterLoop, started]
  exact .entered tunnel _ (adds_stage _) (by rw [here]; rfl) rfl rfl

/-- A step is regular unless the captured packet or its flush fails. -/
theorem step_moved (stepped : step spkiOf cfg endpoint mtu s input = some next) :
    (PendingSent s input ∧ Moved spkiOf cfg endpoint mtu s next) ∨
      (¬ PendingSent s input ∧ Abandoned s next) := by
  have at_stage {stage : Stage} (here : s.stage = stage) : phase s.stage = phase stage := by
    rw [here]
  cases step_called stepped with
  | setUp took here =>
    refine .inl ⟨by simp only [PendingSent, here], ?_⟩
    exact .within (((adds_wait took).at_stage _).heard_at _) (at_stage here).symm rfl
  | setUpFailed took here =>
    refine .inl ⟨by simp only [PendingSent, here], ?_⟩
    exact .failed ((adds_wait took).bail _) (.inl (at_stage here)) rfl
  | established here =>
    exact .inl ⟨by simp only [PendingSent, here], .within (adds_stage _) (at_stage here).symm rfl⟩
  | handshakePass timeout arrival here =>
    refine .inl ⟨by simp only [PendingSent, here], ?_⟩
    exact await_moved (.inl (at_stage here)) (at_stage here).symm rfl
  | connectPass timeout arrival streamId deadline here ahead =>
    refine .inl ⟨by simp only [PendingSent, here], ?_⟩
    exact await_moved (.inr (.inr (at_stage here))) (at_stage here).symm rfl
  | connectTimeout timeout arrival streamId deadline here passed =>
    refine .inl ⟨by simp only [PendingSent, here], ?_⟩
    exact .failed (adds_bail _) (.inr (.inr (at_stage here))) rfl
  | flushHandshake took ok closed here =>
    refine .inl ⟨by simp only [PendingSent, here], ?_⟩
    exact flush_moved (.inl (at_stage here)) (at_stage here).symm rfl
  | flushRequest took ok closed streamId here =>
    refine .inl ⟨by simp only [PendingSent, here], ?_⟩
    cases ok with
    | true => exact .within ((adds_wait took).at_stage _) (at_stage here).symm rfl
    | false => exact .failed ((adds_wait took).bail _) (.inr (.inr (at_stage here))) rfl
  | flushConnect took ok closed streamId deadline here =>
    refine .inl ⟨by simp only [PendingSent, here], ?_⟩
    exact flush_moved (.inr (.inr (at_stage here))) (at_stage here).symm rfl
  | flushPending took closed tunnel here =>
    refine .inl ⟨by simp only [PendingSent, here], ?_⟩
    exact .within ((adds_wait took).at_stage _) (at_stage here).symm rfl
  | flushPendingFailed took closed tunnel here =>
    refine .inr ⟨by simp [PendingSent, here], ?_⟩
    exact .flushing ((adds_wait took).bail _) (at_stage here) rfl
  | certificate peerCert here =>
    exact .inl ⟨by simp only [PendingSent, here], checkPin_moved here⟩
  | requested http3 streamId here =>
    exact .inl ⟨by simp only [PendingSent, here], sendRequest_moved here⟩
  | polled answers streamId deadline here =>
    exact .inl ⟨by simp only [PendingSent, here], readResponse_moved (at_stage here)⟩
  | announce streamId here =>
    exact .inl ⟨by simp only [PendingSent, here], announce_moved here⟩
  | loopEnded a loop error here ended =>
    exact .inl ⟨by simp only [PendingSent, here], .within (adds_stage _) (at_stage here).symm rfl⟩
  | cleanUp error here =>
    refine .inl ⟨by simp only [PendingSent, here], ?_⟩
    exact .cleaned (at_stage here) rfl rfl rfl rfl rfl rfl rfl
  | probe tunnel took maxWritableLen tape here =>
    exact .inl ⟨by simp only [PendingSent, here], sendProbe_moved here⟩
  | pending tunnel took maxWritableLen tape here => exact sendPending_moved here
  | entered tunnel quicDeadline here =>
    exact .inl ⟨by simp only [PendingSent, here], enterLoop_moved here⟩
  | pump a loop after label here moved =>
    exact .inl ⟨by simp only [PendingSent, here], .pumped a loop after label here moved rfl⟩

end Moves

end Usque.Session
