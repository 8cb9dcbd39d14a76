import Usque.DeviceReports
import Usque.Lib.Watch

/-! That no change of the connection state is lost on its way to the service. The session
publishes into a watched cell while the reporter is still busy with an earlier report, so
states may be overwritten unseen; the change itself stays pending until the cell has been
read again. -/
namespace Usque

/-- The state an event publishes. -/
def Event.publishes : Event → Option ConnectionState
  | .connected latencyMs => some (.connected latencyMs)
  | .disconnected => some .disconnected
  | _ => none

def publishedStates (log : List Event) : List ConnectionState := log.filterMap Event.publishes

@[simp] theorem publishedStates_append (log events : List Event) :
    publishedStates (log ++ events) = publishedStates log ++ publishedStates events :=
  List.filterMap_append ..

theorem publishedStates_silent {events : List Event}
    (silent : ∀ event ∈ events, event.publishes = none) : publishedStates events = [] :=
  List.filterMap_eq_nil_iff.mpr silent

theorem publishes_sent {α : Type} {items : List α} {what : α → Sent} :
    publishedStates (items.map fun item => Event.sent (what item)) = [] := by
  refine publishedStates_silent fun event member => ?_
  obtain ⟨item, -, rfl⟩ := List.mem_map.mp member
  rfl

theorem publishes_hookEvents (point : HookPoint) (path : Option String) :
    publishedStates (Session.hookEvents point path) = [] := by
  refine publishedStates_silent fun event member => ?_
  obtain ⟨name, rfl⟩ := Session.mem_hookEvents member
  rfl

/-- Between the two states of the world `states` are published, in this order. -/
structure World.Publishes (s next : World) (states : List ConnectionState) : Prop where
  log : publishedStates next.log = publishedStates s.log ++ states
  current : next.published = states.getLast?.getD s.published

theorem World.publishes_nothing {s next : World} {events : List Event}
    (log : next.log = s.log ++ events) (silent : publishedStates events = [])
    (published : next.published = s.published) : s.Publishes next [] :=
  ⟨by rw [log, publishedStates_append, silent], published⟩

/-! ## What a session publishes -/

namespace Session

open Handshake Http3

variable {spkiOf : Bytes → Option Bytes} {cfg : MasqueConfig} {endpoint : MasqueEndpoint}
  {mtu : ℕ} {s next : Session} {input : Input}

theorem Adds.quiet {events : List Event} (adds : Adds s next events)
    (silent : publishedStates events = []) : s.toWorld.Publishes next.toWorld [] :=
  World.publishes_nothing adds.log silent adds.published

theorem await_quiet (arrival : Arrival) (onward : Stage) :
    s.toWorld.Publishes (s.await arrival onward).toWorld [] := by
  cases arrival with
  | received waited => exact (((adds_wait waited).at_stage onward).heard_at _).quiet rfl
  | failed waited => exact ((adds_wait waited).bail _).quiet rfl
  | slept waited => exact ((adds_wait waited).at_stage onward).quiet rfl

theorem flush_quiet (took : Duration) (ok closed : Bool) (whenClosed : SessionError) (onward : Stage) :
    s.toWorld.Publishes (s.flush took ok closed whenClosed onward).toWorld [] := by
  unfold flush
  dsimp only
  split
  · exact ((adds_wait took).bail _).quiet rfl
  · split
    · exact ((adds_wait took).bail _).quiet rfl
    · exact ((adds_wait took).at_stage onward).quiet rfl

theorem checkPin_quiet (peerCert : Option Bytes) :
    s.toWorld.Publishes (s.checkPin spkiOf cfg endpoint peerCert).toWorld [] := by
  unfold checkPin
  split
  · exact (adds_stage _).quiet rfl
  · split
    · exact (adds_bail _).quiet rfl
    · split
      · exact (adds_emit _ _).quiet rfl
      · exact (adds_bail _).quiet rfl

theorem sendRequest_quiet (http3 : Bool) (streamId : Option StreamId) :
    s.toWorld.Publishes (s.sendRequest http3 streamId).toWorld [] := by
  unfold sendRequest
  split
  · exact (adds_bail _).quiet rfl
  · split
    · exact (adds_bail _).quiet rfl
    · exact (adds_emit _ _).quiet rfl

theorem readResponse_quiet (answers : List PollAnswer) (streamId : StreamId) (deadline : Instant) :
    s.toWorld.Publishes (s.readResponse answers streamId deadline).toWorld [] := by
  unfold readResponse
  split
  · exact (adds_bail _).quiet rfl
  · exact (adds_stage _).quiet rfl
  · exact (adds_stage _).quiet rfl

theorem sendProbe_quiet (tunnel : Tunnel) (took : Duration) (maxWritableLen : Option ℕ)
    (tape : List SendPacket.Attempt) :
    s.toWorld.Publishes (s.sendProbe cfg tunnel took maxWritableLen tape).toWorld [] := by
  unfold sendProbe
  split
  · exact (adds_stage _).quiet rfl
  · exact World.publishes_nothing rfl publishes_sent rfl

theorem sendPending_quiet (tunnel : Tunnel) (took : Duration) (maxWritableLen : Option ℕ)
    (tape : List SendPacket.Attempt) :
    s.toWorld.Publishes (s.sendPending tunnel took maxWritableLen tape).toWorld [] := by
  unfold sendPending
  split
  · exact (adds_stage _).quiet rfl
  · dsimp only
    split <;> exact World.publishes_nothing rfl publishes_sent rfl

theorem enterLoop_quiet (tunnel : Tunnel) (quicDeadline : Option Instant) :
    s.toWorld.Publishes (s.enterLoop cfg mtu tunnel quicDeadline).toWorld [] := by
  unfold enterLoop
  dsimp only
  split <;> exact (adds_stage _).quiet rfl

theorem follow_quiet {a : LoopArgs} (before after : DataLoop a) :
    s.toWorld.Publishes (s.follow before after).toWorld [] := by
  refine World.publishes_nothing rfl ?_ rfl
  rw [pumpEvents, publishedStates_append, publishes_sent, publishes_sent, List.append_nil]

theorem announce_publishes (streamId : StreamId) :
    s.toWorld.Publishes (s.announce cfg streamId).toWorld
      (if cfg.deviceState then [.connected s.latencyMs] else []) := by
  obtain ⟨flowPrefix, built⟩ := ConnectIp.buildFlowPrefix_quarter_stream streamId
  simp only [announce, built]
  have opened : publishedStates (opening cfg s.latencyMs) =
      if cfg.deviceState then [.connected s.latencyMs] else [] := by
    rw [opening, publishedStates_append, publishedStates_append, publishes_hookEvents]
    cases cfg.deviceState <;> rfl
  constructor
  · show publishedStates (s.log ++ opening cfg s.latencyMs) = _
    rw [publishedStates_append, opened]
  · cases cfg.deviceState <;> simp [emit]

theorem cleanUp_publishes (error : SessionError) :
    s.toWorld.Publishes (s.cleanUp cfg error).toWorld
      (if cfg.deviceState then [.disconnected] else []) := by
  have closed : publishedStates (closing cfg) = if cfg.deviceState then [.disconnected] else [] := by
    rw [closing, publishedStates_append, publishes_hookEvents]
    cases cfg.deviceState <;> rfl
  constructor
  · show publishedStates (s.log ++ closing cfg) = _
    rw [publishedStates_append, closed]
  · cases reports : cfg.deviceState <;> simp [cleanUp, emit, reports]

/-- Only a session that is announced or cleaned up publishes anything. -/
theorem step_publishes (stepped : step spkiOf cfg endpoint mtu s input = some next) :
    ∃ states, s.toWorld.Publishes next.toWorld states ∧
      (states = [] ∨ cfg.deviceState = true ∧
        ((∃ streamId, s.stage = .announce streamId) ∨ ∃ error, s.stage = .cleanup error)) := by
  have publishing {states : List ConnectionState}
      (here : (∃ streamId, s.stage = .announce streamId) ∨ ∃ error, s.stage = .cleanup error) :
      (if cfg.deviceState then states else []) = [] ∨ cfg.deviceState = true ∧
        ((∃ streamId, s.stage = .announce streamId) ∨ ∃ error, s.stage = .cleanup error) := by
    cases cfg.deviceState with
    | true => exact .inr ⟨rfl, here⟩
    | false => exact .inl rfl
  cases step_called stepped with
  | setUp took here => exact ⟨[], (((adds_wait took).at_stage _).heard_at _).quiet rfl, .inl rfl⟩
  | setUpFailed took here => exact ⟨[], ((adds_wait took).bail _).quiet rfl, .inl rfl⟩
  | established here => exact ⟨[], (adds_stage _).quiet rfl, .inl rfl⟩
  | handshakePass timeout arrival here => exact ⟨[], await_quiet arrival _, .inl rfl⟩
  | connectPass timeout arrival streamId deadline here ahead =>
    exact ⟨[], await_quiet arrival _, .inl rfl⟩
  | connectTimeout timeout arrival streamId deadline here passed =>
    exact ⟨[], (adds_bail _).quiet rfl, .inl rfl⟩
  | flushHandshake took ok closed here => exact ⟨[], flush_quiet _ _ _ _ _, .inl rfl⟩
  | flushRequest took ok closed streamId here =>
    refine ⟨[], ?_, .inl rfl⟩
    cases ok with
    | true => exact ((adds_wait took).at_stage _).quiet rfl
    | false => exact ((adds_wait took).bail _).quiet rfl
  | flushConnect took ok closed streamId deadline here => exact ⟨[], flush_quiet _ _ _ _ _, .inl rfl⟩
  | flushPending took closed tunnel here => exact ⟨[], ((adds_wait took).at_stage _).quiet rfl, .inl rfl⟩
  | flushPendingFailed took closed tunnel here => exact ⟨[], ((adds_wait took).bail _).quiet rfl, .inl rfl⟩
  | certificate peerCert here => exact ⟨[], checkPin_quiet peerCert, .inl rfl⟩
  | requested http3 streamId here => exact ⟨[], sendRequest_quiet http3 streamId, .inl rfl⟩
  | polled answers streamId deadline here => exact ⟨[], readResponse_quiet _ _ _, .inl rfl⟩
  | announce streamId here => exact ⟨_, announce_publishes streamId, publishing (.inl ⟨streamId, here⟩)⟩
  | loopEnded a loop error here ended => exact ⟨[], (adds_stage _).quiet rfl, .inl rfl⟩
  | cleanUp error here => exact ⟨_, cleanUp_publishes error, publishing (.inr ⟨error, here⟩)⟩
  | probe tunnel took maxWritableLen tape here => exact ⟨[], sendProbe_quiet _ _ _ _, .inl rfl⟩
  | pending tunnel took maxWritableLen tape here => exact ⟨[], sendPending_quiet _ _ _ _, .inl rfl⟩
  | entered tunnel quicDeadline here => exact ⟨[], enterLoop_quiet _ _, .inl rfl⟩
  | pump a loop after label here moved => exact ⟨[], follow_quiet loop after, .inl rfl⟩

end Session

namespace Monitored

open DeviceState
open RunTunnel (openLaunch)

variable {spkiOf : Bytes → Option Bytes} {cfg : MasqueConfig} {mtu : ℕ}
  {reporterCfg : ReporterConfig} {s next : Monitored} {label : Label} {positions : List ℕ}

theorem announcing_of_stage {position : Session.Position} {streamId : Http3.StreamId}
    (there : position.stage = .announce streamId) : announcing (.session position) = true := by
  simp only [announcing, there]

theorem cleaning_of_stage {position : Session.Position} {error : Session.SessionError}
    (there : position.stage = .cleanup error) : cleaning (.session position) = true := by
  simp only [cleaning, there]

/-- Outside a session nothing is published. -/
theorem supervise_publishes {sup after : Supervisor} {input : Supervisor.Input}
    (stepped : Supervisor.step spkiOf cfg mtu sup input = some after) :
    ∃ states, sup.toWorld.Publishes after.toWorld states ∧
      (states = [] ∨ cfg.deviceState = true ∧
        (announcing sup.stage = true ∨ cleaning sup.stage = true)) := by
  have initialMtu (answers : NativeTun.TunAnswers) (onward : Supervisor → Supervisor)
      (keeps : ∀ s, (onward s).toWorld = s.toWorld) :
      sup.toWorld.Publishes (sup.applyInitialMtu cfg answers onward).toWorld [] := by
    rcases Supervisor.applyInitialMtu_cases cfg sup answers onward with ⟨-, moved⟩ | ⟨error, moved⟩
    · rw [moved, keeps]
      exact World.publishes_nothing (List.append_nil _).symm rfl rfl
    · rw [moved]
      exact World.publishes_nothing (List.append_nil _).symm rfl rfl
  cases Supervisor.step_called stepped with
  | prepare answers here => exact ⟨[], initialMtu answers _ fun _ => rfl, .inl rfl⟩
  | withdraw answers established here => exact ⟨[], initialMtu answers _ fun _ => rfl, .inl rfl⟩
  | received took packet here fits =>
    refine ⟨[], ?_, .inl rfl⟩
    unfold Supervisor.capture
    split
    · exact World.publishes_nothing (List.append_nil _).symm rfl rfl
    · split
      · exact World.publishes_nothing (List.append_nil _).symm rfl rfl
      · exact World.publishes_nothing rfl rfl rfl
  | connect here =>
    refine ⟨[], ?_, .inl rfl⟩
    unfold Supervisor.attempt
    split
    · exact World.publishes_nothing (List.append_nil _).symm rfl rfl
    · exact World.publishes_nothing rfl rfl rfl
  | finish position error here ended => exact ⟨[], World.publishes_nothing rfl rfl rfl, .inl rfl⟩
  | slept took here waited =>
    exact ⟨[], World.publishes_nothing (List.append_nil _).symm rfl rfl, .inl rfl⟩
  | session input position endpoint session here found moved =>
    obtain ⟨states, published, told⟩ := Session.step_publishes moved
    refine ⟨states, published, told.imp_right (And.imp_right fun calls => ?_)⟩
    rw [here]
    rcases calls with ⟨streamId, there⟩ | ⟨error, there⟩
    · exact .inl (announcing_of_stage there)
    · exact .inr (cleaning_of_stage there)

/-! ## What the reporter tells of it -/

/-- Every state the watched cell has had, from the one it is made with. -/
def statesSoFar (s : Monitored) : List ConnectionState := .disconnected :: publishedStates s.sup.log

/-- The payload is what the code builds for the state, at some time and on some host. -/
def Tells (reporterCfg : ReporterConfig) (report : Report) (state : ConnectionState) : Prop :=
  ∃ timestamp host,
    report.payload = buildPayload reporterCfg timestamp state (report.sample.map Prod.fst) host

/-- The cell's state is told, or it is the one the cell was made with. -/
def Current (reporterCfg : ReporterConfig) (s : Monitored) : Prop :=
  publishedStates s.sup.log = [] ∨
    ∃ report, s.reports.getLast? = some report ∧ Tells reporterCfg report s.sup.published

/-- The reports go forward through the states. Where no change is pending, the state of
the cell is in the reporter's hands or has been told. -/
structure Following (cfg : MasqueConfig) (reporterCfg : ReporterConfig) (s : Monitored)
    (positions : List ℕ) : Prop where
  current : (statesSoFar s).getLast? = some s.sup.published
  follows : Watch.Follows (Tells reporterCfg) (statesSoFar s) s.reports positions
  holding : ∀ state publishedIn, s.reporter = .holding state publishedIn →
    ∃ position, (statesSoFar s)[position]? = some state ∧
      (∀ earlier ∈ positions, earlier ≤ position) ∧
      (s.unseen = false → position = (statesSoFar s).length - 1)
  told : (∀ state publishedIn, s.reporter ≠ .holding state publishedIn) → s.unseen = false →
    publishedStates s.sup.log = [] ∨ positions.getLast? = some ((statesSoFar s).length - 1)
  pending : s.unseen = true → cfg.deviceState = true

/-- The cell holds the last of its states. -/
theorem Following.reads (following : Following cfg reporterCfg s positions) :
    (statesSoFar s)[(statesSoFar s).length - 1]? = some s.sup.published ∧
      ∀ earlier ∈ positions, earlier ≤ (statesSoFar s).length - 1 :=
  ⟨List.getLast?_eq_getElem? ▸ following.current,
    fun earlier member => Nat.le_sub_one_of_lt (following.follows.known earlier member)⟩

/-- The reporter takes the state along, with or without marking the change as seen. -/
theorem Following.read (following : Following cfg reporterCfg s positions) (unseen : Bool)
    (mark : unseen = true → s.unseen = true) :
    Following cfg reporterCfg
      { s with reporter := .holding s.sup.published s.publishedIn, unseen := unseen } positions := by
  refine ⟨following.current, following.follows, ?_, ?_, fun still => following.pending (mark still)⟩
  · intro state publishedIn resting
    cases resting
    obtain ⟨here, ahead⟩ := following.reads
    exact ⟨_, here, ahead, fun _ => rfl⟩
  · intro idle
    exact absurd rfl (idle _ _)

/-- A state that is published leaves its change pending. -/
theorem Following.published (following : Following cfg reporterCfg s positions)
    {after : Supervisor} {states : List ConnectionState}
    (published : s.sup.toWorld.Publishes after.toWorld states)
    (calls : states = [] ∨ cfg.deviceState = true ∧
      (announcing s.sup.stage = true ∨ cleaning s.sup.stage = true))
    (sample : Option TunnelMetrics) :
    Following cfg reporterCfg (s.follow cfg after sample) positions := by
  have history : statesSoFar (s.follow cfg after sample) = statesSoFar s ++ states := by
    show ConnectionState.disconnected :: publishedStates after.log = _
    rw [published.log]
    rfl
  have missed (seen : (s.follow cfg after sample).unseen = false) : s.unseen = false ∧ states = [] := by
    simp only [follow, Bool.or_eq_false_iff] at seen
    obtain ⟨⟨before, quiet⟩, clean⟩ := seen
    refine ⟨before, calls.resolve_right fun told => ?_⟩
    obtain ⟨reports, stage⟩ := told
    rw [reports, Bool.true_and] at quiet clean
    rcases stage with announces | cleans
    · rw [announces] at quiet
      cases quiet
    · rw [cleans] at clean
      cases clean
  refine ⟨?_, ?_, ?_, ?_, ?_⟩
  · rw [history, List.getLast?_append, following.current]
    show _ = some after.published
    rw [published.current]
    cases states.getLast? <;> rfl
  · rw [history]
    exact following.follows.written states
  · intro state publishedIn resting
    obtain ⟨position, found, ahead, newest⟩ := following.holding state publishedIn resting
    refine ⟨position, ?_, ahead, fun seen => ?_⟩
    · rw [history, List.getElem?_append_left (List.getElem?_eq_some_iff.mp found).1]
      exact found
    · obtain ⟨before, none⟩ := missed seen
      rw [history, none, List.append_nil]
      exact newest before
  · intro idle seen
    obtain ⟨before, none⟩ := missed seen
    rw [history, none, List.append_nil]
    refine (following.told idle before).imp_left fun untold => ?_
    show publishedStates after.log = []
    rw [published.log, untold, none]
    rfl
  · intro unseen
    cases reports : cfg.deviceState with
    | true => rfl
    | false =>
      simp only [follow, reports, Bool.false_and, Bool.or_false] at unseen
      exact reports ▸ following.pending unseen

/-- Every step of either task keeps the reports behind the states, adding the position of
a report that is built. -/
theorem step_following (following : Following cfg reporterCfg s positions)
    (stepped : step spkiOf cfg mtu reporterCfg s label = some next) :
    ∃ positions, Following cfg reporterCfg next positions := by
  cases label with
  | supervise input sample =>
    simp only [step] at stepped
    split at stepped
    · cases stepped
    · obtain ⟨after, moved, rfl⟩ := Option.map_eq_some_iff.mp stepped
      obtain ⟨states, published, calls⟩ := supervise_publishes moved
      exact ⟨positions, following.published published calls sample⟩
  | clearMetrics =>
    simp only [step] at stepped
    split at stepped <;> cases stepped
    exact ⟨positions, following.current, following.follows, following.holding, following.told,
      following.pending⟩
  | tick =>
    simp only [step] at stepped
    split at stepped <;> cases stepped
    exact ⟨positions, following.read s.unseen id⟩
  | changed =>
    simp only [step] at stepped
    split at stepped <;> cases stepped
    exact ⟨positions, following.read false fun marked => absurd marked Bool.false_ne_true⟩
  | collect timestamp host =>
    simp only [step] at stepped
    split at stepped <;> cases stepped
    rename_i state publishedIn resting
    obtain ⟨position, found, ahead, newest⟩ := following.holding state publishedIn resting
    refine ⟨positions ++ [position], following.current,
      following.follows.reported ahead found ⟨timestamp, host, rfl⟩, ?_, ?_, following.pending⟩
    · intro state publishedIn holding
      cases holding
    · intro _ seen
      rw [List.getLast?_append, List.getLast?_singleton, newest seen]
      exact .inr rfl
  | sent =>
    simp only [step] at stepped
    split at stepped <;> cases stepped
    rename_i sending
    refine ⟨positions, following.current, following.follows, ?_, fun _ => ?_, following.pending⟩
    · intro state publishedIn holding
      cases holding
    · refine following.told fun state publishedIn resting => ?_
      rw [sending] at resting
      cases resting

theorem start_following (dev : NativeTun.TunRsDevice) (now : Instant) :
    Following cfg reporterCfg (start dev now) [] := by
  refine ⟨rfl, .nil, fun state publishedIn resting => ?_, fun _ _ => .inl rfl, fun unseen => ?_⟩
  · cases resting
  · cases unseen

/-- With the reporter at rest and no change pending, the last report is up to date. -/
theorem Following.settled (following : Following cfg reporterCfg s positions)
    (seen : s.unseen = false) (resting : s.reporter = .waiting) : Current reporterCfg s := by
  have idle : ∀ state publishedIn, s.reporter ≠ .holding state publishedIn := by
    intro state publishedIn holding
    cases resting.symm.trans holding
  exact (following.told idle seen).imp_right fun reached => following.follows.last following.current reached

/-! ## The reporter on its own -/

/-- The reporter's steps, less the interval's. -/
def reporting : Label → Bool
  | .changed | .collect _ _ | .sent => true
  | .supervise _ _ | .clearMetrics | .tick => false

/-- How many steps the reporter has ahead of it. -/
def work (s : Monitored) : ℕ :=
  (match s.reporter with
    | .waiting => 0
    | .holding _ _ => 2
    | .sending => 1) + if s.unseen then 3 else 0

theorem work_le (s : Monitored) : work s ≤ 5 := by
  unfold work
  split <;> split <;> omega

theorem reporting_step (reports : reporting label = true)
    (stepped : step spkiOf cfg mtu reporterCfg s label = some next) :
    next.sup = s.sup ∧ work next + 1 = work s := by
  cases label with
  | supervise | clearMetrics | tick => cases reports
  | changed =>
    simp only [step] at stepped
    split at stepped <;> cases stepped
    rename_i ready
    simp only [Bool.and_eq_true, beq_iff_eq] at ready
    obtain ⟨⟨-, resting⟩, unseen⟩ := ready
    exact ⟨rfl, by simp [work, resting, unseen]⟩
  | collect timestamp host =>
    simp only [step] at stepped
    split at stepped <;> cases stepped
    rename_i state publishedIn resting
    exact ⟨rfl, by simp only [work, resting]; omega⟩
  | sent =>
    simp only [step] at stepped
    split at stepped <;> cases stepped
    rename_i sending
    exact ⟨rfl, by simp only [work, sending]; omega⟩

theorem reporting_run {labels : List Label} (reports : ∀ label ∈ labels, reporting label = true)
    (ran : Transition.run (step spkiOf cfg mtu reporterCfg) s labels = some next) :
    next.sup = s.sup ∧ work next + labels.length = work s := by
  induction labels generalizing s with
  | nil =>
    cases ran
    exact ⟨rfl, rfl⟩
  | cons label rest ih =>
    obtain ⟨middle, stepped, ranRest⟩ := Transition.run_cons_iff.mp ran
    obtain ⟨same, less⟩ := reporting_step (reports label List.mem_cons_self) stepped
    obtain ⟨sameRest, lessRest⟩ :=
      ih (fun label member => reports label (List.mem_cons_of_mem _ member)) ranRest
    refine ⟨sameRest.trans same, ?_⟩
    rw [List.length_cons]
    omega

/-- The reporter goes on until the last report is up to date. -/
theorem Following.current_or_reporting (spkiOf : Bytes → Option Bytes) (mtu : ℕ)
    (following : Following cfg reporterCfg s positions) :
    Current reporterCfg s ∨ ∃ label next, reporting label = true ∧
      step spkiOf cfg mtu reporterCfg s label = some next := by
  have onward (label : Label) (reports : reporting label = true)
      (enabled : (step spkiOf cfg mtu reporterCfg s label).isSome = true) :
      ∃ label next, reporting label = true ∧ step spkiOf cfg mtu reporterCfg s label = some next :=
    ⟨label, _, reports, (Option.some_get enabled).symm⟩
  cases resting : s.reporter with
  | waiting =>
    cases seen : s.unseen with
    | false => exact .inl (following.settled seen resting)
    | true =>
      exact .inr (onward .changed rfl (by simp [step, following.pending seen, resting, seen]))
  | holding state publishedIn =>
    exact .inr (onward (.collect "" {}) rfl (by simp [step, resting]))
  | sending => exact .inr (onward .sent rfl (by simp [step, resting]))

/-- Over every interleaving the reports tell the session's states in their order. Whenever
the session pauses, the reporter comes to rest within five steps of its own, and where it
rests the last report tells the state the session has reached. -/
theorem reports_follow_session (spkiOf : Bytes → Option Bytes) (cfg : MasqueConfig) (mtu : ℕ)
    (reporterCfg : ReporterConfig) (dev : NativeTun.TunRsDevice) (now : Instant)
    (labels : List Label) (finish : Monitored)
    (ran : Transition.run (step spkiOf cfg mtu reporterCfg) (start dev now) labels =
      some finish) :
    (∃ positions,
      Watch.Follows (Tells reporterCfg) (statesSoFar finish) finish.reports positions) ∧
    ∀ own rest, (∀ label ∈ own, reporting label = true) →
      Transition.run (step spkiOf cfg mtu reporterCfg) finish own = some rest →
      own.length ≤ 5 ∧ rest.sup = finish.sup ∧
        (Current reporterCfg rest ∨ ∃ label next, reporting label = true ∧
          step spkiOf cfg mtu reporterCfg rest label = some next) := by
  have kept (s : Monitored) (label : Label) (next : Monitored)
      (inv : ∃ positions, Following cfg reporterCfg s positions)
      (stepped : step spkiOf cfg mtu reporterCfg s label = some next) :
      ∃ positions, Following cfg reporterCfg next positions :=
    inv.elim fun _ following => step_following following stepped
  have reached := Transition.run_preserves _ kept ⟨[], start_following dev now⟩ ran
  refine ⟨reached.imp fun _ following => following.follows, fun own rest reports ranOwn => ?_⟩
  obtain ⟨same, ahead⟩ := reporting_run reports ranOwn
  have bound := work_le finish
  obtain ⟨positions, following⟩ := Transition.run_preserves _ kept reached ranOwn
  exact ⟨by omega, same, following.current_or_reporting spkiOf mtu⟩

/-- The session connects while the reporter still sends its first report, and the reporter
makes up for it. -/
theorem reports_follow_session_small :
    ∃ finish, statesSoFar finish = [.disconnected, .connected 0] ∧ finish.reports.length = 1 ∧
      ∃ rest, rest.sup = finish.sup ∧ rest.reports.length = 2 ∧
        Current smallReporter rest := by
  have ran : (Transition.run (step (fun _ => none) openLaunch.cfg openLaunch.mtu smallReporter)
      (start openLaunch.dev 0) ([.tick, .collect "now" {}] ++
        serveInputs.map (Label.supervise · none))).any (fun s =>
        decide (statesSoFar s = [.disconnected, .connected 0]) && decide (s.reports.length = 1) &&
        (Transition.run (step (fun _ => none) openLaunch.cfg openLaunch.mtu smallReporter) s
          [.sent, .changed, .collect "now" {}, .sent]).any fun rest =>
            decide (rest.reports.length = 2) && decide (work rest = 0)) = true := by
    decide
  obtain ⟨finish, finished, found⟩ := Option.any_eq_true _ _ |>.mp ran
  simp only [Bool.and_eq_true, decide_eq_true_eq] at found
  obtain ⟨⟨states, first⟩, later⟩ := found
  obtain ⟨rest, ranOwn, made⟩ := Option.any_eq_true _ _ |>.mp later
  simp only [Bool.and_eq_true, decide_eq_true_eq] at made
  obtain ⟨-, onward⟩ := reports_follow_session _ _ _ _ _ _ _ finish finished
  obtain ⟨-, same, current | ⟨label, next, reports, stepped⟩⟩ := onward _ rest (by decide) ranOwn
  · exact ⟨finish, states, first, rest, same, made.1, current⟩
  · have less := (reporting_step reports stepped).2
    omega

end Monitored
end Usque
