import Mathlib.Tactic.Ring
import Usque.Lib.Transition
import Usque.SupervisorSteps

/-! How long an attempt may take to establish its session. The deadline of
`wait_connect_response` is tested at the head of its loop only, and
`complete_quic_handshake` has none: it goes on until quiche reports the connection
established or closed. A bound therefore rests on the pace of the peer and of
quiche. -/
namespace Usque

namespace Session

open Handshake

/-- The pace of an environment. -/
structure Pace where
  /-- The longest call. -/
  each : Duration
  /-- The latest datagram of the handshake, counted from the attempt's start. -/
  lastHeard : Duration
  /-- The longest silence after which the handshake's connection is still open. -/
  silence : Duration
  deriving DecidableEq

/-- The deadline, and the calls that can run past one of its tests. -/
def Pace.bound (pace : Pace) : Duration :=
  pace.lastHeard + pace.silence + 4 * pace.each + seconds 10

/-- The step keeps to the pace. A call that fails may take any time, and a flush that finds the
connection closed is bound by the longest call alone. -/
def Paced (pace : Pace) (s : Session) : Input → Prop
  | .setUp took true => took ≤ pace.each
  | .pass _ (.received waited) =>
    waited ≤ pace.each ∧ (s.stage = .handshake → s.now + waited ≤ s.started + pace.lastHeard)
  | .pass _ (.slept waited) => waited ≤ pace.each
  | .flushed took true closed =>
    took ≤ pace.each ∧
      (s.stage = .flushHandshake → closed = false → s.now + took ≤ s.heard + pace.silence)
  | _ => True

instance (pace : Pace) (s : Session) (input : Input) : Decidable (Paced pace s input) := by
  unfold Paced
  split <;> infer_instance

/-- quiche's idle timeout: a connection stays open only while its peer has been
silent for less, or without limit where the timeout is zero. -/
def IdleTimeout (idle : Duration) (s : Session) : Input → Prop
  | .flushed took _ false => idle = 0 ∨ s.now + took < s.heard + idle
  | _ => True

instance (idle : Duration) (s : Session) (input : Input) :
    Decidable (IdleTimeout idle s input) := by
  unfold IdleTimeout
  split <;> infer_instance

/-- How late each call before the CONNECT response can be. -/
def Timely (pace : Pace) (s : Session) : Prop :=
  match s.stage with
  | .setup => s.now = s.started ∧ s.heard = s.started
  | .handshake =>
    s.heard ≤ s.started + (pace.lastHeard + pace.each) ∧ s.now ≤ s.heard + pace.silence
  | .flushHandshake =>
    s.heard ≤ s.started + (pace.lastHeard + pace.each) ∧ s.now ≤ s.heard + (pace.silence + pace.each)
  | .verify | .request | .flushRequest _ =>
    s.now ≤ s.started + (pace.lastHeard + pace.silence + pace.each)
  | .connect _ deadline =>
    deadline + 2 * pace.each ≤ s.started + pace.bound ∧ s.now ≤ deadline + 2 * pace.each
  | .pollConnect _ deadline | .flushConnect _ deadline =>
    deadline + 2 * pace.each ≤ s.started + pace.bound ∧ s.now ≤ deadline + pace.each
  | .announce _ => s.now ≤ s.started + pace.bound
  | _ => True

instance (p : Phase) : Decidable p.Early := inferInstanceAs (Decidable (_ ∨ _))

section Steps

variable {spkiOf : Bytes → Option Bytes} {cfg : MasqueConfig} {endpoint : MasqueEndpoint}
  {mtu : ℕ} {pace : Pace} {s next : Session} {input : Input}

theorem start_timely (now : Instant) (world : World) :
    Timely pace ⟨.start now, { world with now := now }⟩ := ⟨rfl, rfl⟩

private theorem bound_total (pace : Pace) : (pace.bound : ℤ) =
    pace.lastHeard + pace.silence + 4 * pace.each + seconds 10 := by
  simp [Pace.bound]

/-- A timely attempt is within the bound until it announces its session. -/
theorem timely_bound (timely : Timely pace s) (early : (phase s.stage).Early) :
    s.now ≤ s.started + pace.bound := by
  have total := bound_total pace
  cases here : s.stage with
  | setup | handshake | flushHandshake | verify | request | flushRequest _ | connect _ _
  | pollConnect _ _ | flushConnect _ _ | announce _ =>
    simp only [Timely, here] at timely
    unfold Instant at *
    omega
  | probe _ | pending _ | flushPending _ | enter _ | pump _ _ | cleanup _ | returned _ =>
    simp [Phase.Early, phase, here] at early

/-- Behind the CONNECT response nothing is asked of the clock. -/
private theorem timely_late (late : ¬ (phase s.stage).Early) : Timely pace s := by
  cases here : s.stage with
  | setup | handshake | flushHandshake | verify | request | flushRequest _ | connect _ _
  | pollConnect _ _ | flushConnect _ _ | announce _ => simp [Phase.Early, phase, here] at late
  | probe _ | pending _ | flushPending _ | enter _ | pump _ _ | cleanup _ | returned _ =>
    simp only [Timely, here]

theorem bail_timely (error : SessionError) : Timely pace (s.bail error) := trivial

/-- A pass of the handshake's loop. -/
private theorem handshake_pass_timely {timeout : Option Duration} {arrival : Arrival}
    (here : s.stage = .handshake) (timely : Timely pace s)
    (paced : Paced pace s (.pass timeout arrival)) :
    Timely pace (s.await arrival .flushHandshake) := by
  simp only [Timely, here] at timely
  cases arrival with
  | received waited =>
    obtain ⟨-, early⟩ := paced
    have early := early here
    simp only [await, wait, Timely, Arrival.waited]
    unfold Instant at *
    constructor <;> omega
  | failed waited => exact bail_timely _
  | slept waited =>
    have short : waited ≤ pace.each := paced
    simp only [await, wait, Timely, Arrival.waited]
    unfold Instant Duration at *
    constructor <;> omega

/-- A pass of the loop of `wait_connect_response`, within its deadline. -/
private theorem connect_pass_timely {timeout : Option Duration} {arrival : Arrival}
    {streamId : Http3.StreamId} {deadline : Instant} (ahead : s.now < deadline)
    (bounded : deadline + 2 * pace.each ≤ s.started + pace.bound)
    (paced : Paced pace s (.pass timeout arrival)) :
    Timely pace (s.await arrival (.pollConnect streamId deadline)) := by
  cases arrival with
  | received waited =>
    have short : waited ≤ pace.each := paced.1
    simp only [await, wait, Timely, Arrival.waited]
    refine ⟨bounded, ?_⟩
    unfold Instant Duration at *
    omega
  | failed waited => exact bail_timely _
  | slept waited =>
    have short : waited ≤ pace.each := paced
    simp only [await, wait, Timely, Arrival.waited]
    refine ⟨bounded, ?_⟩
    unfold Instant Duration at *
    omega

theorem flush_timely {took : Duration} {ok closed : Bool} {whenClosed : SessionError}
    {onward : Stage} (goes : ok = true → closed = false →
      Timely pace { s.wait took with stage := onward }) :
    Timely pace (s.flush took ok closed whenClosed onward) := by
  unfold flush
  cases ok with
  | false => exact bail_timely _
  | true =>
    cases closed with
    | false => exact goes rfl rfl
    | true => exact bail_timely _

private theorem awaitResponse_timely {took : Duration} {ok closed : Bool} {streamId : Http3.StreamId}
    (timely : s.now ≤ s.started + (pace.lastHeard + pace.silence + pace.each))
    (paced : Paced pace s (.flushed took ok closed)) :
    Timely pace (s.awaitResponse took ok streamId) := by
  have total := bound_total pace
  cases ok with
  | false => exact bail_timely _
  | true =>
    have short : took ≤ pace.each := paced.1
    simp only [awaitResponse, wait, Timely, if_true]
    unfold Instant Duration at *
    constructor <;> omega

private theorem checkPin_timely {peerCert : Option Bytes}
    (timely : s.now ≤ s.started + (pace.lastHeard + pace.silence + pace.each)) :
    Timely pace (s.checkPin spkiOf cfg endpoint peerCert) := by
  unfold checkPin
  split
  · exact timely
  · split
    · exact bail_timely _
    · split
      · exact timely
      · exact bail_timely _

private theorem sendRequest_timely {http3 : Bool} {streamId : Option Http3.StreamId}
    (timely : s.now ≤ s.started + (pace.lastHeard + pace.silence + pace.each)) :
    Timely pace (s.sendRequest http3 streamId) := by
  unfold sendRequest
  split
  · exact bail_timely _
  · split
    · exact bail_timely _
    · exact timely

private theorem readResponse_timely {answers : List Http3.PollAnswer} {streamId : Http3.StreamId}
    {deadline : Instant} (bounded : deadline + 2 * pace.each ≤ s.started + pace.bound)
    (timely : s.now ≤ deadline + pace.each) :
    Timely pace (s.readResponse answers streamId deadline) := by
  unfold readResponse
  split
  · exact bail_timely _
  · simp only [Timely]
    unfold Instant at *
    omega
  · exact ⟨bounded, timely⟩

private theorem announce_timely (streamId : Http3.StreamId) :
    Timely pace (s.announce cfg streamId) := by
  unfold announce
  dsimp only
  split <;> trivial

/-- There is no way back before the CONNECT response. -/
private theorem step_late (late : ¬ (phase s.stage).Early)
    (stepped : step spkiOf cfg endpoint mtu s input = some next) : ¬ (phase next.stage).Early := by
  rcases step_moved stepped with ⟨-, moved⟩ | ⟨-, abandoned⟩
  · cases moved with
    | within adds same outside => rwa [same]
    | failed adds early ends => exact absurd early late
    | unchecked adds insecure before after => simp [before, Phase.Early] at late
    | accepted cert valid adds before after => simp [before, Phase.Early] at late
    | requested adds before after => simp [before, Phase.Early] at late
    | announced latency before after => simp [before, Phase.Early] at late
    | probed dgrams adds before after => simp [after, Phase.Early]
    | unneeded adds idle before after outside => simp [after, Phase.Early]
    | handed packet dgrams held once before after => simp [after, Phase.Early]
    | entered tunnel loop adds before there device => simp [there, phase, Phase.Early]
    | pumped a loop after label here moves same => simp [same, follow, emit, phase, Phase.Early]
    | cleaned before after => simp [after, Phase.Early]
  · cases abandoned with
    | sending packet dgrams held once before after => simp [after, Phase.Early]
    | flushing adds before after => simp [after, Phase.Early]

private theorem setUp_timely {took : Duration} (here : s.stage = .setup)
    (timely : Timely pace s) (paced : Paced pace s (.setUp took true)) :
    Timely pace { s.wait took with stage := .handshake, heard := (s.wait took).now } := by
  have short : took ≤ pace.each := paced
  simp only [Timely, here] at timely
  simp only [wait, Timely]
  unfold Instant Duration at *
  constructor <;> omega

/-- A step of a timely attempt at the right pace leaves it timely. -/
theorem step_timely (timely : Timely pace s)
    (paced : (phase s.stage).Early → Paced pace s input)
    (stepped : step spkiOf cfg endpoint mtu s input = some next) : Timely pace next := by
  by_cases early : (phase s.stage).Early
  · have paced := paced early
    cases step_called stepped with
    | setUp took here => exact setUp_timely here timely paced
    | setUpFailed took here => exact bail_timely _
    | established here =>
      simp only [Timely, here] at timely
      simp only [Timely]
      unfold Instant at *
      omega
    | handshakePass timeout arrival here => exact handshake_pass_timely here timely paced
    | connectPass timeout arrival streamId deadline here ahead =>
      simp only [Timely, here] at timely
      exact connect_pass_timely ahead timely.1 paced
    | connectTimeout timeout arrival streamId deadline here passed => exact bail_timely _
    | flushHandshake took ok closed here =>
      apply flush_timely
      intro went stays
      subst went stays
      obtain ⟨-, quiet⟩ := paced
      simp only [Timely, here] at timely
      exact ⟨timely.1, quiet here rfl⟩
    | flushRequest took ok closed streamId here =>
      simp only [Timely, here] at timely
      exact awaitResponse_timely timely paced
    | flushConnect took ok closed streamId deadline here =>
      apply flush_timely
      intro went stays
      subst went stays
      have short : took ≤ pace.each := paced.1
      simp only [Timely, here] at timely
      simp only [wait, Timely]
      refine ⟨timely.1, ?_⟩
      unfold Instant Duration at *
      omega
    | certificate peerCert here =>
      simp only [Timely, here] at timely
      exact checkPin_timely timely
    | requested http3 streamId here =>
      simp only [Timely, here] at timely
      exact sendRequest_timely timely
    | polled answers streamId deadline here =>
      simp only [Timely, here] at timely
      exact readResponse_timely timely.1 timely.2
    | announce streamId here => exact announce_timely _
    | flushPending _ _ _ here | flushPendingFailed _ _ _ here | loopEnded _ _ _ here _
    | cleanUp _ here | probe _ _ _ _ here | pending _ _ _ _ here | entered _ _ here
    | pump _ _ _ _ here _ => simp [Phase.Early, phase, here] at early
  · exact timely_late (step_late early stepped)

end Steps

/-- In one of the two wait loops. -/
def waiting : Stage → Bool
  | .handshake | .flushHandshake | .connect _ _ | .pollConnect _ _ | .flushConnect _ _ => true
  | _ => false

private theorem waiting_early {stage : Stage} (waits : waiting stage = true) :
    (phase stage).Early := by
  cases stage <;> simp_all [waiting, phase, Phase.Early]

end Session

namespace Supervisor

open RunTunnel (openLaunch smallLaunch)

/-- An attempt that establishes its session keeps to the pace. -/
def Paced (pace : Session.Pace) (s : Supervisor) (input : Input) : Prop :=
  match s.stage, input with
  | .session position, .session input =>
    (Session.phase position.stage).Early → Session.Paced pace ⟨position, s.toWorld⟩ input
  | _, _ => True

instance (pace : Session.Pace) (s : Supervisor) (input : Input) : Decidable (Paced pace s input) := by
  unfold Paced
  split <;> infer_instance

/-- quiche keeps to its idle timeout. -/
def IdleTimeout (idle : Duration) (s : Supervisor) (input : Input) : Prop :=
  match s.stage, input with
  | .session position, .session input => Session.IdleTimeout idle ⟨position, s.toWorld⟩ input
  | _, _ => True

instance (idle : Duration) (s : Supervisor) (input : Input) :
    Decidable (IdleTimeout idle s input) := by
  unfold IdleTimeout
  split <;> infer_instance

section Runs

variable {spkiOf : Bytes → Option Bytes} {cfg : MasqueConfig} {mtu : ℕ} {pace : Session.Pace}
  {s next : Supervisor} {input : Input}

def Timely (pace : Session.Pace) (s : Supervisor) : Prop :=
  ∀ position, s.stage = .session position → Session.Timely pace ⟨position, s.toWorld⟩

private theorem timely_outside (outside : inSession s.stage = false) : Timely pace s := by
  intro position here
  exact absurd here (not_session outside position)

private theorem applyInitialMtu_timely {onward : Supervisor → Supervisor}
    (outside : ∀ s, inSession (onward s).stage = false) (answers : NativeTun.TunAnswers) :
    Timely pace (s.applyInitialMtu cfg answers onward) := by
  obtain ⟨-, shape⟩ | ⟨error, shape⟩ := applyInitialMtu_cases cfg s answers onward <;> rw [shape]
  · exact timely_outside (outside _)
  · exact timely_outside rfl

theorem step_timely (timely : Timely pace s) (paced : Paced pace s input)
    (stepped : step spkiOf cfg mtu s input = some next) : Timely pace next := by
  cases step_called stepped with
  | prepare answers here =>
    apply applyInitialMtu_timely
    intro s
    obtain ⟨-, shape⟩ | ⟨-, shape⟩ := prepared_cases cfg s <;> rw [shape] <;> rfl
  | withdraw answers established here =>
    apply applyInitialMtu_timely
    intro s
    rfl
  | received took packet here fits =>
    apply timely_outside
    unfold capture
    split
    · rfl
    · split <;> rfl
  | connect here =>
    unfold attempt
    split
    · exact timely_outside rfl
    · intro position at_start
      cases at_start
      have first : Session.Timely pace ⟨.start s.now, s.toWorld⟩ := Session.start_timely s.now s.toWorld
      exact first
  | finish position error here ended => exact timely_outside rfl
  | session input position endpoint after here found moved =>
    have inside : (Session.phase position.stage).Early →
        Session.Paced pace ⟨position, s.toWorld⟩ input := by
      simpa only [Paced, here] using paced
    have kept := Session.step_timely (timely position here) inside moved
    intro other same
    cases same
    exact kept
  | slept took here waited => exact timely_outside rfl

/-- In every run at some pace, both wait loops keep within a bound that depends on
the pace alone. -/
theorem establishment_bounded (spkiOf : Bytes → Option Bytes) (cfg : MasqueConfig) (mtu : ℕ)
    (dev : NativeTun.TunRsDevice) (now : Instant) (pace : Session.Pace) (inputs : List Input)
    (finish : Supervisor) (position : Session.Position)
    (ran : Transition.run (step spkiOf cfg mtu) (start dev now) inputs = some finish)
    (paced : Transition.Along (step spkiOf cfg mtu) (Paced pace) (start dev now) inputs)
    (here : finish.stage = .session position) (waits : Session.waiting position.stage = true) :
    finish.now ≤ position.started + pace.bound := by
  have timely : Timely pace finish := Transition.run_preserves_along (Timely pace)
    (fun _ _ _ timely paced stepped => step_timely timely paced stepped)
    (timely_outside rfl) paced ran
  exact Session.timely_bound (timely position here) (Session.waiting_early waits)

end Runs

/-- On demand, a handshake of one pass, up to the CONNECT response. -/
private def briefInputs : List Input :=
  wakeInputs ++ [.session (.setUp 0 true), .session (.pass none (.slept (milliseconds 100))),
    .session (.flushed 0 true false), .session .established, .session (.certificate none),
    .session (.requested true (some 0)), .session (.flushed 0 true false)]

private def waitsInSession (s : Supervisor) : Bool :=
  match s.stage with
  | .session position => Session.waiting position.stage
  | _ => false

/-- A handshake of one pass, up to the wait for the CONNECT response. -/
theorem establishment_bounded_small :
    ∃ finish : Supervisor, ∃ position, finish.stage = .session position ∧
      finish.now ≤ position.started + (⟨milliseconds 100, 0, milliseconds 100⟩ : Session.Pace).bound := by
  have ran : (Transition.run (step (fun _ => none) openLaunch.cfg openLaunch.mtu)
      (start openLaunch.dev 0) briefInputs).any waitsInSession = true := by decide
  have paced : Transition.Along (step (fun _ => none) openLaunch.cfg openLaunch.mtu)
      (Paced ⟨milliseconds 100, 0, milliseconds 100⟩) (start openLaunch.dev 0) briefInputs := by
    decide
  obtain ⟨finish, finished, found⟩ := Option.any_eq_true _ _ |>.mp ran
  unfold waitsInSession at found
  cases here : finish.stage with
  | session position =>
    rw [here] at found
    exact ⟨finish, position, here,
      establishment_bounded _ _ _ _ _ _ _ finish position finished paced here found⟩
  | prepare | wait | connect | withdraw _ | delay | returned _ =>
    rw [here] at found
    cases found

/-! ## A peer that never answers -/

/-- At the head of the handshake's loop. -/
private def handshaking : Supervisor where
  now := 0
  device := smallLaunch.dev
  pending := some DataLoop.smallPacket
  published := .disconnected
  moments := [⟨smallLaunch.dev, true⟩]
  log := [.captured DataLoop.smallPacket,
    .attempted 0 ⟨⟨.v4 ⟨0xc0000201⟩, 443⟩, "", [1, 2, 3]⟩]
  stage := .session ⟨.handshake, 0, 0, false⟩
  endpointIndex := 0

/-- Passes of the handshake's loop that hear nothing. -/
private def silentRounds : ℕ → List Input
  | 0 => []
  | rounds + 1 => .session (.pass none (.slept (milliseconds 100))) ::
      .session (.flushed 0 true false) :: silentRounds rounds

/-- With no idle timeout the handshake outlasts any number of silent passes. -/
private theorem silent_run (spkiOf : Bytes → Option Bytes) (cfg : MasqueConfig) (mtu : ℕ)
    {s : Supervisor} {position : Session.Position} {endpoint : MasqueEndpoint} (rounds : ℕ)
    (here : s.stage = .session position) (waits : position.stage = .handshake)
    (found : cfg.endpoints[s.endpointIndex]? = some endpoint) :
    (∃ finish, Transition.run (step spkiOf cfg mtu) s (silentRounds rounds) = some finish ∧
      finish.stage = .session position ∧ finish.now = s.now + (rounds * milliseconds 100 : ℕ)) ∧
    Transition.Along (step spkiOf cfg mtu) (IdleTimeout 0) s (silentRounds rounds) := by
  induction rounds generalizing s with
  | zero => exact ⟨⟨s, rfl, here, by simp⟩, trivial⟩
  | succ rounds ih =>
    have slept : step spkiOf cfg mtu s (.session (.pass none (.slept (milliseconds 100)))) =
        some { s with
          now := s.now + milliseconds 100
          stage := .session { position with stage := .flushHandshake } } := by
      simp [step, here, found, Session.step, waits, Session.await, Session.wait, adopt,
        Handshake.Arrival.Possible, Handshake.waitTimeout, Handshake.Arrival.waited]
    have flushed : step spkiOf cfg mtu { s with
          now := s.now + milliseconds 100
          stage := .session { position with stage := .flushHandshake } }
        (.session (.flushed 0 true false)) =
        some { s with now := s.now + milliseconds 100, stage := .session position } := by
      simp [step, found, Session.step, Session.flush, Session.wait, adopt, ← waits]
    obtain ⟨⟨finish, ran, there, later⟩, along⟩ :=
      ih (s := { s with now := s.now + milliseconds 100, stage := .session position }) rfl found
    refine ⟨⟨finish, ?_, there, ?_⟩, ?_⟩
    · simp only [silentRounds, Transition.run, slept, flushed, Option.bind_some, ran]
    · rw [later]
      push_cast
      ring
    · simp only [silentRounds, Transition.Along, slept, flushed, Option.some.injEq, forall_eq']
      refine ⟨?_, ?_, along⟩
      · simp [IdleTimeout, here, Session.IdleTimeout]
      · simp [IdleTimeout, Session.IdleTimeout]

/-- An accepted client whose peer never answers stays in the handshake longer than
any bound, and quiche has kept to its idle timeout. -/
theorem silent_peer_outlasts_every_bound :
    ¬ ∃ bound : Duration, ∀ spkiOf answers appCfg args role probeTarget idle launch now inputs s
        position,
      RunTunnel.runTunnel answers appCfg args role probeTarget idle = .ok launch →
      Transition.run (step spkiOf launch.cfg launch.mtu) (start launch.dev now) inputs = some s →
      Transition.Along (step spkiOf launch.cfg launch.mtu)
        (IdleTimeout launch.cfg.quic.maxIdleTimeout) (start launch.dev now) inputs →
      s.stage = .session position → Session.waiting position.stage = true →
      s.now ≤ position.started + bound := by
  rintro ⟨bound, bounded⟩
  have opened : Transition.run (step (fun _ => none) smallLaunch.cfg smallLaunch.mtu)
      (start smallLaunch.dev 0) (wakeInputs ++ [.session (.setUp 0 true)]) = some handshaking := by
    decide
  have honoured : Transition.Along (step (fun _ => none) smallLaunch.cfg smallLaunch.mtu)
      (IdleTimeout smallLaunch.cfg.quic.maxIdleTimeout) (start smallLaunch.dev 0)
      (wakeInputs ++ [.session (.setUp 0 true)]) := by decide
  obtain ⟨⟨finish, ran, there, later⟩, along⟩ := silent_run (fun _ => none) smallLaunch.cfg
    smallLaunch.mtu (s := handshaking) (bound + 1) rfl rfl rfl
  have late := bounded _ _ _ _ _ _ _ _ _ _ finish _ RunTunnel.smallLaunch_started
    (Transition.run_append_iff.mpr ⟨_, opened, ran⟩)
    ((Transition.along_append_iff opened).mpr ⟨honoured, along⟩) there rfl
  rw [later] at late
  simp only [handshaking, milliseconds] at late
  unfold Instant at late
  push_cast at late
  omega

end Supervisor
end Usque
