import Usque.Lib.Transition
import Usque.SessionSteps
import Usque.Supervisor

/-! What one step of the supervisor can do: one of its own seven calls, or one
step of the session it runs. -/
namespace Usque.Supervisor

open NativeTun

section Calls

variable (spkiOf : Bytes → Option Bytes) (cfg : MasqueConfig) (mtu : ℕ)

/-- Behind the initial path MTU at the loop's head. -/
def prepared (s : Supervisor) : Supervisor :=
  { s with stage := if s.idle cfg then .wait else .connect }

/-- Behind the initial path MTU after a session. -/
def rotated (established : Bool) (s : Supervisor) : Supervisor :=
  { s with
    stage := .delay
    endpointIndex := nextEndpointIndex s.endpointIndex cfg.endpoints.length established }

inductive Called (s : Supervisor) : Input → Supervisor → Prop where
  | prepare (answers : TunAnswers) (here : s.stage = .prepare) :
    Called s (.pathMtu answers) (s.applyInitialMtu cfg answers (prepared cfg))
  | withdraw (answers : TunAnswers) (established : Bool) (here : s.stage = .withdraw established) :
    Called s (.pathMtu answers) (s.applyInitialMtu cfg answers (rotated cfg established))
  | received (took : Duration) (packet : Option Bytes) (here : s.stage = .wait)
      (fits : ∀ bytes ∈ packet, bytes.length ≤ mtu + 128) :
    Called s (.received took packet) ({ s with now := s.now + took }.capture packet)
  | connect (here : s.stage = .connect) : Called s .proceed (s.attempt cfg)
  | finish (position : Session.Position) (error : Session.SessionError)
      (here : s.stage = .session position) (ended : position.stage = .returned error) :
    Called s .proceed (s.finish position.sessionEstablished)
  | session (input : Session.Input) (position : Session.Position) (endpoint : MasqueEndpoint)
      (after : Session) (here : s.stage = .session position)
      (found : cfg.endpoints[s.endpointIndex]? = some endpoint)
      (stepped : Session.step spkiOf cfg endpoint mtu ⟨position, s.toWorld⟩ input = some after) :
    Called s (.session input) (s.adopt after)
  | slept (took : Duration) (here : s.stage = .delay) (waited : cfg.reconnect.delay ≤ took) :
    Called s (.slept took) { s with stage := .prepare, now := s.now + took }

variable {spkiOf cfg mtu} {s next : Supervisor} {input : Input}

theorem step_called (stepped : step spkiOf cfg mtu s input = some next) :
    Called spkiOf cfg mtu s input next := by
  cases input with
  | pathMtu answers =>
    simp only [step] at stepped
    split at stepped
    · rename_i here
      cases stepped
      exact .prepare answers here
    · rename_i established here
      cases stepped
      exact .withdraw answers established here
    · cases stepped
  | received took packet =>
    simp only [step] at stepped
    split at stepped
    · rename_i fits
      split at stepped
      · rename_i here
        cases stepped
        exact .received took packet here fits
      · cases stepped
    · cases stepped
  | proceed =>
    simp only [step] at stepped
    split at stepped
    · rename_i here
      cases stepped
      exact .connect here
    · rename_i position here
      split at stepped
      · rename_i error ended
        cases stepped
        exact .finish position error here ended
      · cases stepped
    · cases stepped
  | session input =>
    simp only [step] at stepped
    split at stepped
    · rename_i position endpoint here found
      obtain ⟨after, moved, rfl⟩ := Option.map_eq_some_iff.mp stepped
      exact .session input position endpoint after here found moved
    · cases stepped
  | slept took =>
    simp only [step] at stepped
    split at stepped
    · rename_i here
      split at stepped
      · rename_i waited
        cases stepped
        exact .slept took here waited
      · cases stepped
    · cases stepped

def inSession : Stage → Bool
  | .session _ => true
  | _ => false

theorem not_session {stage : Stage} (outside : inSession stage = false)
    (position : Session.Position) : stage ≠ .session position := by
  intro same
  rw [same] at outside
  cases outside

/-- The initial path MTU is applied and the loop goes on, or the supervisor
returns the error. Nothing but the device has changed either way. -/
theorem applyInitialMtu_cases (cfg : MasqueConfig) (s : Supervisor) (answers : TunAnswers)
    (onward : Supervisor → Supervisor) :
    let call := s.device.applyPathMtu cfg.pathMtu.initialTunMtu
      (cfg.pathMtu.tunnelIpv6 && !cfg.pathMtu.enabled) answers
    let after := { s with device := call.state, moments := s.moments ++ call.moments }
    (call.result = .ok () ∧ s.applyInitialMtu cfg answers onward = onward after) ∨
      ∃ error, s.applyInitialMtu cfg answers onward =
        { after with stage := .returned (.device error) } := by
  unfold applyInitialMtu
  dsimp only
  split
  · rename_i applied
    exact .inl ⟨applied, rfl⟩
  · rename_i error failed
    exact .inr ⟨error, rfl⟩

/-- On demand and with nothing held the supervisor waits, otherwise it connects. -/
theorem prepared_cases (cfg : MasqueConfig) (s : Supervisor) :
    (s.idle cfg = true ∧ prepared cfg s = { s with stage := .wait }) ∨
      (s.idle cfg = false ∧ prepared cfg s = { s with stage := .connect }) := by
  cases idle : s.idle cfg <;> simp [prepared, idle]

end Calls

/-! ## Concrete runs -/

/-- A run that executes from a launch reaches its final state. -/
theorem execute_reaches (spkiOf : Bytes → Option Bytes) (launch : RunTunnel.Launch)
    (inputs : List Input) (found : Supervisor → Bool)
    (ran : (Transition.run (step spkiOf launch.cfg launch.mtu) (start launch.dev 0) inputs).any
      found = true) :
    ∃ s, Transition.Reachable (step spkiOf launch.cfg launch.mtu) (start launch.dev 0) s ∧
      found s = true := by
  obtain ⟨s, finished, checked⟩ := Option.any_eq_true _ _ |>.mp ran
  exact ⟨s, ⟨inputs, finished⟩, checked⟩

/-- Every tun-rs call succeeds. -/
def allApplied : TunAnswers := ⟨true, true, true⟩

/-- On demand, up to the head of the session. -/
def wakeInputs : List Input :=
  [.pathMtu allApplied, .received 0 (some DataLoop.smallPacket), .proceed]

/-- The attempt fails in its setup, and the next one starts. -/
def retryInputs : List Input :=
  [.session (.setUp 0 false), .proceed, .pathMtu allApplied, .slept (seconds 1),
    .pathMtu allApplied, .proceed]

/-- From the head of the session to the captured packet: the peer answers 200. -/
def establishInputs : List Input :=
  [.session (.setUp 0 true), .session .established, .session (.certificate none),
    .session (.requested true (some 0)), .session (.flushed 0 true false),
    .session (.pass none (.received 0)),
    .session (.polled [.headers 0 [(Handshake.statusName, [50, 48, 48])]]),
    .session .proceed, .session (.offered 0 none [])]

end Usque.Supervisor
