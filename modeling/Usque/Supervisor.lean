import Usque.Session

/-! The supervisor `maintain_native_tun` (`api/masque/supervisor.rs`): it rotates
through the endpoints, keeps the packet that woke it, and runs one session
attempt after another on one device. -/
namespace Usque

def nextEndpointIndex (current endpointCount : ℕ) (established : Bool) : ℕ :=
  if established then 0 else (current + 1) % endpointCount

namespace Supervisor

inductive SupervisorError where
  | device (error : NativeTun.TunError)
  /-- "tun-rs recv failed" -/
  | recv
  /-- "TUN device closed" -/
  | tunClosed
  /-- "MASQUE endpoint list is empty" -/
  | noEndpoint
  deriving DecidableEq

inductive Stage where
  /-- The head of the loop: the initial path MTU is applied. -/
  | prepare
  /-- On demand, with nothing held: a packet is read from the TUN. -/
  | wait
  | connect
  | session (position : Session.Position)
  | withdraw (established : Bool)
  | delay
  | returned (error : SupervisorError)
  deriving DecidableEq

end Supervisor

structure Supervisor extends World where
  stage : Supervisor.Stage
  endpointIndex : ℕ
  deriving DecidableEq

namespace Supervisor

open NativeTun

variable (spkiOf : Bytes → Option Bytes) (cfg : MasqueConfig) (mtu : ℕ)

def emit (s : Supervisor) (events : List Event) : Supervisor := { s with log := s.log ++ events }

/-- `apply_path_mtu` with the arguments the supervisor always uses, then on to
`onward`. -/
def applyInitialMtu (s : Supervisor) (answers : TunAnswers) (onward : Supervisor → Supervisor) :
    Supervisor :=
  let call := s.device.applyPathMtu cfg.pathMtu.initialTunMtu
    (cfg.pathMtu.tunnelIpv6 && !cfg.pathMtu.enabled) answers
  let s := { s with device := call.state, moments := s.moments ++ call.moments }
  match call.result with
  | .ok () => onward s
  | .error error => { s with stage := .returned (.device error) }

/-- A packet is needed before the next attempt. -/
def idle (s : Supervisor) : Bool := !cfg.reconnect.always && s.pending.isNone

/-- One `recv_packet`: an error, the end of the device, or a packet. -/
def capture (s : Supervisor) : Option Bytes → Supervisor
  | none => { s with stage := .returned .recv }
  | some packet =>
    if packet = [] then { s with stage := .returned .tunClosed }
    else { s with stage := .connect, pending := some packet }.emit [.captured packet]

def attempt (s : Supervisor) : Supervisor :=
  match cfg.endpoints[s.endpointIndex]? with
  | none => { s with stage := .returned .noEndpoint }
  | some endpoint =>
    { s with stage := .session (.start s.now) }.emit [.attempted s.endpointIndex endpoint]

/-- The session function has returned. -/
def finish (s : Supervisor) (established : Bool) : Supervisor :=
  { s with stage := .withdraw established }.emit [.ended established]

/-- The session and the world it leaves become the supervisor's. -/
def adopt (s : Supervisor) (session : Session) : Supervisor :=
  { s with toWorld := session.toWorld, stage := .session session.toPosition }

inductive Input where
  | pathMtu (answers : TunAnswers)
  | received (took : Duration) (packet : Option Bytes)
  | proceed
  | session (input : Session.Input)
  | slept (took : Duration)
  deriving DecidableEq

/-- The supervisor makes its next call. The wait buffer bounds the packet. -/
def step (s : Supervisor) : Input → Option Supervisor
  | .pathMtu answers =>
    match s.stage with
    | .prepare => some (s.applyInitialMtu cfg answers fun s =>
        { s with stage := if s.idle cfg then .wait else .connect })
    | .withdraw established => some (s.applyInitialMtu cfg answers fun s => { s with
        stage := .delay
        endpointIndex := nextEndpointIndex s.endpointIndex cfg.endpoints.length established })
    | _ => none
  | .received took packet =>
    if ∀ bytes ∈ packet, bytes.length ≤ mtu + 128 then
      match s.stage with
      | .wait => some ({ s with now := s.now + took }.capture packet)
      | _ => none
    else none
  | .proceed =>
    match s.stage with
    | .connect => some (s.attempt cfg)
    | .session position =>
      match position.stage with
      | .returned _ => some (s.finish position.sessionEstablished)
      | _ => none
    | _ => none
  | .session input =>
    match s.stage, cfg.endpoints[s.endpointIndex]? with
    | .session position, some endpoint =>
      (Session.step spkiOf cfg endpoint mtu ⟨position, s.toWorld⟩ input).map s.adopt
    | _, _ => none
  | .slept took =>
    match s.stage with
    | .delay =>
      if cfg.reconnect.delay ≤ took then some { s with stage := .prepare, now := s.now + took }
      else none
    | _ => none

/-- `maintain_native_tun` is called. -/
def start (dev : TunRsDevice) (now : Instant) : Supervisor where
  now := now
  device := dev
  pending := none
  published := .disconnected
  moments := [⟨dev, true⟩]
  log := []
  stage := .prepare
  endpointIndex := 0

end Supervisor
end Usque
