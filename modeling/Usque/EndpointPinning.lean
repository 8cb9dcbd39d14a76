import Usque.EndpointRotation

/-! Endpoint pinning, end to end. Without `--insecure` a session sends nothing
until the peer's certificate has passed the pin of the endpoint it was attempted
for, and that pin is the key of a configured peer that lists the address. -/
namespace Usque

/-- The attempt under way has seen a certificate with the endpoint's key. -/
def Vouched (spkiOf : Bytes → Option Bytes) (endpoint : MasqueEndpoint) (events : List Event) :
    Prop :=
  ∃ cert, Event.accepted cert ∈ events ∧ spkiOf cert = some endpoint.endpointPubKeySpkiDer

theorem Vouched.append {spkiOf : Bytes → Option Bytes} {endpoint : MasqueEndpoint}
    {events more : List Event} (vouched : Vouched spkiOf endpoint events) :
    Vouched spkiOf endpoint (events ++ more) := by
  obtain ⟨cert, member, valid⟩ := vouched
  exact ⟨cert, List.mem_append_left _ member, valid⟩

/-- The events that need a verified peer: whatever is sent, and an established
ending. -/
def Event.NeedsPin : Event → Prop
  | .sent _ => True
  | .ended established => established = true
  | _ => False

namespace Session

variable {spkiOf : Bytes → Option Bytes} {cfg : MasqueConfig} {endpoint : MasqueEndpoint}
  {mtu : ℕ} {s next : Session} {input : Input} {events : List Event}

/-- The position is behind the pin check, or has sent nothing. -/
def Guarded (spkiOf : Bytes → Option Bytes) (endpoint : MasqueEndpoint) (s : Session)
    (events : List Event) : Prop :=
  phase s.stage = .unverified ∨ (phase s.stage = .returned ∧ s.sessionEstablished = false) ∨
    Vouched spkiOf endpoint events

/-- In a phase of its own kind a guarded position is vouched for. -/
private theorem guarded_vouched (guarded : Guarded spkiOf endpoint s events)
    (verified : phase s.stage ≠ .unverified) (running : phase s.stage ≠ .returned) :
    Vouched spkiOf endpoint events := by
  rcases guarded with early | ⟨ended, -⟩ | vouched
  · exact absurd early verified
  · exact absurd ended running
  · exact vouched

/-- One step keeps the guard, and what it sends is vouched for beforehand. -/
theorem step_guarded (secure : cfg.insecure = false) (honest : Honest s events)
    (guarded : Guarded spkiOf endpoint s events)
    (stepped : step spkiOf cfg endpoint mtu s input = some next) :
    ∃ more, next.log = s.log ++ more ∧ Guarded spkiOf endpoint next (events ++ more) ∧
      ((∃ event ∈ more, event.NeedsPin) → Vouched spkiOf endpoint events) := by
  have nothing : (∃ event ∈ ([] : List Event), event.NeedsPin) → Vouched spkiOf endpoint events := by
    rintro ⟨event, member, -⟩
    cases member
  -- behind the check, whatever a step does is vouched for
  have behind (more : List Event) (log : next.log = s.log ++ more)
      (verified : phase s.stage ≠ .unverified) (running : phase s.stage ≠ .returned) :
      ∃ more, next.log = s.log ++ more ∧ Guarded spkiOf endpoint next (events ++ more) ∧
        ((∃ event ∈ more, event.NeedsPin) → Vouched spkiOf endpoint events) := by
    have vouched := guarded_vouched guarded verified running
    exact ⟨more, log, .inr (.inr vouched.append), fun _ => vouched⟩
  have other {p q : Phase} (here : phase s.stage = p) (distinct : p ≠ q) : phase s.stage ≠ q := by
    rw [here]
    exact distinct
  rcases step_moved stepped with ⟨-, moved⟩ | ⟨-, abandoned⟩
  · cases moved with
    | within adds same outside =>
      refine ⟨[], adds.log, ?_, nothing⟩
      rw [List.append_nil]
      simpa only [Guarded, same, adds.established] using guarded
    | failed adds early ends =>
      refine ⟨[], adds.log, .inr (.inl ⟨ends, adds.established.trans ?_⟩), nothing⟩
      rcases early with here | here | here <;> simp only [Honest, here] at honest <;>
        exact honest.1
    | unchecked adds insecure before after =>
      rw [secure] at insecure
      cases insecure
    | accepted cert valid adds before after =>
      refine ⟨_, adds.log, .inr (.inr ⟨cert, by simp, valid⟩), ?_⟩
      rintro ⟨event, member, needs⟩
      cases List.mem_singleton.mp member
      exact needs.elim
    | requested adds before after =>
      exact behind _ adds.log (other before (by simp)) (other before (by simp))
    | announced latency before after device moments pending established published log =>
      exact behind _ log (other before (by simp)) (other before (by simp))
    | probed dgrams adds before after =>
      exact behind _ adds.log (other before (by simp)) (other before (by simp))
    | unneeded adds idle before after outside =>
      exact behind _ adds.log (other before (by simp)) (other before (by simp))
    | handed packet dgrams held once before after outside device moments pending published
        established log =>
      exact behind _ log (other before (by simp)) (other before (by simp))
    | entered tunnel loop adds before there device =>
      exact behind _ adds.log (other before (by simp)) (other before (by simp))
    | pumped a loop after label here stepped same =>
      have before : phase s.stage = .serving := by rw [here]; rfl
      subst same
      exact behind _ rfl (other before (by simp)) (other before (by simp))
    | cleaned before after device moments pending established published log =>
      exact behind _ log (other before (by simp)) (other before (by simp))
  · cases abandoned with
    | sending packet dgrams held once before after device moments pending published established
        log =>
      exact behind _ log (other before (by simp)) (other before (by simp))
    | flushing adds before after =>
      exact behind _ adds.log (other before (by simp)) (other before (by simp))

end Session

namespace Supervisor

open Session (Guarded Honest)

variable {spkiOf : Bytes → Option Bytes} {cfg : MasqueConfig} {mtu : ℕ} {s next : Supervisor}
  {input : Input}

/-- Earlier in the same attempt the endpoint's key was verified. -/
def Sealed (spkiOf : Bytes → Option Bytes) (cfg : MasqueConfig) (before : List Event)
    (event : Event) : Prop :=
  event.NeedsPin → ∃ index endpoint events, InAttempt before index endpoint events ∧
    endpoint ∈ cfg.endpoints ∧ Vouched spkiOf endpoint events

structure Pinning (spkiOf : Bytes → Option Bytes) (cfg : MasqueConfig) (s : Supervisor) : Prop where
  justified : Trace.Justified (Sealed spkiOf cfg) s.log
  position : match s.stage with
    | .session position => ∃ endpoint events,
        cfg.endpoints[s.endpointIndex]? = some endpoint ∧
        InAttempt s.log s.endpointIndex endpoint events ∧
        Honest ⟨position, s.toWorld⟩ events ∧ Guarded spkiOf endpoint ⟨position, s.toWorld⟩ events
    | _ => True

private theorem plain_justified {log : List Event} {event : Event}
    (justified : Trace.Justified (Sealed spkiOf cfg) log) (plain : ¬ event.NeedsPin) :
    Trace.Justified (Sealed spkiOf cfg) (log ++ [event]) :=
  Trace.justified_concat_iff.mpr ⟨justified, fun needs => absurd needs plain⟩

private theorem session_pinning {position : Session.Position} {endpoint : MasqueEndpoint}
    {after : Session} {input : Session.Input} (secure : cfg.insecure = false)
    (pinning : Pinning spkiOf cfg s) (here : s.stage = .session position)
    (found : cfg.endpoints[s.endpointIndex]? = some endpoint)
    (stepped : Session.step spkiOf cfg endpoint mtu ⟨position, s.toWorld⟩ input = some after) :
    Pinning spkiOf cfg (s.adopt after) := by
  have place := pinning.position
  rw [here] at place
  obtain ⟨opened, events, found', inside, honest, guarded⟩ := place
  obtain rfl := Option.some.inj (found.symm.trans found')
  obtain ⟨more, logged, -, stays⟩ := Session.step_history honest stepped
  obtain ⟨more', log', guards, sealed⟩ := Session.step_guarded secure honest guarded stepped
  have log : after.log = s.log ++ more := logged.log
  obtain rfl : more' = more := List.append_cancel_left (log'.symm.trans log)
  constructor
  · simp only [adopt, log]
    refine Trace.justified_append_iff.mpr ⟨pinning.justified, ?_⟩
    intro before event rest split needs
    have early : ∀ event ∈ before, event.Inner := by
      intro other member
      exact logged.inner other (by simp [split, member])
    refine ⟨s.endpointIndex, endpoint, events ++ before, inside.append early,
      List.mem_of_getElem? found, ?_⟩
    exact (sealed ⟨event, by simp [split], needs⟩).append
  · simp only [adopt]
    refine ⟨endpoint, events ++ more', found, ?_, stays, guards⟩
    rw [log]
    exact inside.append logged.inner

/-- The pinning invariant survives every step. -/
theorem step_pinning (secure : cfg.insecure = false) (pinning : Pinning spkiOf cfg s)
    (stepped : step spkiOf cfg mtu s input = some next) : Pinning spkiOf cfg next := by
  cases step_called stepped with
  | prepare answers here =>
    obtain ⟨-, shape⟩ | ⟨error, shape⟩ := applyInitialMtu_cases cfg s answers (prepared cfg) <;> rw [shape]
    · obtain ⟨-, shape⟩ | ⟨-, shape⟩ := prepared_cases cfg _ <;> rw [shape] <;>
        exact ⟨pinning.justified, trivial⟩
    · exact ⟨pinning.justified, trivial⟩
  | withdraw answers established here =>
    obtain ⟨-, shape⟩ | ⟨error, shape⟩ :=
      applyInitialMtu_cases cfg s answers (rotated cfg established) <;> rw [shape] <;>
      exact ⟨pinning.justified, trivial⟩
  | received took packet here fits =>
    unfold capture
    split
    · exact ⟨pinning.justified, trivial⟩
    · split
      · exact ⟨pinning.justified, trivial⟩
      · exact ⟨plain_justified pinning.justified nofun, trivial⟩
  | connect here =>
    unfold attempt
    split
    · exact ⟨pinning.justified, trivial⟩
    · rename_i endpoint found
      refine ⟨plain_justified pinning.justified nofun, endpoint, [], found, ?_, ⟨rfl, nofun⟩, .inl rfl⟩
      exact InAttempt.opened s.log s.endpointIndex endpoint
  | finish position error here ended =>
    have place := pinning.position
    rw [here] at place
    obtain ⟨endpoint, events, found, inside, honest, guarded⟩ := place
    refine ⟨Trace.justified_concat_iff.mpr ⟨pinning.justified, ?_⟩, trivial⟩
    intro established
    refine ⟨s.endpointIndex, endpoint, events, inside, List.mem_of_getElem? found, ?_⟩
    rcases guarded with early | ⟨-, failed⟩ | vouched
    · simp [ended, Session.phase] at early
    · exact absurd (failed.symm.trans established) Bool.false_ne_true
    · exact vouched
  | session input position endpoint after here found moved =>
    exact session_pinning secure pinning here found moved
  | slept took here waited => exact ⟨pinning.justified, trivial⟩

theorem start_pinning (dev : NativeTun.TunRsDevice) (now : Instant) :
    Pinning spkiOf cfg (start dev now) := ⟨Trace.justified_nil, trivial⟩

variable {answers : RunTunnel.Answers} {appCfg : AppConfig} {args : NativeTunArgs}
  {role : TunnelRole} {probeTarget : Option IpAddr} {idle : Option Duration}
  {launch : RunTunnel.Launch}

/-- Pinning from the configuration to the wire. In every run behind an accepted
start without `--insecure`, nothing is sent and no attempt ends established
unless, earlier in the same attempt, the peer's certificate parsed to the decoded
key of a configured peer that lists the endpoint's address; any other answer at
the check ends the attempt with an error, unestablished. -/
theorem endpoint_pinned_end_to_end (spkiOf : Bytes → Option Bytes) (now : Instant)
    (started : RunTunnel.runTunnel answers appCfg args role probeTarget idle = .ok launch)
    (secure : args.insecure = false)
    (reached : Transition.Reachable (step spkiOf launch.cfg launch.mtu) (start launch.dev now) s) :
    (∀ before event after, s.log = before ++ event :: after → event.NeedsPin →
      ∃ index endpoint events cert, InAttempt before index endpoint events ∧
        Event.accepted cert ∈ events ∧ spkiOf cert = some endpoint.endpointPubKeySpkiDer ∧
        Config.Pinned answers.pemContents appCfg endpoint) ∧
    (∀ position endpoint peerCert next, s.stage = .session position →
      position.stage = .verify → launch.cfg.endpoints[s.endpointIndex]? = some endpoint →
      (∀ cert ∈ peerCert, spkiOf cert ≠ some endpoint.endpointPubKeySpkiDer) →
      step spkiOf launch.cfg launch.mtu s (.session (.certificate peerCert)) = some next →
      ∃ after error, next.stage = .session after ∧ after.stage = .returned error ∧
        after.sessionEstablished = false ∧ next.log = s.log) := by
  obtain ⟨-, activationProbe, endpoints, selected, -, config, -⟩ := RunTunnel.runTunnel_ok started
  have checked : launch.cfg.insecure = false := by rw [config]; exact secure
  have chosen : launch.cfg.endpoints = endpoints := by rw [config]; rfl
  have pinned := (Config.selected_pinned selected).2
  have pinning := reached.invariant (Pinning spkiOf launch.cfg)
    (fun s input next pinning stepped => step_pinning checked pinning stepped)
    (start_pinning launch.dev now)
  constructor
  · intro before event after split needs
    obtain ⟨index, endpoint, events, inside, member, cert, accepted, valid⟩ :=
      pinning.justified before event after split needs
    rw [chosen] at member
    exact ⟨index, endpoint, events, cert, inside, accepted, valid, pinned endpoint member⟩
  · intro position endpoint peerCert next here verify found mismatch stepped
    have place := pinning.position
    rw [here] at place
    obtain ⟨-, events, -, -, honest, -⟩ := place
    have unestablished : position.sessionEstablished = false := by
      simp only [Honest, Session.phase, verify] at honest
      exact honest.1
    have refused : ∃ error,
        Session.checkPin spkiOf launch.cfg endpoint ⟨position, s.toWorld⟩ peerCert =
          Session.bail ⟨position, s.toWorld⟩ error := by
      unfold Session.checkPin
      rw [if_neg (by simp [checked])]
      split
      · exact ⟨.noCertificate, rfl⟩
      · rename_i cert
        have wrong : Handshake.verifyEndpointKey spkiOf cert
            (Handshake.prepareTlsMaterial endpoint).endpointPubKeySpkiDer ≠ true := by
          intro accepted
          exact mismatch cert rfl (Handshake.verifyEndpointKey_iff.mp accepted)
        rw [if_neg wrong]
        exact ⟨.pinMismatch, rfl⟩
    obtain ⟨error, refused⟩ := refused
    simp only [step, here, found, Session.step, verify, refused, Option.map_some,
      Option.some.injEq] at stepped
    subst stepped
    exact ⟨_, error, rfl, rfl, unestablished, rfl⟩

/-- A certificate that does not parse ends the attempt, and nothing was sent. -/
theorem endpoint_pinned_end_to_end_small :
    ∃ s : Supervisor, outcomes s.log = [false] ∧ ∀ what, Event.sent what ∉ s.log := by
  obtain ⟨s, reached, found⟩ := execute_reaches (fun _ => none) RunTunnel.smallLaunch
    (wakeInputs ++ [.session (.setUp 0 true), .session .established,
      .session (.certificate (some [0])), .proceed])
    (fun s => decide (outcomes s.log = [false])) (by decide)
  refine ⟨s, of_decide_eq_true found, ?_⟩
  intro what sent
  obtain ⟨before, after, split⟩ := List.append_of_mem sent
  have justified :=
    (endpoint_pinned_end_to_end (fun _ => none) 0 RunTunnel.smallLaunch_started rfl reached).1
  obtain ⟨index, endpoint, events, cert, inside, accepted, valid, pinned⟩ :=
    justified before _ after split trivial
  cases valid

end Supervisor
end Usque
