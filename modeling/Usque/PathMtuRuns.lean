import Usque.SupervisorSteps

/-! The MTU and IPv6 of the TUN device over whole runs. The supervisor and the
pump only ever call `apply_path_mtu` with an MTU under the ceiling, so the device
is sound between calls and every moment inside a call is safe, whichever tun-rs
calls fail. -/
namespace Usque

open NativeTun
open RunTunnel (openLaunch)

variable {ceiling mtu : UInt16}

/-- What a call of `apply_path_mtu` does to a sound device and its history. -/
theorem applyPathMtu_history {device : TunRsDevice} {moments : List Moment} {allowIpv6 : Bool}
    {answers : TunAnswers} (sound : Sound ceiling device) (within : mtu ≤ ceiling)
    (watched : ∀ moment ∈ moments, Watched ceiling moment) :
    Sound ceiling (device.applyPathMtu mtu allowIpv6 answers).state ∧
      ∀ moment ∈ moments ++ (device.applyPathMtu mtu allowIpv6 answers).moments,
        Watched ceiling moment := by
  have upheld : Procedure.Upholds (Sound ceiling) _ (Watched ceiling)
      (device.applyPathMtu mtu allowIpv6 answers) := applyPathMtu_upholds sound within
  refine ⟨upheld.state, ?_⟩
  intro moment member
  rcases List.mem_append.mp member with old | new
  · exact watched moment old
  · exact upheld.moments moment new

namespace Session

variable {spkiOf : Bytes → Option Bytes} {cfg : MasqueConfig} {endpoint : MasqueEndpoint}
  {mtu : ℕ} {s next : Session} {input : Input}

/-- The pump works on the session's device, with the session's limits. -/
def Attached (cfg : MasqueConfig) (mtu : ℕ) (s : Session) : Prop :=
  ∀ a loop, s.stage = .pump a loop →
    loop.device = s.device ∧ a.mtu = mtu ∧ a.maxTunMtu = cfg.pathMtu.maxTunMtu

private theorem attached_outside (outside : pumping s.stage = false) : Attached cfg mtu s := by
  intro a loop here
  rw [here] at outside
  cases outside

private theorem attached_phase {p : Phase} (here : phase s.stage = p) (other : p ≠ .serving) :
    Attached cfg mtu s := by
  intro a loop pumps
  rw [pumps] at here
  exact absurd here.symm other

/-- One step of an attempt keeps the device sound and its history safe. -/
theorem step_device (sound : Sound cfg.pathMtu.maxTunMtu s.device)
    (watched : ∀ moment ∈ s.moments, Watched cfg.pathMtu.maxTunMtu moment)
    (attached : Attached cfg mtu s) (stepped : step spkiOf cfg endpoint mtu s input = some next) :
    Sound cfg.pathMtu.maxTunMtu next.device ∧
      (∀ moment ∈ next.moments, Watched cfg.pathMtu.maxTunMtu moment) ∧ Attached cfg mtu next := by
  have kept (device : next.device = s.device) (moments : next.moments = s.moments)
      (stays : Attached cfg mtu next) :
      Sound cfg.pathMtu.maxTunMtu next.device ∧
        (∀ moment ∈ next.moments, Watched cfg.pathMtu.maxTunMtu moment) ∧
        Attached cfg mtu next := by
    rw [device, moments]
    exact ⟨sound, watched, stays⟩
  rcases step_moved stepped with ⟨-, moved⟩ | ⟨-, abandoned⟩
  · cases moved with
    | within adds same outside => exact kept adds.device adds.moments (attached_outside outside)
    | failed adds early ends => exact kept adds.device adds.moments (attached_phase ends nofun)
    | unchecked adds insecure before after =>
      exact kept adds.device adds.moments (attached_phase after nofun)
    | accepted cert valid adds before after =>
      exact kept adds.device adds.moments (attached_phase after nofun)
    | requested adds before after =>
      exact kept adds.device adds.moments (attached_phase after nofun)
    | announced latency before after device moments pending established published log =>
      exact kept device moments (attached_phase after nofun)
    | probed dgrams adds before after =>
      exact kept adds.device adds.moments (attached_phase after nofun)
    | unneeded adds idle before after outside =>
      exact kept adds.device adds.moments (attached_outside outside)
    | handed packet dgrams held once before after outside device moments pending published
        established log =>
      exact kept device moments (attached_outside outside)
    | entered tunnel loop adds before there device =>
      refine kept adds.device adds.moments ?_
      intro a other pumps
      obtain ⟨rfl, rfl⟩ := Stage.pump.inj (there.symm.trans pumps)
      exact ⟨device.trans adds.device.symm, rfl, rfl⟩
    | pumped a loop after label here moves same =>
      subst same
      obtain ⟨onDevice, reads, capped⟩ := attached a loop here
      have stays : Attached cfg mtu (s.follow loop after) := by
        intro b other pumps
        obtain ⟨rfl, rfl⟩ := Stage.pump.inj pumps
        exact ⟨rfl, reads, capped⟩
      rcases DataLoop.step_device moves with ⟨device, moments⟩ | ⟨tunMtu, within, answers, device,
        moments⟩
      · refine kept (device.trans onDevice) ?_ stays
        simp [follow, emit, moments]
      · rw [onDevice] at device moments
        rw [capped] at within
        obtain ⟨sound, watched⟩ := applyPathMtu_history sound within watched
        refine ⟨?_, ?_, stays⟩
        · simpa only [follow, emit, device] using sound
        · simpa only [follow, emit, moments, List.drop_left] using watched
    | cleaned before after device moments pending established published log =>
      exact kept device moments (attached_phase after nofun)
  · cases abandoned with
    | sending packet dgrams held once before after device moments pending published established
        log =>
      exact kept device moments (attached_phase after nofun)
    | flushing adds before after =>
      exact kept adds.device adds.moments (attached_phase after nofun)

end Session

namespace Supervisor

variable {spkiOf : Bytes → Option Bytes} {cfg : MasqueConfig} {mtu : ℕ} {s next : Supervisor}
  {input : Input}

/-- Waiting for traffic or for the reconnect delay. -/
def resting : Stage → Bool
  | .wait | .delay => true
  | _ => false

/-- The initial MTU is in force and IPv6 is withdrawn. -/
def Conservative (cfg : MasqueConfig) (device : TunRsDevice) : Prop :=
  device.dev.mtu = cfg.pathMtu.initialTunMtu ∧ device.dev.ipv6 = none

structure OnDevice (cfg : MasqueConfig) (mtu : ℕ) (s : Supervisor) : Prop where
  sound : Sound cfg.pathMtu.maxTunMtu s.device
  watched : ∀ moment ∈ s.moments, Watched cfg.pathMtu.maxTunMtu moment
  rests : cfg.pathMtu.enabled = true → resting s.stage = true → Conservative cfg s.device
  attached : ∀ position, s.stage = .session position →
    Session.Attached cfg mtu ⟨position, s.toWorld⟩

/-- A step away from the device. -/
private theorem onDevice_kept (kept : OnDevice cfg mtu s) (device : next.device = s.device)
    (moments : next.moments = s.moments) (rests : resting next.stage = false)
    (attached : ∀ position, next.stage = .session position →
      Session.Attached cfg mtu ⟨position, next.toWorld⟩) : OnDevice cfg mtu next := by
  refine ⟨device ▸ kept.sound, moments ▸ kept.watched, ?_, attached⟩
  intro _ resting
  rw [rests] at resting
  cases resting

/-- The initial path MTU: sound afterwards, and conservative where it succeeds
with path MTU discovery on. -/
private theorem applyInitialMtu_onDevice {onward : Supervisor → Supervisor} (kept : OnDevice cfg mtu s)
    (within : cfg.pathMtu.initialTunMtu ≤ cfg.pathMtu.maxTunMtu) (answers : TunAnswers)
    (device : ∀ s, (onward s).device = s.device) (moments : ∀ s, (onward s).moments = s.moments)
    (outside : ∀ s, inSession (onward s).stage = false) :
    OnDevice cfg mtu (s.applyInitialMtu cfg answers onward) := by
  have upheld : Procedure.Upholds (Sound cfg.pathMtu.maxTunMtu)
      (fun after => after.dev.mtu = cfg.pathMtu.initialTunMtu ∧
        ((cfg.pathMtu.tunnelIpv6 && !cfg.pathMtu.enabled) = false → after.dev.ipv6 = none))
      (Watched cfg.pathMtu.maxTunMtu)
      (s.device.applyPathMtu cfg.pathMtu.initialTunMtu
        (cfg.pathMtu.tunnelIpv6 && !cfg.pathMtu.enabled) answers) :=
    applyPathMtu_upholds kept.sound within
  have shapes := applyInitialMtu_cases cfg s answers onward
  dsimp only at shapes
  generalize s.device.applyPathMtu cfg.pathMtu.initialTunMtu
    (cfg.pathMtu.tunnelIpv6 && !cfg.pathMtu.enabled) answers = call at upheld shapes
  have watched : ∀ moment ∈ s.moments ++ call.moments, Watched cfg.pathMtu.maxTunMtu moment := by
    intro moment member
    rcases List.mem_append.mp member with old | new
    · exact kept.watched moment old
    · exact upheld.moments moment new
  obtain ⟨applied, shape⟩ | ⟨error, shape⟩ := shapes <;> rw [shape]
  · refine ⟨?_, ?_, ?_, ?_⟩
    · rw [device]
      exact upheld.state
    · rw [moments]
      exact watched
    · intro enabled _
      obtain ⟨initial, withdrawn⟩ := upheld.ended applied
      rw [Conservative, device]
      refine ⟨initial, withdrawn ?_⟩
      rw [enabled, Bool.not_true, Bool.and_false]
    · intro position here
      exact absurd here (not_session (outside _) position)
  · refine ⟨upheld.state, watched, ?_, ?_⟩
    · intro _ rests
      cases rests
    · intro position here
      exact absurd here (not_session rfl position)

/-- The device invariant survives every step. -/
theorem step_onDevice (within : cfg.pathMtu.initialTunMtu ≤ cfg.pathMtu.maxTunMtu)
    (kept : OnDevice cfg mtu s) (stepped : step spkiOf cfg mtu s input = some next) :
    OnDevice cfg mtu next := by
  have moved (stage : inSession next.stage = false) (position : Session.Position)
      (here : next.stage = .session position) : Session.Attached cfg mtu ⟨position, next.toWorld⟩ :=
    absurd here (not_session stage position)
  cases step_called stepped with
  | prepare answers here =>
    apply applyInitialMtu_onDevice kept within
    · exact fun _ => rfl
    · exact fun _ => rfl
    · intro s
      obtain ⟨-, shape⟩ | ⟨-, shape⟩ := prepared_cases cfg s <;> rw [shape] <;> rfl
  | withdraw answers established here =>
    exact applyInitialMtu_onDevice kept within answers (fun _ => rfl) (fun _ => rfl) fun _ => rfl
  | received took packet here fits =>
    unfold capture
    split
    · exact onDevice_kept kept rfl rfl rfl fun position at_end => absurd at_end (not_session rfl position)
    · split
      · exact onDevice_kept kept rfl rfl rfl fun position at_end =>
          absurd at_end (not_session rfl position)
      · exact onDevice_kept kept rfl rfl rfl fun position at_wait =>
          absurd at_wait (not_session rfl position)
  | connect here =>
    unfold attempt
    split
    · exact onDevice_kept kept rfl rfl rfl fun position at_end => absurd at_end (not_session rfl position)
    · refine onDevice_kept kept rfl rfl rfl ?_
      intro position at_start a loop pumps
      cases at_start
      cases pumps
  | finish position error here ended =>
    exact onDevice_kept kept rfl rfl rfl (moved rfl)
  | session input position endpoint after here found advanced =>
    obtain ⟨sound, watched, attached⟩ :=
      Session.step_device kept.sound kept.watched (kept.attached position here) advanced
    refine ⟨sound, watched, nofun, ?_⟩
    intro other same
    cases same
    exact attached
  | slept took here waited => exact onDevice_kept kept rfl rfl rfl (moved rfl)

theorem start_onDevice {dev : TunRsDevice} (sound : Sound cfg.pathMtu.maxTunMtu dev)
    (now : Instant) : OnDevice cfg mtu (start dev now) where
  sound := sound
  watched := by
    intro moment member
    rw [List.mem_singleton.mp member]
    exact ⟨sound.safe, iff_of_true sound.synced rfl⟩
  rests _ rests := nomatch rests
  attached position here := absurd here (not_session rfl position)

variable {answers : RunTunnel.Answers} {appCfg : AppConfig} {args : NativeTunArgs}
  {role : TunnelRole} {probeTarget : Option IpAddr} {idle : Option Duration}
  {launch : RunTunnel.Launch}

/-- The MTU and IPv6 of the device in every run behind an accepted start. At every
moment IPv6 is there only on an MTU that carries it, the MTU keeps to the ceiling
the buffers are made for, and the caches are right except between an effective
tun-rs call and the store behind it. While the supervisor rests with path MTU
discovery on, IPv6 is withdrawn and the initial MTU is in force. -/
theorem device_safe_at_every_moment (spkiOf : Bytes → Option Bytes) (now : Instant)
    (started : RunTunnel.runTunnel answers appCfg args role probeTarget idle = .ok launch)
    (reached : Transition.Reachable (step spkiOf launch.cfg launch.mtu) (start launch.dev now) s) :
    (∀ moment ∈ s.moments,
      (moment.device.dev.ipv6 ≠ none → ipv6MinMtu ≤ moment.device.dev.mtu) ∧
      (Synced moment.device ↔ moment.settled = true) ∧
      moment.device.dev.mtu ≤ args.maxTunMtu ∧
      moment.device.dev.mtu.toNat ≤ launch.mtu) ∧
    (Safe args.maxTunMtu s.device ∧ Synced s.device) ∧
    (∀ position a loop, s.stage = .session position → position.stage = .pump a loop →
      loop.device = s.device ∧ a.readerBufLen = args.maxTunMtu.toNat + 128) ∧
    (args.disablePmtud = false → s.stage = .wait ∨ s.stage = .delay →
      s.device.dev.ipv6 = none ∧ s.device.dev.mtu = args.mtu) := by
  obtain ⟨sound, ordered⟩ := RunTunnel.runTunnel_sound started
  obtain ⟨-, activationProbe, endpoints, -, -, config, limit⟩ := RunTunnel.runTunnel_ok started
  have ceiling : launch.cfg.pathMtu.maxTunMtu = args.maxTunMtu := by rw [config]; rfl
  have initial : launch.cfg.pathMtu.initialTunMtu = args.mtu := by rw [config]; rfl
  have kept := reached.invariant (OnDevice launch.cfg launch.mtu)
    (fun _ _ _ kept stepped => step_onDevice ordered kept stepped) (start_onDevice sound now)
  refine ⟨?_, ?_, ?_, ?_⟩
  · intro moment member
    obtain ⟨⟨carries, within⟩, synced⟩ := kept.watched moment member
    rw [ceiling] at within
    refine ⟨carries, synced, within, ?_⟩
    rw [limit]
    exact UInt16.le_iff_toNat_le.mp within
  · rw [← ceiling]
    exact ⟨kept.sound.safe, kept.sound.synced⟩
  · intro position a loop here pumps
    obtain ⟨same, reads, -⟩ := kept.attached position here a loop pumps
    refine ⟨same, ?_⟩
    rw [LoopArgs.readerBufLen, reads, limit]
  · intro discovers rests
    have enabled : launch.cfg.pathMtu.enabled = true := by
      rw [config]
      simp [RunTunnel.masqueConfig, discovers]
    have conservative : Conservative launch.cfg s.device := by
      apply kept.rests enabled
      rcases rests with waits | delays
      · rw [waits]; rfl
      · rw [delays]; rfl
    exact ⟨conservative.2, conservative.1.trans initial⟩

/-- The first discovered path MTU: the device grows and gets its address. -/
private def discoverInputs : List Input :=
  [.session (.offered 0 none [.accepted]), .session (.flushed 0 true false),
    .session (.entered none), .session (.pump (.pump (.batch (some 0)))),
    .session (.pump (.pump (.flushed true))), .session (.pump (.pump (.polled [] []))),
    .session (.pump (.pump (.drained []))),
    .session (.pump (.pump (.reported .failed .done))),
    .session (.pump (.pump (.pathMtu (some 1452) (some 1421) true allApplied)))]

/-- A run through the discovery of a path MTU, with its unsettled moments. -/
theorem device_safe_at_every_moment_small :
    ∃ s : Supervisor, (∃ moment ∈ s.moments, moment.settled = false) ∧
      s.device.dev.ipv6 ≠ none ∧ ipv6MinMtu ≤ s.device.dev.mtu ∧ Synced s.device := by
  obtain ⟨s, reached, found⟩ := execute_reaches (fun _ => none) openLaunch
    (wakeInputs ++ establishInputs ++ discoverInputs)
    (fun s => s.moments.any (fun moment => !moment.settled) && s.device.dev.ipv6.isSome)
    (by decide)
  obtain ⟨unsettled, present⟩ := Bool.and_eq_true_iff.mp found
  obtain ⟨moment, member, open_moment⟩ := List.any_eq_true.mp unsettled
  have announced : s.device.dev.ipv6 ≠ none := Option.isSome_iff_ne_none.mp present
  obtain ⟨-, ⟨safe, synced⟩, -, -⟩ :=
    device_safe_at_every_moment (fun _ => none) 0 RunTunnel.openLaunch_started reached
  exact ⟨s, ⟨moment, member, by simpa using open_moment⟩, announced, safe.ipv6 announced, synced⟩

/-- Between tun-rs setting the MTU and the store behind it, the cached MTU is the
old one. -/
theorem cache_trails_device :
    ¬ ∀ spkiOf answers appCfg args role probeTarget idle launch now s,
      RunTunnel.runTunnel answers appCfg args role probeTarget idle = .ok launch →
      Transition.Reachable (step spkiOf launch.cfg launch.mtu) (start launch.dev now) s →
      ∀ moment ∈ s.moments, Synced moment.device := by
  intro synced
  obtain ⟨s, reached, found⟩ := execute_reaches (fun _ => none) openLaunch
    (wakeInputs ++ establishInputs ++ discoverInputs)
    (fun s => s.moments.any fun moment => !decide (Synced moment.device)) (by decide)
  obtain ⟨moment, member, stale⟩ := List.any_eq_true.mp found
  have stale : ¬ Synced moment.device := by simpa using stale
  exact stale (synced _ _ _ _ _ _ _ _ _ s RunTunnel.openLaunch_started reached moment member)

end Supervisor
end Usque
