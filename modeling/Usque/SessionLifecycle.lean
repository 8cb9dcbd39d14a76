import Usque.SupervisorSteps

/-! The lifecycle of established sessions: what CONNECT announces, the cleanup
behind the pump takes back. Sending the captured packet stands between the two
and returns early when it fails, so the log is symmetric in exactly the runs
where that send and the flush behind it succeed. -/
namespace Usque

/-- The notifications: the reporter, the hooks and the statistics task. -/
def Event.lifecycle : Event → Bool
  | .connected _ | .disconnected | .hookRun _ _ | .statsSpawned | .statsAborted => true
  | _ => false

namespace Supervisor

open RunTunnel (openLaunch)
open Session (Phase phase opening closing hookEvents Moved Abandoned)

variable {spkiOf : Bytes → Option Bytes} {cfg : MasqueConfig} {mtu : ℕ} {s next : Supervisor}
  {input : Input}

def lifecycle (log : List Event) : List Event := log.filter Event.lifecycle

/-- A session that has been announced and not yet ended. -/
def live : Stage → Bool
  | .session position => phase position.stage == .announced || phase position.stage == .serving
  | _ => false

/-- One established session, from its announcement to its cleanup. -/
def round (cfg : MasqueConfig) (latencyMs : ℕ) : List Event := opening cfg latencyMs ++ closing cfg

/-- What the reporter shows during a session. -/
def publishedState (cfg : MasqueConfig) (latencyMs : ℕ) : ConnectionState :=
  if cfg.deviceState then .connected latencyMs else .disconnected

/-- The log consists of whole rounds, and of the opening of one more exactly
while a session is live; the reporter shows a connection only then. -/
def Symmetric (cfg : MasqueConfig) (s : Supervisor) : Prop :=
  ∃ latencies : List ℕ, if live s.stage
    then ∃ latency, lifecycle s.log = latencies.flatMap (round cfg) ++ opening cfg latency ∧
      s.published = publishedState cfg latency
    else lifecycle s.log = latencies.flatMap (round cfg) ∧ s.published = .disconnected

/-- In this step the captured packet, or the flush behind it, does not fail. -/
def PendingSent (s : Supervisor) (input : Input) : Prop :=
  match s.stage, input with
  | .session position, .session input => Session.PendingSent ⟨position, s.toWorld⟩ input
  | _, _ => True

instance (s : Supervisor) (input : Input) : Decidable (PendingSent s input) := by
  unfold PendingSent
  generalize s.stage = stage
  rcases stage <;> rcases input <;> infer_instance

/-! ## What the notifications of a log are -/

theorem lifecycle_append (log events : List Event) :
    lifecycle (log ++ events) = lifecycle log ++ lifecycle events := List.filter_append ..

/-- What is sent, verified or handed over notifies nobody. -/
theorem lifecycle_silent {events : List Event}
    (silent : ∀ event ∈ events, event.lifecycle = false) : lifecycle events = [] := by
  apply List.filter_eq_nil_iff.mpr
  intro event member
  simp [silent event member]

theorem lifecycle_opening (latency : ℕ) : lifecycle (opening cfg latency) = opening cfg latency := by
  apply List.filter_eq_self.mpr
  intro event member
  rcases Session.opening_cases member with rfl | rfl | ⟨name, rfl⟩
  · rfl
  · rfl
  · rfl

theorem lifecycle_closing : lifecycle (closing cfg) = closing cfg := by
  apply List.filter_eq_self.mpr
  intro event member
  rcases Session.closing_cases member with rfl | rfl | ⟨name, rfl⟩
  · rfl
  · rfl
  · rfl

/-! ## Why a missing cleanup shows -/

private theorem hookEvents_count (point : HookPoint) (path : Option String) :
    (hookEvents point path).count .statsSpawned = 0 ∧
      (hookEvents point path).count .statsAborted = 0 := by
  constructor
  · apply List.count_eq_zero_of_not_mem
    intro member
    obtain ⟨name, same⟩ := Session.mem_hookEvents member
    cases same
  · apply List.count_eq_zero_of_not_mem
    intro member
    obtain ⟨name, same⟩ := Session.mem_hookEvents member
    cases same

/-- The statistics task is spawned once in an opening and aborted in no opening. -/
private theorem opening_counts (cfg : MasqueConfig) (latency : ℕ) :
    (opening cfg latency).count .statsSpawned = 1 ∧
      (opening cfg latency).count .statsAborted = 0 := by
  obtain ⟨unspawned, unaborted⟩ := hookEvents_count .connect cfg.hooks.onConnect
  unfold opening
  simp only [List.count_append, unspawned, unaborted]
  cases cfg.deviceState <;> simp

private theorem closing_counts (cfg : MasqueConfig) :
    (closing cfg).count .statsSpawned = 0 ∧ (closing cfg).count .statsAborted = 1 := by
  obtain ⟨unspawned, unaborted⟩ := hookEvents_count .disconnect cfg.hooks.onDisconnect
  unfold closing
  simp only [List.count_append, unspawned, unaborted]
  cases cfg.deviceState <;> simp

/-- Whole rounds abort every statistics task they spawn. -/
private theorem rounds_balanced (cfg : MasqueConfig) (latencies : List ℕ) :
    (latencies.flatMap (round cfg)).count .statsSpawned =
      (latencies.flatMap (round cfg)).count .statsAborted := by
  induction latencies with
  | nil => rfl
  | cons latency rest ih =>
    obtain ⟨spawned, unaborted⟩ := opening_counts cfg latency
    obtain ⟨unspawned, aborted⟩ := closing_counts cfg
    simp only [List.flatMap_cons, round, List.count_append]
    omega

/-- An opening without its closing is no list of whole rounds. -/
theorem open_round_not_whole (latencies others : List ℕ) (latency : ℕ) :
    latencies.flatMap (round cfg) ++ opening cfg latency ≠ others.flatMap (round cfg) := by
  intro same
  obtain ⟨spawned, unaborted⟩ := opening_counts cfg latency
  have before := rounds_balanced cfg latencies
  have after := rounds_balanced cfg others
  rw [← same, List.count_append, List.count_append] at after
  omega

/-! ## Steps -/

/-- Nothing is announced or taken back. -/
private theorem symmetric_quiet {events : List Event} (symmetric : Symmetric cfg s)
    (log : next.log = s.log ++ events) (silent : ∀ event ∈ events, event.lifecycle = false)
    (same : live next.stage = live s.stage) (published : next.published = s.published) :
    Symmetric cfg next := by
  have unchanged : lifecycle next.log = lifecycle s.log := by
    rw [log, lifecycle_append, lifecycle_silent silent, List.append_nil]
  obtain ⟨latencies, rounds⟩ := symmetric
  refine ⟨latencies, ?_⟩
  simpa only [unchanged, same, published] using rounds

private theorem symmetric_closed (symmetric : Symmetric cfg s) (closed : live s.stage = false) :
    ∃ latencies : List ℕ, lifecycle s.log = latencies.flatMap (round cfg) ∧
      s.published = .disconnected := by
  obtain ⟨latencies, rounds⟩ := symmetric
  rw [if_neg (by simp [closed])] at rounds
  exact ⟨latencies, rounds⟩

private theorem symmetric_open (symmetric : Symmetric cfg s) (opened : live s.stage = true) :
    ∃ (latencies : List ℕ) (latency : ℕ),
      lifecycle s.log = latencies.flatMap (round cfg) ++ opening cfg latency ∧
      s.published = publishedState cfg latency := by
  obtain ⟨latencies, rounds⟩ := symmetric
  rw [if_pos opened] at rounds
  obtain ⟨latency, rounds⟩ := rounds
  exact ⟨latencies, latency, rounds⟩

private theorem single_silent {event : Event} (silent : event.lifecycle = false) :
    ∀ member ∈ [event], member.lifecycle = false := by
  intro member found
  cases List.mem_singleton.mp found
  exact silent

private theorem mapped_silent {α : Type} {items : List α} {what : α → Sent} :
    ∀ event ∈ items.map fun item => Event.sent (what item), event.lifecycle = false := by
  intro event member
  obtain ⟨item, -, rfl⟩ := List.mem_map.mp member
  rfl

private theorem handed_silent {packet : Bytes} {dgrams : List Bytes} :
    ∀ event ∈ Event.handed packet :: dgrams.map fun dgram => Event.sent (.pending dgram),
      event.lifecycle = false := by
  intro event member
  rcases List.mem_cons.mp member with rfl | sent
  · rfl
  · exact mapped_silent event sent

private theorem pumpEvents_silent {a : LoopArgs} {before after : DataLoop a} :
    ∀ event ∈ Session.pumpEvents before after, event.lifecycle = false := by
  intro event member
  rcases List.mem_append.mp member with uplink | report
  · exact mapped_silent event uplink
  · exact mapped_silent event report

section Sessions

variable {position : Session.Position} {endpoint : MasqueEndpoint} {after : Session}

/-- Liveness of a session, from its phase. -/
private theorem live_session (here : s.stage = .session position) {p : Phase}
    (phased : phase position.stage = p) :
    live s.stage = (p == .announced || p == .serving) := by
  rw [here, live, phased]

private theorem live_adopt {p : Phase} (phased : phase after.stage = p) :
    live (s.adopt after).stage = (p == .announced || p == .serving) := by
  rw [adopt, live, phased]

/-- A regular step of the session keeps the log symmetric. -/
private theorem moved_symmetric (symmetric : Symmetric cfg s) (here : s.stage = .session position)
    (moved : Moved spkiOf cfg endpoint mtu ⟨position, s.toWorld⟩ after) :
    Symmetric cfg (s.adopt after) := by
  cases moved with
  | within adds same outside =>
    refine symmetric_quiet symmetric adds.log nofun ?_ adds.published
    rw [live_session here rfl, live_adopt same]
  | failed adds early ends =>
    refine symmetric_quiet symmetric adds.log nofun ?_ adds.published
    rw [live_adopt ends]
    rcases early with before | before | before <;> rw [live_session here before] <;> rfl
  | unchecked adds insecure before phased =>
    refine symmetric_quiet symmetric adds.log nofun ?_ adds.published
    rw [live_session here before, live_adopt phased]
    rfl
  | accepted cert valid adds before phased =>
    refine symmetric_quiet symmetric adds.log (single_silent rfl) ?_ adds.published
    rw [live_session here before, live_adopt phased]
    rfl
  | requested adds before phased =>
    refine symmetric_quiet symmetric adds.log (single_silent rfl) ?_ adds.published
    rw [live_session here before, live_adopt phased]
    rfl
  | announced latency before phased device moments pending established published log =>
    obtain ⟨latencies, rounds, shown⟩ := symmetric_closed symmetric (live_session here before)
    have opened : live (s.adopt after).stage = true := live_adopt phased
    refine ⟨latencies, ?_⟩
    rw [if_pos opened]
    refine ⟨latency, ?_, ?_⟩
    · show lifecycle after.log = _
      rw [log, lifecycle_append, lifecycle_opening]
      exact congrArg (· ++ opening cfg latency) rounds
    · show after.published = _
      rw [published, publishedState]
      exact congrArg (if cfg.deviceState then ConnectionState.connected latency else ·) shown
  | probed dgrams adds before phased =>
    refine symmetric_quiet symmetric adds.log mapped_silent ?_ adds.published
    rw [live_session here before, live_adopt phased]
  | unneeded adds idle before phased outside =>
    refine symmetric_quiet symmetric adds.log nofun ?_ adds.published
    rw [live_session here before, live_adopt phased]
    rfl
  | handed packet dgrams held once before phased outside device moments pending published
      established log =>
    refine symmetric_quiet symmetric log handed_silent ?_ published
    rw [live_session here before, live_adopt phased]
    rfl
  | entered tunnel loop adds before there device =>
    refine symmetric_quiet symmetric adds.log nofun ?_ adds.published
    rw [live_session here before, live_adopt (p := .serving) (by rw [there]; rfl)]
  | pumped a loop later label at_pump stepped same =>
    subst same
    have before : phase position.stage = .serving := by
      rw [show position.stage = _ from at_pump]
      rfl
    refine symmetric_quiet symmetric rfl pumpEvents_silent ?_ rfl
    rw [live_session here before]
    rfl
  | cleaned before phased device moments pending established published log =>
    obtain ⟨latencies, latency, rounds, shown⟩ :=
      symmetric_open symmetric (live_session here before)
    refine ⟨latencies ++ [latency], ?_⟩
    rw [if_neg (by rw [live_adopt phased]; decide)]
    constructor
    · show lifecycle after.log = _
      rw [log, lifecycle_append, lifecycle_closing, List.flatMap_append, List.flatMap_singleton,
        round, ← List.append_assoc]
      exact congrArg (· ++ closing cfg) rounds
    · show after.published = _
      rw [published]
      have kept : (⟨position, s.toWorld⟩ : Session).published = publishedState cfg latency := shown
      rw [kept, publishedState]
      cases cfg.deviceState <;> rfl

/-- The two early returns leave an opening without its closing. -/
private theorem abandoned_asymmetric (symmetric : Symmetric cfg s)
    (here : s.stage = .session position) (abandoned : Abandoned ⟨position, s.toWorld⟩ after) :
    ¬ Symmetric cfg (s.adopt after) := by
  have open_ended (ends : phase after.stage = .returned) (opened : live s.stage = true)
      (same : lifecycle after.log = lifecycle s.log) : ¬ Symmetric cfg (s.adopt after) := by
    intro still
    obtain ⟨latencies, latency, rounds, -⟩ := symmetric_open symmetric opened
    obtain ⟨others, whole, -⟩ := symmetric_closed still (live_adopt ends)
    have log : lifecycle s.log = others.flatMap (round cfg) := same.symm.trans whole
    exact open_round_not_whole latencies others latency (rounds.symm.trans log)
  cases abandoned with
  | sending packet dgrams held once before phased device moments pending published established
      log =>
    apply open_ended phased (live_session here before)
    rw [log, lifecycle_append, lifecycle_silent handed_silent, List.append_nil]
  | flushing adds before phased =>
    apply open_ended phased (live_session here before)
    rw [adds.log, List.append_nil]

end Sessions

/-- The supervisor's own steps notify nobody. -/
private theorem own_symmetric {events : List Event} (symmetric : Symmetric cfg s)
    (log : next.log = s.log ++ events) (silent : ∀ event ∈ events, event.lifecycle = false)
    (before : live s.stage = false) (after : live next.stage = false)
    (published : next.published = s.published) : Symmetric cfg next :=
  symmetric_quiet symmetric log silent (after.trans before.symm) published

/-- From a symmetric state, a step stays symmetric exactly when the captured
packet and its flush do not fail in it. -/
theorem step_symmetric_iff (symmetric : Symmetric cfg s)
    (stepped : step spkiOf cfg mtu s input = some next) :
    Symmetric cfg next ↔ PendingSent s input := by
  have unlogged : s.log = s.log ++ [] := (List.append_nil _).symm
  have regular (kept : Symmetric cfg next) (sent : PendingSent s input) :
      Symmetric cfg next ↔ PendingSent s input := iff_of_true kept sent
  cases step_called stepped with
  | prepare answers here =>
    have closed : live s.stage = false := by rw [here]; rfl
    apply regular
    · obtain ⟨-, shape⟩ | ⟨error, shape⟩ := applyInitialMtu_cases cfg s answers (prepared cfg) <;>
        rw [shape]
      · obtain ⟨-, shape⟩ | ⟨-, shape⟩ := prepared_cases cfg _ <;> rw [shape] <;>
          exact own_symmetric symmetric unlogged nofun closed rfl rfl
      · exact own_symmetric symmetric unlogged nofun closed rfl rfl
    · simp only [PendingSent, here]
  | withdraw answers established here =>
    have closed : live s.stage = false := by rw [here]; rfl
    apply regular
    · obtain ⟨-, shape⟩ | ⟨error, shape⟩ :=
        applyInitialMtu_cases cfg s answers (rotated cfg established) <;> rw [shape] <;>
        exact own_symmetric symmetric unlogged nofun closed rfl rfl
    · simp only [PendingSent, here]
  | received took packet here fits =>
    have closed : live s.stage = false := by rw [here]; rfl
    apply regular
    · unfold capture
      split
      · exact own_symmetric symmetric unlogged nofun closed rfl rfl
      · split
        · exact own_symmetric symmetric unlogged nofun closed rfl rfl
        · exact own_symmetric symmetric rfl (single_silent rfl) closed rfl rfl
    · simp only [PendingSent, here]
  | connect here =>
    have closed : live s.stage = false := by rw [here]; rfl
    apply regular
    · unfold attempt
      split
      · exact own_symmetric symmetric unlogged nofun closed rfl rfl
      · exact own_symmetric symmetric rfl (single_silent rfl) closed rfl rfl
    · simp only [PendingSent, here]
  | finish position error here ended =>
    have closed : live s.stage = false := by rw [here, live, ended]; rfl
    apply regular
    · exact own_symmetric symmetric rfl (single_silent rfl) closed rfl rfl
    · simp only [PendingSent, here]
  | session input position endpoint after here found moved =>
    have condition : PendingSent s (.session input) ↔
        Session.PendingSent ⟨position, s.toWorld⟩ input := by
      simp only [PendingSent, here]
    rcases Session.step_moved moved with ⟨sent, moved⟩ | ⟨unsent, abandoned⟩
    · exact regular (moved_symmetric symmetric here moved) (condition.mpr sent)
    · exact iff_of_false (abandoned_asymmetric symmetric here abandoned)
        fun sent => unsent (condition.mp sent)
  | slept took here waited =>
    have closed : live s.stage = false := by rw [here]; rfl
    apply regular
    · exact own_symmetric symmetric unlogged nofun closed rfl rfl
    · simp only [PendingSent, here]

/-! ## Runs -/

theorem start_symmetric (dev : NativeTun.TunRsDevice) (now : Instant) :
    Symmetric cfg (start dev now) := ⟨[], rfl, rfl⟩

private theorem run_symmetric_iff {inputs : List Input} {finish : Supervisor}
    (symmetric : Symmetric cfg s)
    (ran : Transition.run (step spkiOf cfg mtu) s inputs = some finish) :
    (Transition.Along (step spkiOf cfg mtu) (fun s _ => Symmetric cfg s) s inputs ∧
        Symmetric cfg finish) ↔
      Transition.Along (step spkiOf cfg mtu) PendingSent s inputs := by
  induction inputs generalizing s with
  | nil =>
    cases ran
    exact ⟨fun _ => trivial, fun _ => ⟨trivial, symmetric⟩⟩
  | cons input rest ih =>
    obtain ⟨next, stepped, ranRest⟩ := Transition.run_cons_iff.mp ran
    have one := step_symmetric_iff symmetric stepped
    constructor
    · rintro ⟨⟨-, along⟩, ended⟩
      have kept : Symmetric cfg next := by
        cases rest with
        | nil =>
          cases ranRest
          exact ended
        | cons input rest => exact (along next stepped).1
      refine ⟨one.mp kept, ?_⟩
      intro other same
      obtain rfl := Option.some.inj (stepped.symm.trans same)
      exact (ih kept ranRest).mp ⟨along _ stepped, ended⟩
    · rintro ⟨sent, along⟩
      have kept := one.mpr sent
      have later := (ih kept ranRest).mpr (along next stepped)
      refine ⟨⟨symmetric, ?_⟩, later.2⟩
      intro other same
      obtain rfl := Option.some.inj (stepped.symm.trans same)
      exact later.1

/-- Over every run of the supervisor: the notifications come in whole rounds and a
connection is published only while a session is live, in every state reached,
exactly when no established session fails to send its captured packet or to flush
behind it. -/
theorem lifecycle_symmetric_iff (spkiOf : Bytes → Option Bytes) (cfg : MasqueConfig) (mtu : ℕ)
    (dev : NativeTun.TunRsDevice) (now : Instant) (inputs : List Input) (finish : Supervisor)
    (ran : Transition.run (step spkiOf cfg mtu) (start dev now) inputs = some finish) :
    (Transition.Along (step spkiOf cfg mtu) (fun s _ => Symmetric cfg s) (start dev now) inputs ∧
        Symmetric cfg finish) ↔
      Transition.Along (step spkiOf cfg mtu) PendingSent (start dev now) inputs :=
  run_symmetric_iff (start_symmetric dev now) ran

/-- An established session whose captured packet is sent and flushed. -/
theorem lifecycle_symmetric_iff_small :
    ∃ finish : Supervisor, live finish.stage = true ∧ Symmetric openLaunch.cfg finish := by
  have ran : (Transition.run (step (fun _ => none) openLaunch.cfg openLaunch.mtu)
      (start openLaunch.dev 0) (wakeInputs ++ establishInputs ++
        [.session (.offered 0 none [.accepted]), .session (.flushed 0 true false)])).any
      (fun s => live s.stage) = true := by decide
  obtain ⟨finish, finished, opened⟩ := Option.any_eq_true _ _ |>.mp ran
  have sent : Transition.Along (step (fun _ => none) openLaunch.cfg openLaunch.mtu) PendingSent
      (start openLaunch.dev 0) (wakeInputs ++ establishInputs ++
        [.session (.offered 0 none [.accepted]), .session (.flushed 0 true false)]) := by
    decide
  exact ⟨finish, opened,
    ((lifecycle_symmetric_iff _ _ _ _ _ _ finish finished).mpr sent).2⟩

/-- The wait for room fails while the captured packet is sent: the session returns
at once, and the connection stays published with its statistics task running. -/
theorem pending_failure_skips_cleanup :
    ¬ ∀ spkiOf cfg mtu dev now s,
      Transition.Reachable (step spkiOf cfg mtu) (start dev now) s → Symmetric cfg s := by
  intro symmetric
  obtain ⟨s, reached, found⟩ := execute_reaches (fun _ => none) openLaunch
    (wakeInputs ++ establishInputs ++
      [.session (.offered 0 none [.waited (some .udp)]), .proceed, .pathMtu allApplied])
    (fun s => decide (s.stage = .delay ∧ s.published = .connected 0)) (by decide)
  obtain ⟨delayed, shown⟩ := of_decide_eq_true found
  have closed : live s.stage = false := by rw [delayed]; rfl
  obtain ⟨latencies, -, published⟩ :=
    symmetric_closed (symmetric _ _ _ _ _ s reached) closed
  rw [shown] at published
  cases published

end Supervisor
end Usque
