import Usque.DeviceState

/-! What the reporter tells about a session. A sample lives in the metrics cell only
between the session's entry into the pump and the first half of its `disconnected()`,
so whatever the reporter finds there belongs to the running session, and the state it
read before was published by that session or an earlier one. -/
namespace Usque

namespace Session

variable {spkiOf : Bytes → Option Bytes} {cfg : MasqueConfig} {endpoint : MasqueEndpoint}
  {mtu : ℕ} {s next : Session} {input : Input}

/-- The pump is left for the cleanup only. -/
theorem pump_step {a : LoopArgs} {loop : DataLoop a} (here : s.stage = .pump a loop)
    (stepped : step spkiOf cfg endpoint mtu s input = some next) :
    (∃ a loop, next.stage = .pump a loop) ∨ ∃ error, next.stage = .cleanup error := by
  cases input with
  | proceed =>
    simp only [step, here] at stepped
    split at stepped
    · cases stepped
      exact .inr ⟨_, rfl⟩
    · cases stepped
  | pump label =>
    simp only [step, here, Option.map_eq_some_iff] at stepped
    obtain ⟨after, -, rfl⟩ := stepped
    exact .inl ⟨a, after, rfl⟩
  | pass timeout arrival =>
    simp only [step, here] at stepped
    split at stepped <;> cases stepped
  | setUp | established | flushed | certificate | requested | polled | offered | entered =>
    simp only [step, here] at stepped
    cases stepped

end Session

namespace Monitored

open DeviceState
open RunTunnel (openLaunch)
open Supervisor (inSession wakeInputs establishInputs)

/-- A session between its entry into the pump and the end of its cleanup. -/
def metering (stage : Supervisor.Stage) : Bool := (loopStage stage).isSome || cleaning stage

variable {spkiOf : Bytes → Option Bytes} {cfg : MasqueConfig} {mtu : ℕ}
  {reporterCfg : ReporterConfig} {s next : Monitored} {label : Label}

theorem metering_inSession {stage : Supervisor.Stage} (metered : metering stage = true) :
    inSession stage = true := by
  cases stage with
  | session position => rfl
  | prepare | wait | connect | withdraw | delay | returned => cases metered

/-- A session in the pump stays there or goes on to its cleanup. -/
theorem supervise_metering {sup after : Supervisor} {input : Supervisor.Input}
    (metered : (loopStage sup.stage).isSome = true)
    (stepped : Supervisor.step spkiOf cfg mtu sup input = some after) :
    metering after.stage = true := by
  cases Supervisor.step_called stepped with
  | session input position endpoint session here found moved =>
    rw [here] at metered
    cases pumping : position.stage with
    | pump a loop =>
      rcases Session.pump_step (s := ⟨position, sup.toWorld⟩) pumping moved with
        ⟨a, loop, there⟩ | ⟨error, there⟩ <;>
        simp [metering, Supervisor.adopt, loopStage, cleaning, there]
    | _ => simp [loopStage, pumping] at metered
  | prepare answers here => rw [here] at metered; cases metered
  | withdraw answers established here => rw [here] at metered; cases metered
  | received took packet here fits => rw [here] at metered; cases metered
  | connect here => rw [here] at metered; cases metered
  | finish position error here ended => simp [here, loopStage, ended] at metered
  | slept took here waited => rw [here] at metered; cases metered

theorem passesCheck_pumps {before after : Supervisor.Stage}
    (passed : passesCheck before after = true) :
    (loopStage before).isSome = true ∧ (loopStage after).isSome = true := by
  simp only [passesCheck, Bool.and_eq_true, beq_iff_eq] at passed
  obtain ⟨checking, onward⟩ := passed
  rw [checking]
  refine ⟨rfl, ?_⟩
  cases there : loopStage after with
  | none => rw [there] at onward; cases onward
  | some stage => rfl

/-- A sample comes from the pump's check; every other step keeps the cell. -/
theorem follow_metrics (s : Monitored) (after : Supervisor) (sample : Option TunnelMetrics) :
    (s.follow cfg after sample).metrics = s.metrics ∨
      (cfg.deviceState = true ∧ passesCheck s.sup.stage after.stage = true ∧
        ∃ taken, (s.follow cfg after sample).metrics = some (taken, s.sessions)) := by
  unfold follow
  dsimp only
  split
  · rename_i sampling
    simp only [Bool.and_eq_true] at sampling
    cases sample with
    | none => exact .inl rfl
    | some taken => exact .inr ⟨sampling.1, sampling.2.1, taken, rfl⟩
  · exact .inl rfl

/-- What a report may say: nothing about a tunnel when it is disconnected, and otherwise
only what a sample of the state's session, or of a later one, shows. -/
def TruthfulReport (report : Report) : Prop :=
  (report.payload.status = "Disconnected" →
    report.payload.handshakeLatencyMs = none ∧ report.payload.estimatedLoss = none ∧
      report.payload.tunnelStatsUpstream = none ∧
      report.payload.tunnelStatsDownstream = none) ∧
  (report.payload.status = "Connected" →
    (report.payload.estimatedLoss = none ∧ report.payload.tunnelStatsUpstream = none ∧
      report.payload.tunnelStatsDownstream = none) ∨
    ∃ sample sampledIn, report.sample = some (sample, sampledIn) ∧
      report.publishedIn ≤ sampledIn ∧
      report.payload.estimatedLoss = estimatedLoss sample ∧
      report.payload.tunnelStatsUpstream = some (upstreamStats sample) ∧
      report.payload.tunnelStatsDownstream = some (downstreamStats sample))

/-- A sample is there only during the session that took it, and no state is newer than
the running session. -/
structure Truthful (cfg : MasqueConfig) (s : Monitored) : Prop where
  metered : ∀ sample sampledIn, s.metrics = some (sample, sampledIn) →
    cfg.deviceState = true ∧ metering s.sup.stage = true ∧ s.cleared = false ∧
      sampledIn = s.sessions
  published : s.publishedIn ≤ s.sessions
  holding : ∀ state publishedIn, s.reporter = .holding state publishedIn →
    publishedIn ≤ s.sessions
  reports : ∀ report ∈ s.reports, TruthfulReport report

/-- What the reporter builds from its two reads. -/
theorem collect_truthful (truthful : Truthful cfg s) {state : ConnectionState} {publishedIn : ℕ}
    (resting : s.reporter = .holding state publishedIn) (timestamp : String)
    (host : HostSnapshot) :
    TruthfulReport ⟨buildPayload reporterCfg timestamp state (s.metrics.map Prod.fst) host,
      publishedIn, s.metrics⟩ := by
  cases state with
  | disconnected =>
    have bare := disconnected_payload_bare reporterCfg timestamp (s.metrics.map Prod.fst) host
    exact ⟨fun _ => bare.2, fun connected => by simp [buildPayload] at connected⟩
  | connected latencyMs =>
    obtain ⟨-, loss, upstream, downstream⟩ :=
      connected_payload_stats reporterCfg timestamp latencyMs (s.metrics.map Prod.fst) host
    refine ⟨fun disconnected => by simp [buildPayload] at disconnected, fun _ => ?_⟩
    rw [loss, upstream, downstream]
    cases found : s.metrics with
    | none => exact .inl ⟨rfl, rfl, rfl⟩
    | some cell =>
      obtain ⟨sample, sampledIn⟩ := cell
      obtain ⟨-, -, -, current⟩ := truthful.metered sample sampledIn found
      have newer : publishedIn ≤ sampledIn := by
        rw [current]
        exact truthful.holding _ _ resting
      exact .inr ⟨sample, sampledIn, rfl, newer, rfl, rfl, rfl⟩

/-- The session task's steps. A new session begins only where the cell is empty. -/
theorem supervise_truthful (truthful : Truthful cfg s) {input : Supervisor.Input}
    {after : Supervisor} (sample : Option TunnelMetrics)
    (ready : (cfg.deviceState && cleaning s.sup.stage && !s.cleared) = false)
    (stepped : Supervisor.step spkiOf cfg mtu s.sup input = some after) :
    Truthful cfg (s.follow cfg after sample) := by
  have grows : s.sessions ≤ (s.follow cfg after sample).sessions := by
    unfold follow
    dsimp only
    split <;> omega
  have current (inside : inSession s.sup.stage = true) :
      (s.follow cfg after sample).sessions = s.sessions := by
    simp [follow, inside]
  refine ⟨?_, ?_, ?_, truthful.reports⟩
  · intro taken sampledIn found
    rcases follow_metrics s after sample with kept | ⟨reporting, passed, newer, written⟩
    · -- the cell was written before, by the running session
      rw [kept] at found
      obtain ⟨reporting, metered, uncleared, same⟩ := truthful.metered taken sampledIn found
      have uncleaned : cleaning s.sup.stage = false := by
        simpa [reporting, uncleared] using ready
      have pumps : (loopStage s.sup.stage).isSome = true := by
        simpa [metering, uncleaned] using metered
      refine ⟨reporting, supervise_metering pumps stepped, rfl, ?_⟩
      rw [current (metering_inSession metered)]
      exact same
    · obtain ⟨before, behind⟩ := passesCheck_pumps passed
      have inside : inSession s.sup.stage = true :=
        metering_inSession (by rw [metering, before]; rfl)
      rw [written] at found
      cases found
      refine ⟨reporting, ?_, rfl, (current inside).symm⟩
      show metering after.stage = true
      rw [metering, behind]
      rfl
  · unfold follow
    dsimp only
    have published := truthful.published
    split <;> split <;> omega
  · intro state publishedIn resting
    exact (truthful.holding state publishedIn resting).trans grows

/-- The state that the reporter takes along was published by the running session at latest. -/
private theorem read_truthful (truthful : Truthful cfg s) (unseen : Bool) :
    Truthful cfg
      { s with reporter := .holding s.sup.published s.publishedIn, unseen := unseen } := by
  refine ⟨truthful.metered, truthful.published, ?_, truthful.reports⟩
  intro state publishedIn resting
  cases resting
  exact truthful.published

theorem step_truthful (truthful : Truthful cfg s)
    (stepped : step spkiOf cfg mtu reporterCfg s label = some next) : Truthful cfg next := by
  cases label with
  | supervise input sample =>
    simp only [step] at stepped
    split at stepped
    · cases stepped
    · rename_i ready
      obtain ⟨after, moved, rfl⟩ := Option.map_eq_some_iff.mp stepped
      exact supervise_truthful truthful sample (Bool.eq_false_iff.mpr ready) moved
  | clearMetrics =>
    simp only [step] at stepped
    split at stepped <;> cases stepped
    exact ⟨nofun, truthful.published, truthful.holding, truthful.reports⟩
  | tick =>
    simp only [step] at stepped
    split at stepped <;> cases stepped
    exact read_truthful truthful s.unseen
  | changed =>
    simp only [step] at stepped
    split at stepped <;> cases stepped
    exact read_truthful truthful false
  | collect timestamp host =>
    simp only [step] at stepped
    split at stepped <;> cases stepped
    rename_i state publishedIn resting
    refine ⟨truthful.metered, truthful.published, nofun, ?_⟩
    intro report member
    rcases List.mem_append.mp member with earlier | added
    · exact truthful.reports report earlier
    · cases List.mem_singleton.mp added
      exact collect_truthful truthful resting timestamp host
  | sent =>
    simp only [step] at stepped
    split at stepped <;> cases stepped
    exact ⟨truthful.metered, truthful.published, nofun, truthful.reports⟩

theorem start_truthful (dev : NativeTun.TunRsDevice) (now : Instant) :
    Truthful cfg (start dev now) where
  metered := by
    intro sample sampledIn found
    cases found
  published := le_rfl
  holding := by
    intro state publishedIn resting
    cases resting
  reports := by
    intro report member
    cases member

/-- Over every interleaving of the session task with the reporter: a disconnected payload
carries no latency, no loss and no tunnel statistics, and what a connected one carries
was sampled in the session that published the state or in a later one. -/
theorem reports_truthful (spkiOf : Bytes → Option Bytes) (cfg : MasqueConfig) (mtu : ℕ)
    (reporterCfg : ReporterConfig) (dev : NativeTun.TunRsDevice) (now : Instant)
    (labels : List Label) (finish : Monitored)
    (ran : Transition.run (step spkiOf cfg mtu reporterCfg) (start dev now) labels =
      some finish) :
    ∀ report ∈ finish.reports, TruthfulReport report :=
  (Transition.run_preserves (Truthful cfg) (fun _ _ _ truthful stepped =>
    step_truthful truthful stepped) (start_truthful dev now) ran).reports

def smallReporter : ReporterConfig :=
  ⟨"account", "registration", "", "account.cloudflare-gateway.com", "default", false, true, "1.0.0"⟩

def smallSample : TunnelMetrics := ⟨.v4 ⟨0⟩, 16000, some 12000, 1500, 100, 200, 2, 1, 10000, 20000, 240, 120⟩

/-- From the start to the check behind the first iteration of the pump. -/
def serveInputs : List Supervisor.Input :=
  wakeInputs ++ establishInputs ++ [.session (.offered 0 none [.accepted]),
    .session (.flushed 0 true false), .session (.entered none)] ++
    (DataLoop.idleLabels ++ DataLoop.popLabels).map fun label => .session (.pump label)

/-- The reporter reads the state of a session and then the sample it has taken. -/
theorem reports_truthful_small :
    ∃ report : Report, TruthfulReport report ∧
      report.payload.tunnelStatsUpstream = some (upstreamStats smallSample) := by
  have ran : (Transition.run (step (fun _ => none) openLaunch.cfg openLaunch.mtu smallReporter)
      (start openLaunch.dev 0) (serveInputs.map (Label.supervise · none) ++ [.tick,
        .supervise (.session (.pump (.pump (.checked false)))) (some smallSample),
        .collect "now" {}])).any (fun s => s.reports.any fun report =>
        decide (report.payload.tunnelStatsUpstream = some (upstreamStats smallSample))) = true := by
    decide
  obtain ⟨finish, finished, found⟩ := Option.any_eq_true _ _ |>.mp ran
  obtain ⟨report, member, sampled⟩ := List.any_eq_true.mp found
  exact ⟨report, reports_truthful _ _ _ _ _ _ _ finish finished report member,
    of_decide_eq_true sampled⟩

end Monitored
end Usque
