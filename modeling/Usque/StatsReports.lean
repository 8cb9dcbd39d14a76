import Usque.DataLoopSteps

/-! The HTTP/3 statistics reports of a session (`start_h3_stats_report` and
`flush_h3_stats_report` in `api/masque.rs`). A report's body may take many iterations to get
out: each one offers what is left of it to quiche, which takes as much as flow control lets
through. An observer beside the pump notes what every stream has carried. -/
namespace Usque.DataLoop

open Packet Uplink Http3 NativeTun Timing

variable {a : LoopArgs} {s next : DataLoop a} {label : Label}

/-! ## The observer -/

/-- What a request stream has carried of the report it was opened for, and whether its end has
been sent. A report is given up when a write fails. -/
structure StatsStream where
  streamId : StreamId
  body : Bytes
  carried : Bytes := []
  ended : Bool := false
  givenUp : Bool := false
  deriving DecidableEq

/-- The stream of the report that is being sent is the last one opened. -/
def onLast (change : StatsStream → StatsStream) : List StatsStream → List StatsStream
  | [] => []
  | [stream] => [change stream]
  | stream :: more :: rest => stream :: onLast change (more :: rest)

/-- What `send_body` does on its stream with the part of the body it is offered: `fin` goes out
with the last byte of it and not before. -/
def carry (piece : Bytes) (answer : SendBodyAnswer) (stream : StatsStream) : StatsStream :=
  match answer with
  | .written size => { stream with
      carried := stream.carried ++ piece.take size
      ended := decide (size = piece.length) }
  | .done => stream
  | .failed => { stream with givenUp := true }

/-- A report that was not there before the stage has a stream of its own. -/
def withOpened (before opened : Option PendingH3StatsReport) (streams : List StatsStream) :
    List StatsStream :=
  match before, opened with
  | none, some report => streams ++ [{ streamId := report.streamId, body := report.body }]
  | _, _ => streams

/-- The streams quiche has opened so far for this session. -/
def openStreams (s : DataLoop a) : List StreamId := a.connectStreamId :: s.requests

/-- `send_request` opens a stream that was not there. -/
def opensNew (s : DataLoop a) (start : StartAnswer) : Bool :=
  ((s.startReport start).requests.drop s.requests.length).all fun streamId =>
    decide (streamId ∉ s.openStreams)

/-- The streams after the stage that starts and flushes reports; none where quiche would open
a stream again or take more than it is offered. -/
def observeReport (s : DataLoop a) (start : StartAnswer) (sent : SendBodyAnswer)
    (streams : List StatsStream) : Option (List StatsStream) :=
  let opened := s.startReport start
  let streams := withOpened s.pendingH3StatsReport opened.pendingH3StatsReport streams
  if s.opensNew start then
    match opened.pendingH3StatsReport with
    | none => some streams
    | some report =>
      let piece := report.body.drop report.written
      match sent with
      | .written size =>
        if size ≤ piece.length then some (onLast (carry piece sent) streams) else none
      | _ => some (onLast (carry piece sent) streams)
  else none

/-- The pump and what the observer has seen. -/
def observedStep (observed : DataLoop a × List StatsStream) (label : Label) :
    Option (DataLoop a × List StatsStream) := do
  let next ← step observed.1 label
  match label with
  | .pump (.reported start sent) =>
    let streams ← observeReport observed.1 start sent observed.2
    some (next, streams)
  | _ => some (next, observed.2)

/-! ## The last stream -/

variable {change : StatsStream → StatsStream} {streams earlier : List StatsStream}
  {stream : StatsStream}

@[simp] theorem onLast_append (change : StatsStream → StatsStream) (earlier : List StatsStream)
    (stream : StatsStream) : onLast change (earlier ++ [stream]) = earlier ++ [change stream] := by
  induction earlier with
  | nil => rfl
  | cons first rest ih =>
    cases rest with
    | nil => rfl
    | cons second others =>
      rw [List.cons_append, List.cons_append, onLast, List.cons_append]
      rw [List.cons_append] at ih
      rw [ih]

/-! ## The invariant -/

/-- A stream that nothing more is sent on: it has carried its whole body and its end, or a write
on it has failed. -/
def StatsStream.Settled (stream : StatsStream) : Prop :=
  stream.carried <+: stream.body ∧
    (stream.carried = stream.body ∧ stream.ended = true ∧ stream.givenUp = false ∨
      stream.ended = false ∧ stream.givenUp = true)

/-- All streams but that of the pending report are settled, and that one has carried what the
report counts as written. -/
structure Reporting (observed : DataLoop a × List StatsStream) : Prop where
  distinct : observed.1.openStreams.Nodup
  requests : observed.2.map StatsStream.streamId = observed.1.requests
  settled : observed.1.pendingH3StatsReport = none → ∀ stream ∈ observed.2, stream.Settled
  pending : ∀ report, observed.1.pendingH3StatsReport = some report →
    report.written ≤ report.body.length ∧
    ∃ earlier, (∀ stream ∈ earlier, stream.Settled) ∧
      observed.2 = earlier ++ [{
        streamId := report.streamId, body := report.body,
        carried := report.body.take report.written }]

/-- A step outside the report stage leaves reports and requests alone. -/
theorem step_reports (stepped : step s label = some next)
    (other : ∀ start sent, label ≠ .pump (.reported start sent)) :
    next.pendingH3StatsReport = s.pendingH3StatsReport ∧ next.requests = s.requests := by
  have flushed {onward : DataLoop a} (ok : Bool)
      (same : onward.pendingH3StatsReport = s.pendingH3StatsReport ∧ onward.requests = s.requests) :
      (s.flushQuic ok onward).pendingH3StatsReport = s.pendingH3StatsReport ∧
        (s.flushQuic ok onward).requests = s.requests := by
    cases ok with
    | true => exact same
    | false => exact ⟨rfl, rfl⟩
  cases (step_called stepped).2 with
  | batch inSelect batches count here fits =>
    obtain ⟨-, shape⟩ | ⟨size, received, -, -, ⟨-, shape⟩ | ⟨-, shape⟩ | ⟨-, shape⟩⟩ :=
      receiveBatch_cases s inSelect batches count <;> rw [shape] <;> exact ⟨rfl, rfl⟩
  | flushReceived ok here => exact flushed ok ⟨rfl, rfl⟩
  | flushReport ok here => exact flushed ok ⟨rfl, rfl⟩
  | flushTx ok here => exact flushed ok ⟨rfl, rfl⟩
  | flushTimers ok here => exact flushed ok ⟨rfl, rfl⟩
  | polled polls bodies here =>
    unfold pollTunnel
    split <;> exact ⟨rfl, rfl⟩
  | reported start sent here => exact absurd rfl (other start sent)
  | pathMtu pmtu writable readable answers here =>
    obtain shape | shape | ⟨tunMtu, -, shape | ⟨error, shape⟩⟩ :=
      applyPmtu_cases s pmtu writable readable answers <;> rw [shape] <;> exact ⟨rfl, rfl⟩
  | drainTx taken here =>
    obtain ⟨up, -, shape⟩ | ⟨up, -, shape⟩ | shape := drainTx_cases s taken <;> rw [shape] <;>
      exact ⟨rfl, rfl⟩
  | popTx here idle =>
    obtain ⟨up, -, shape⟩ | shape := popTx_cases s <;> rw [shape] <;> exact ⟨rfl, rfl⟩
  | checked closed here =>
    obtain shape | ⟨-, shape⟩ | ⟨-, shape⟩ | ⟨-, shape⟩ := checkLoop_cases s closed <;> rw [shape] <;>
      exact ⟨rfl, rfl⟩
  | readable ok timeout due since here => cases ok <;> exact ⟨rfl, rfl⟩
  | slept probed rearmed timeout due since here waited =>
    obtain ⟨quicDeadline, counts, keepalive, revalidation, appliedPmtu, stage, shape⟩ :=
      runTimers_shape s due probed rearmed
    rw [shape]
    exact ⟨rfl, rfl⟩
  | reader | tick | rearm | drained | returnIcmp | settled | pulled | noticed => exact ⟨rfl, rfl⟩

/-- A report is opened only when none is pending, with nothing written yet. -/
theorem startReport_cases (s : DataLoop a) (start : StartAnswer) :
    ((s.startReport start).pendingH3StatsReport = s.pendingH3StatsReport ∧
      (s.startReport start).requests = s.requests) ∨
    (s.pendingH3StatsReport = none ∧ ∃ report : PendingH3StatsReport, report.written = 0 ∧
      (s.startReport start).pendingH3StatsReport = some report ∧
      (s.startReport start).requests = s.requests ++ [report.streamId]) := by
  unfold startReport
  split
  · next due =>
    simp only [Bool.and_eq_true, Option.isNone_iff_eq_none] at due
    have idle := due.1.2
    cases start with
    | noPath | failed => exact .inl ⟨idle.symm, List.append_nil _⟩
    | opened streamId body => exact .inr ⟨idle, ⟨streamId, body, 0⟩, rfl, rfl, rfl⟩
  · exact .inl ⟨rfl, rfl⟩

/-- The stream of a pending report. -/
def streamOf (report : PendingH3StatsReport) : StatsStream :=
  { streamId := report.streamId, body := report.body, carried := report.body.take report.written }

theorem streamOf_prefix (report : PendingH3StatsReport) :
    (streamOf report).carried <+: (streamOf report).body := List.take_prefix _ _

/-- A write goes on where the stream ends, and the report is over exactly when its body is out
or a write has failed. -/
theorem flush_stream {report : PendingH3StatsReport} {answer : SendBodyAnswer}
    (within : report.written ≤ report.body.length)
    (offered : ∀ size, answer = .written size → size ≤ (report.body.drop report.written).length) :
    let after := carry (report.body.drop report.written) answer (streamOf report)
    (flushH3StatsReport report answer = none ∧ after.Settled) ∨
      ∃ left, flushH3StatsReport report answer = some left ∧
        left.written ≤ left.body.length ∧ after = streamOf left := by
  cases answer with
  | written size =>
    have fits := offered size rfl
    rw [List.length_drop] at fits
    have last : report.written + size = report.body.length ↔
        size = report.body.length - report.written := by omega
    have joined : report.body.take report.written ++ (report.body.drop report.written).take size =
        report.body.take (report.written + size) := List.take_add.symm
    simp only [flushH3StatsReport, carry, streamOf, joined, List.length_drop]
    split
    · next complete =>
      rw [complete, List.take_length]
      exact .inl ⟨rfl, List.prefix_rfl, .inl ⟨rfl, decide_eq_true (last.mp complete), rfl⟩⟩
    · next short =>
      refine .inr ⟨_, rfl, by simp only; omega, ?_⟩
      rw [decide_eq_false (fun same => short (last.mpr same))]
  | done => exact .inr ⟨report, rfl, within, rfl⟩
  | failed => exact .inl ⟨rfl, streamOf_prefix report, .inr ⟨rfl, rfl⟩⟩

/-- What the observer notes: the opening, on a stream of its own, and what the stage then writes
of the pending report. -/
theorem observeReport_eq_some {start : StartAnswer} {sent : SendBodyAnswer} {after : List StatsStream}
    (observed : s.observeReport start sent streams = some after) :
    s.opensNew start = true ∧
      ((s.startReport start).pendingH3StatsReport = none ∧
          after = withOpened s.pendingH3StatsReport none streams ∨
        ∃ report, (s.startReport start).pendingH3StatsReport = some report ∧
          (∀ size, sent = .written size → size ≤ (report.body.drop report.written).length) ∧
          after = onLast (carry (report.body.drop report.written) sent)
            (withOpened s.pendingH3StatsReport (some report) streams)) := by
  unfold observeReport at observed
  dsimp only at observed
  split at observed
  case isFalse => cases observed
  case isTrue fresh =>
    refine ⟨fresh, ?_⟩
    cases started : (s.startReport start).pendingH3StatsReport with
    | none =>
      rw [started] at observed
      exact .inl ⟨rfl, (Option.some.inj observed).symm⟩
    | some report =>
      rw [started] at observed
      refine .inr ⟨report, rfl, ?_⟩
      cases sent with
      | written size =>
        simp only at observed
        split at observed
        · next fits =>
          refine ⟨fun _ same => ?_, (Option.some.inj observed).symm⟩
          cases same
          exact fits
        · cases observed
      | done => exact ⟨fun _ other => (nomatch other), (Option.some.inj observed).symm⟩
      | failed => exact ⟨fun _ other => (nomatch other), (Option.some.inj observed).symm⟩

/-- A new stream is none of those there are. -/
theorem startReport_distinct {start : StartAnswer} (distinct : s.openStreams.Nodup)
    (opens : s.opensNew start = true) : (s.startReport start).openStreams.Nodup := by
  obtain ⟨-, requests⟩ | ⟨-, report, -, -, requests⟩ := startReport_cases s start
  · rw [openStreams, requests]
    exact distinct
  · rw [opensNew, requests, List.drop_left, List.all_cons, List.all_nil, Bool.and_true,
      decide_eq_true_eq] at opens
    rw [openStreams, requests, ← List.cons_append]
    exact List.nodup_append.mpr ⟨distinct, List.nodup_singleton _, fun streamId before other member =>
      fun same => opens (List.mem_singleton.mp member ▸ same ▸ before)⟩

/-- A report that is opened has its stream behind the settled ones. -/
theorem startReport_reporting {start : StartAnswer} (reporting : Reporting (s, streams))
    (opens : s.opensNew start = true) :
    Reporting (s.startReport start, withOpened s.pendingH3StatsReport
      (s.startReport start).pendingH3StatsReport streams) := by
  have distinct := startReport_distinct reporting.distinct opens
  obtain ⟨pending, requests⟩ | ⟨idle, report, fresh, pending, requests⟩ := startReport_cases s start
  · have same (now : Option PendingH3StatsReport) : withOpened now now streams = streams := by
      cases now <;> rfl
    rw [pending, same]
    exact ⟨distinct, requests.symm ▸ reporting.requests,
      fun none => reporting.settled (pending ▸ none),
      fun report there => reporting.pending report (pending ▸ there)⟩
  · rw [idle, pending]
    refine ⟨distinct, ?_, fun none => (nomatch pending.symm.trans none), fun other there => ?_⟩
    · simp only [withOpened, List.map_append, List.map_cons, List.map_nil, requests]
      rw [reporting.requests]
    · cases pending.symm.trans there
      refine ⟨fresh ▸ Nat.zero_le _, streams, reporting.settled idle, ?_⟩
      simp only [withOpened, fresh, List.take_zero]

/-- A flush carries more of the pending report and settles its stream once it is over. -/
theorem flush_reporting {report : PendingH3StatsReport} {sent : SendBodyAnswer}
    (reporting : Reporting (s, streams)) (pending : s.pendingH3StatsReport = some report)
    (offered : ∀ size, sent = .written size → size ≤ (report.body.drop report.written).length) :
    Reporting ({ s with
        stage := .flushReport
        pendingH3StatsReport := flushH3StatsReport report sent },
      onLast (carry (report.body.drop report.written) sent) streams) := by
  obtain ⟨within, earlier, settled, last⟩ := reporting.pending report pending
  have shape : streams = earlier ++ [streamOf report] := last
  have ids := reporting.requests
  have carriedId : (carry (report.body.drop report.written) sent (streamOf report)).streamId =
      (streamOf report).streamId := by cases sent <;> rfl
  rw [shape] at ids ⊢
  rw [onLast_append]
  have requests : (earlier ++ [carry (report.body.drop report.written) sent (streamOf report)]).map
      StatsStream.streamId = s.requests := by
    rw [← ids]
    simp only [List.map_append, List.map_cons, List.map_nil, carriedId]
  obtain ⟨ended, done⟩ | ⟨left, goesOn, inside, same⟩ := flush_stream within offered
  · refine ⟨reporting.distinct, requests, fun _ => ?_, fun other there => nomatch ended.symm.trans there⟩
    intro stream member
    rcases List.mem_append.mp member with before | here
    · exact settled stream before
    · rw [List.mem_singleton.mp here]
      exact done
  · refine ⟨reporting.distinct, requests, fun none => (nomatch goesOn.symm.trans none),
      fun other there => ?_⟩
    cases goesOn.symm.trans there
    refine ⟨inside, earlier, settled, ?_⟩
    simp only [same]
    rfl

/-- The stage that starts and flushes reports. -/
theorem report_reporting {start : StartAnswer} {sent : SendBodyAnswer} {after : List StatsStream}
    (reporting : Reporting (s, streams))
    (observed : s.observeReport start sent streams = some after) :
    Reporting (s.reportStats start sent, after) := by
  obtain ⟨opens, ⟨idle, rfl⟩ | ⟨report, pending, offered, rfl⟩⟩ := observeReport_eq_some observed
  · have started := startReport_reporting reporting opens
    have shape : s.reportStats start sent = { s.startReport start with stage := .applyPmtu } := by
      unfold reportStats
      simp only [idle]
    rw [idle] at started
    rw [shape]
    exact ⟨started.distinct, started.requests, started.settled, started.pending⟩
  · have started := startReport_reporting reporting opens
    have shape : s.reportStats start sent = { s.startReport start with
        stage := .flushReport
        pendingH3StatsReport := flushH3StatsReport report sent } := by
      unfold reportStats
      simp only [pending]
    rw [pending] at started
    rw [shape]
    exact flush_reporting started pending offered

theorem observedStep_reporting {observed after : DataLoop a × List StatsStream}
    (reporting : Reporting observed) (stepped : observedStep observed label = some after) :
    Reporting after := by
  obtain ⟨s, streams⟩ := observed
  obtain ⟨next, moved, noted⟩ := Option.bind_eq_some_iff.mp stepped
  have others (other : ∀ start sent, label ≠ .pump (.reported start sent)) :
      Reporting (next, streams) := by
    obtain ⟨pending, requests⟩ := step_reports moved other
    have same : next.openStreams = s.openStreams := by rw [openStreams, openStreams, requests]
    exact ⟨same ▸ reporting.distinct, requests.symm ▸ reporting.requests,
      fun none => reporting.settled (pending ▸ none),
      fun report there => reporting.pending report (pending ▸ there)⟩
  cases label with
  | reader | tick | rearm =>
    cases noted
    exact others nofun
  | pump input =>
    cases input with
    | reported start sent =>
      obtain ⟨list, seen, same⟩ := Option.bind_eq_some_iff.mp noted
      cases same
      cases (step_called moved).2 with
      | reported _ _ here => exact report_reporting reporting seen
    | batch | flushed | polled | drained | pathMtu | proceed | settled | checked | readable
    | received | slept =>
      cases noted
      exact others nofun

/-- In every run of a session the requests opened for statistics are exactly the observed
streams, none of them opened twice or for the tunnel; each carries a prefix of the one body it was
opened for, each byte once and in order, whatever the write sizes. A report that is not pending has
carried its whole body and then its end, unless a write has failed, which drops it without an end;
only the last one opened can be pending, with no end sent and what is left of its body to come. -/
theorem stats_streams_carry_their_reports (a : LoopArgs) (stats : TxStats) (device : TunRsDevice)
    (now : Instant) (quicDeadline : Option Instant) {entered s : DataLoop a}
    {streams : List StatsStream} (started : start a stats device now quicDeadline = some entered)
    (reached : Transition.Reachable observedStep (entered, []) (s, streams)) :
    streams.map StatsStream.streamId = s.requests ∧
      (a.connectStreamId :: streams.map StatsStream.streamId).Nodup ∧
      (∀ stream ∈ streams, stream.carried <+: stream.body) ∧
      (s.pendingH3StatsReport = none → ∀ stream ∈ streams, stream.Settled) ∧
      ∀ report, s.pendingH3StatsReport = some report → ∃ earlier last, streams = earlier ++ [last] ∧
        (∀ stream ∈ earlier, stream.Settled) ∧ last.streamId = report.streamId ∧
        last.body = report.body ∧ last.carried ++ report.body.drop report.written = report.body ∧
        last.ended = false ∧ last.givenUp = false := by
  obtain ⟨free, -, entry⟩ := start_eq a stats device now quicDeadline
  obtain rfl := Option.some.inj (started.symm.trans entry)
  have first : Reporting (enter (fresh free stats) device now quicDeadline, []) := by
    refine ⟨List.nodup_singleton a.connectStreamId, rfl,
      fun _ _ member => absurd member List.not_mem_nil, ?_⟩
    intro report there
    cases there
  have reporting : Reporting (s, streams) :=
    reached.invariant Reporting
      (fun _ _ _ reporting stepped => observedStep_reporting reporting stepped) first
  refine ⟨reporting.requests, ?_, ?_, reporting.settled, ?_⟩
  · rw [reporting.requests]
    exact reporting.distinct
  · cases pending : s.pendingH3StatsReport with
    | none => exact fun stream member => (reporting.settled pending stream member).1
    | some report =>
      obtain ⟨-, earlier, settled, shape⟩ := reporting.pending report pending
      intro stream member
      rw [show streams = _ from shape] at member
      rcases List.mem_append.mp member with before | here
      · exact (settled stream before).1
      · rw [List.mem_singleton.mp here]
        exact List.take_prefix _ _
  · intro report pending
    obtain ⟨-, earlier, settled, shape⟩ := reporting.pending report pending
    exact ⟨earlier, _, shape, settled, rfl, rfl, List.take_append_drop _ _, rfl, rfl⟩

/-! ## A report in two pieces -/

/-- A mesh node's loop. -/
def reportingArgs : LoopArgs := { smallArgs with reportH3Stats := true }

/-- The first iteration's report: quiche takes two of its three bytes. -/
def partialReport : List Label :=
  [.pump (.batch (some 0)), .pump (.flushed true), .pump (.polled [] []), .pump (.drained []),
    .pump (.reported (.opened 4 [1, 2, 3]) (.written 2))]

theorem stats_streams_carry_their_reports_partial :
    ∃ s streams, s.requests = [4] ∧
      streams.map StatsStream.streamId = (s : DataLoop reportingArgs).requests ∧
      streams = [{ streamId := 4, body := [1, 2, 3], carried := [1, 2] }] := by
  obtain ⟨free, -, started⟩ := start_eq reportingArgs {} smallDevice 0 none
  have ran : ∃ s, Transition.run observedStep
      (enter (a := reportingArgs) (fresh free {}) smallDevice 0 none, []) partialReport =
        some (s, [{ streamId := 4, body := [1, 2, 3], carried := [1, 2] }]) ∧ s.requests = [4] := by
    refine ⟨{ enter (a := reportingArgs) (fresh free {}) smallDevice 0 none with
      stage := .flushReport
      lastH3StatsReport := 0
      pendingH3StatsReport := some ⟨4, [1, 2, 3], 2⟩
      requests := [4] }, ?_, rfl⟩
    iterate 4 refine Transition.run_cons_iff.mpr ⟨_, rfl, ?_⟩
    rfl
  obtain ⟨s, reached, opened⟩ := ran
  exact ⟨s, _, opened, (stats_streams_carry_their_reports reportingArgs {} smallDevice 0 none started
    ⟨partialReport, reached⟩).1, rfl⟩

end Usque.DataLoop
