import Usque.Timing

/-! The HTTP/3 side of an established session (`api/masque.rs`): the event poll
that watches the CONNECT-IP stream, and the mesh statistics report. The answers
of `h3_conn.poll` and of `recv_body` are two scripts, consumed in call order; a
script that has run out answers `Done`. -/
namespace Usque.Http3

abbrev StreamId := UInt64

/-- One answer of `h3_conn.poll`. -/
inductive PollAnswer where
  | headers (streamId : StreamId) (list : List (Bytes × Bytes))
  | data (streamId : StreamId)
  | finished (streamId : StreamId)
  | reset (streamId : StreamId) (code : UInt64)
  /-- Any further event. -/
  | other (streamId : StreamId)
  | done
  | error (message : String)
  deriving DecidableEq

/-- One answer of `recv_body`. -/
inductive BodyAnswer where
  | read (size : ℕ)
  | done
  | error (message : String)
  deriving DecidableEq

inductive H3StreamTermination where
  | finished
  | reset (code : UInt64)
  deriving DecidableEq

def connectIpTerminationReason (connectStreamId streamId : StreamId)
    (termination : H3StreamTermination) : Option String :=
  if streamId ≠ connectStreamId then none
  else some (match termination with
    | .finished =>
      s!"CONNECT-IP request stream {streamId} finished; " ++
        "the associated RFC 9484 tunnel is closed"
    | .reset code =>
      s!"CONNECT-IP request stream {streamId} was reset by the peer with HTTP/3 error code " ++
        s!"{code} (0x{String.ofList (Nat.toDigits 16 code.toNat)}); " ++
        "the associated RFC 9484 tunnel is closed")

/-- The inner loop of a `Data` event: bodies are read until nothing is left. -/
def drainBody : List BodyAnswer → List BodyAnswer
  | .read size :: rest => if size = 0 then rest else drainBody rest
  | .done :: rest => rest
  | .error _ :: rest => rest
  | [] => []

/-- `poll_h3`: the result and both scripts as it leaves them. -/
def pollH3 (connectStreamId : StreamId) :
    List PollAnswer → List BodyAnswer → Except String Unit × List PollAnswer × List BodyAnswer
  | [], bodies => (.ok (), [], bodies)
  | .headers _ _ :: rest, bodies => pollH3 connectStreamId rest bodies
  | .data _ :: rest, bodies => pollH3 connectStreamId rest (drainBody bodies)
  | .finished streamId :: rest, bodies =>
    match connectIpTerminationReason connectStreamId streamId .finished with
    | some reason => (.error reason, rest, bodies)
    | none => pollH3 connectStreamId rest bodies
  | .reset streamId code :: rest, bodies =>
    match connectIpTerminationReason connectStreamId streamId (.reset code) with
    | some reason => (.error reason, rest, bodies)
    | none => pollH3 connectStreamId rest bodies
  | .other _ :: rest, bodies => pollH3 connectStreamId rest bodies
  | .done :: rest, bodies => (.ok (), rest, bodies)
  | .error message :: rest, bodies => (.error s!"HTTP/3 poll failed: {message}", rest, bodies)

/-- The answers that close the tunnel of this CONNECT stream. -/
def Closes (connectStreamId : StreamId) : PollAnswer → Prop
  | .finished streamId | .reset streamId _ => streamId = connectStreamId
  | .error _ => True
  | .headers _ _ | .data _ | .other _ | .done => False

variable {connectStreamId : StreamId} {polls : List PollAnswer} {bodies : List BodyAnswer}

theorem termination_foreign {streamId : StreamId} (foreign : streamId ≠ connectStreamId)
    (termination : H3StreamTermination) :
    connectIpTerminationReason connectStreamId streamId termination = none := if_pos foreign

theorem termination_own (streamId : StreamId) (termination : H3StreamTermination) :
    ∃ reason, connectIpTerminationReason streamId streamId termination = some reason :=
  ⟨_, if_neg (by simp)⟩

/-- An answer that neither closes the tunnel nor ends the poll is consumed, and
the poll goes on behind it. -/
theorem pollH3_consumes {answer : PollAnswer} (foreign : ¬ Closes connectStreamId answer)
    (more : answer ≠ .done) (rest : List PollAnswer) (bodies : List BodyAnswer) :
    ∃ left, pollH3 connectStreamId (answer :: rest) bodies = pollH3 connectStreamId rest left := by
  cases answer with
  | headers streamId list => exact ⟨bodies, rfl⟩
  | data streamId => exact ⟨drainBody bodies, rfl⟩
  | other streamId => exact ⟨bodies, rfl⟩
  | done => exact absurd rfl more
  | error message => exact absurd trivial foreign
  | finished streamId =>
    exact ⟨bodies, by simp only [pollH3, termination_foreign foreign]⟩
  | reset streamId code =>
    exact ⟨bodies, by simp only [pollH3, termination_foreign foreign]⟩

/-- A whole run of such answers is consumed. -/
theorem pollH3_consumes_all {before : List PollAnswer}
    (foreign : ∀ answer ∈ before, ¬ Closes connectStreamId answer ∧ answer ≠ .done)
    (after : List PollAnswer) (bodies : List BodyAnswer) :
    ∃ left, pollH3 connectStreamId (before ++ after) bodies =
      pollH3 connectStreamId after left := by
  induction before generalizing bodies with
  | nil => exact ⟨bodies, rfl⟩
  | cons answer rest ih =>
    obtain ⟨here, others⟩ := List.forall_mem_cons.mp foreign
    obtain ⟨middle, passed⟩ := pollH3_consumes here.1 here.2 (rest ++ after) bodies
    obtain ⟨left, drained⟩ := ih others middle
    exact ⟨left, passed.trans drained⟩

/-- A closing answer ends the poll with an error. -/
theorem pollH3_closes {answer : PollAnswer} (closes : Closes connectStreamId answer)
    (rest : List PollAnswer) (bodies : List BodyAnswer) :
    ∃ message, (pollH3 connectStreamId (answer :: rest) bodies).1 = .error message := by
  cases answer with
  | headers streamId list => exact closes.elim
  | data streamId => exact closes.elim
  | other streamId => exact closes.elim
  | done => exact closes.elim
  | error message => exact ⟨_, rfl⟩
  | finished streamId =>
    obtain rfl : streamId = connectStreamId := closes
    obtain ⟨reason, reported⟩ := termination_own streamId .finished
    exact ⟨reason, by simp only [pollH3, reported]⟩
  | reset streamId code =>
    obtain rfl : streamId = connectStreamId := closes
    obtain ⟨reason, reported⟩ := termination_own streamId (.reset code)
    exact ⟨reason, by simp only [pollH3, reported]⟩

/-- A poll fails exactly when a closing answer comes before the first `Done`. -/
theorem pollH3_error_iff (connectStreamId : StreamId) (polls : List PollAnswer)
    (bodies : List BodyAnswer) :
    (∃ message, (pollH3 connectStreamId polls bodies).1 = .error message) ↔
      ∃ answer ∈ polls.takeWhile (· ≠ .done), Closes connectStreamId answer := by
  induction polls generalizing bodies with
  | nil => simp [pollH3]
  | cons answer rest ih =>
    by_cases last : answer = .done
    · subst last
      simp [pollH3]
    · simp only [List.takeWhile_cons, last, ne_eq, not_false_eq_true, decide_true, if_true,
        List.exists_mem_cons_iff]
      by_cases closes : Closes connectStreamId answer
      · exact ⟨fun _ => .inl closes, fun _ => pollH3_closes closes rest bodies⟩
      · obtain ⟨left, passed⟩ := pollH3_consumes closes last rest bodies
        rw [passed, ih left]
        exact ⟨.inr, fun found => found.resolve_left closes⟩

/-! ## The statistics report -/

structure PendingH3StatsReport where
  streamId : StreamId
  body : Bytes
  written : ℕ
  deriving DecidableEq

/-- What `start_h3_stats_report` meets: no active path, a failure, or an opened
request stream with the serialized statistics. -/
inductive StartAnswer where
  | noPath
  | failed
  | opened (streamId : StreamId) (body : Bytes)
  deriving DecidableEq

/-- What `send_body` answers. -/
inductive SendBodyAnswer where
  | written (size : ℕ)
  | done
  | failed
  deriving DecidableEq

def startH3StatsReport : StartAnswer → Option PendingH3StatsReport
  | .noPath | .failed => none
  | .opened streamId body => some ⟨streamId, body, 0⟩

/-- `flush_h3_stats_report` and what the caller does with its answer: the report
stays pending until its body is out, and a failure gives it up. -/
def flushH3StatsReport (report : PendingH3StatsReport) :
    SendBodyAnswer → Option PendingH3StatsReport
  | .written size =>
    let report := { report with written := report.written + size }
    if report.written = report.body.length then none else some report
  | .done => some report
  | .failed => none

end Usque.Http3
