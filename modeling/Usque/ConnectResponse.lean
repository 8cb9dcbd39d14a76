import Usque.SessionSteps

/-! What decides a CONNECT request. `wait_connect_response` polls HTTP/3 at every wake-up
and takes the first `:status` of its stream; nothing else on any stream ends its wait, the
end of the CONNECT stream included. -/
namespace Usque

namespace Handshake

open Http3

variable {streamId : StreamId} {answers : List PollAnswer} {answer : PollAnswer}

/-- The status that an answer brings on the CONNECT stream. -/
def statusOn (streamId : StreamId) : PollAnswer → Option String
  | .headers sid list => if sid = streamId then connectStatus list else none
  | _ => none

/-- The status that decides. -/
def firstStatus (streamId : StreamId) (events : List PollAnswer) : Option String :=
  events.findSome? (statusOn streamId)

/-- The answers that one wake-up polls. -/
def polled (streamId : StreamId) : List PollAnswer → List PollAnswer
  | [] => []
  | .done :: _ => [.done]
  | .error message :: _ => [.error message]
  | answer :: rest =>
    if (statusOn streamId answer).isSome then [answer] else answer :: polled streamId rest

/-- The CONNECT stream is finished or reset. -/
def Terminates (streamId : StreamId) : PollAnswer → Prop
  | .finished sid | .reset sid _ => sid = streamId
  | _ => False

/-- An answer about the connection or about this stream. -/
def concerns (streamId : StreamId) : PollAnswer → Bool
  | .headers sid _ | .data sid | .finished sid | .reset sid _ | .other sid => sid = streamId
  | .done | .error _ => true

/-- A three-digit 2xx code. -/
def Successful (status : String) : Prop :=
  ∃ second third : Char, second.isDigit ∧ third.isDigit ∧ status.toList = ['2', second, third]

/-! ## One wake-up -/

/-- What `wait_connect_response` makes of a status. -/
def verdict (status : String) : Except PollError Bool :=
  match validateConnectStatus status with
  | .ok () => .ok true
  | .error message => .error (.rejected message)

/-- How a wake-up ends behind events that bring no status: with no more of them, with an
error of the poll, or with a status. -/
inductive WakeUp (streamId : StreamId) (quiet : List PollAnswer) :
    List PollAnswer → Except PollError Bool → Prop where
  | drained : WakeUp streamId quiet quiet (.ok false)
  | done : WakeUp streamId quiet (quiet ++ [.done]) (.ok false)
  | failed (message : String) :
      WakeUp streamId quiet (quiet ++ [.error message]) (.error (.poll message))
  | decided (answer : PollAnswer) (status : String) (speaks : statusOn streamId answer = some status) :
      WakeUp streamId quiet (quiet ++ [answer]) (verdict status)

private theorem WakeUp.behind {quiet events : List PollAnswer} {result : Except PollError Bool}
    (wakeUp : WakeUp streamId quiet events result) (answer : PollAnswer) :
    WakeUp streamId (answer :: quiet) (answer :: events) result := by
  cases wakeUp with
  | drained => exact .drained
  | done => exact .done
  | failed message => exact .failed message
  | decided last status speaks => exact .decided last status speaks

/-- The inner loop passes over every event until one of the three. -/
theorem pollConnect_wakeUp (streamId : StreamId) (answers : List PollAnswer) :
    ∃ quiet, (∀ answer ∈ quiet, statusOn streamId answer = none) ∧
      WakeUp streamId quiet (polled streamId answers) (pollConnect streamId answers) := by
  induction answers with
  | nil => exact ⟨[], fun _ member => (nomatch member), .drained⟩
  | cons answer rest ih =>
    obtain ⟨quiet, silent, wakeUp⟩ := ih
    have passes (nothing : statusOn streamId answer = none) :
        (∀ other ∈ answer :: quiet, statusOn streamId other = none) ∧
          WakeUp streamId (answer :: quiet) (answer :: polled streamId rest)
            (pollConnect streamId rest) :=
      ⟨List.forall_mem_cons.mpr ⟨nothing, silent⟩, wakeUp.behind answer⟩
    cases answer with
    | done => exact ⟨[], fun _ member => (nomatch member), .done⟩
    | error message => exact ⟨[], fun _ member => (nomatch member), .failed message⟩
    | data sid | finished sid | reset sid code | other sid => exact ⟨_, passes rfl⟩
    | headers sid list =>
      cases speaks : statusOn streamId (.headers sid list) with
      | none =>
        have nothing : (if sid = streamId then connectStatus list else none) = none := speaks
        simp only [pollConnect, polled, nothing, speaks, Option.isSome_none, Bool.false_eq_true,
          if_false]
        exact ⟨_, passes speaks⟩
      | some status =>
        have text : (if sid = streamId then connectStatus list else none) = some status := speaks
        simp only [pollConnect, polled, text, speaks, Option.isSome_some, if_true]
        exact ⟨[], fun _ member => (nomatch member), .decided _ status speaks⟩

/-- Any text that begins with a `2` is taken. -/
theorem verdict_cases (status : String) :
    (status.toList.head? = some '2' ∧ verdict status = .ok true) ∨
      (status.toList.head? ≠ some '2' ∧ ∃ error, verdict status = .error error) := by
  unfold verdict validateConnectStatus
  by_cases prefixed : status.toList.head? = some '2'
  · exact .inl ⟨prefixed, by rw [if_pos prefixed]⟩
  · refine .inr ⟨prefixed, ?_⟩
    rw [if_neg prefixed]
    by_cases forbidden : status = "403"
    · exact ⟨_, by rw [if_pos forbidden]⟩
    · exact ⟨_, by rw [if_neg forbidden]⟩

private theorem firstStatus_quiet {quiet : List PollAnswer}
    (silent : ∀ answer ∈ quiet, statusOn streamId answer = none) (more : List PollAnswer) :
    firstStatus streamId (quiet ++ more) = firstStatus streamId more := by
  rw [firstStatus, List.findSome?_append, List.findSome?_eq_none_iff.mpr silent]
  rfl

/-- A wake-up without a status goes on or fails; the first status decides. -/
theorem pollConnect_result (streamId : StreamId) (answers : List PollAnswer) :
    match firstStatus streamId (polled streamId answers) with
    | some status => pollConnect streamId answers = verdict status
    | none => pollConnect streamId answers = .ok false ∨
        ∃ error, pollConnect streamId answers = .error error := by
  obtain ⟨quiet, silent, wakeUp⟩ := pollConnect_wakeUp streamId answers
  generalize polled streamId answers = events at wakeUp ⊢
  generalize pollConnect streamId answers = result at wakeUp ⊢
  cases wakeUp with
  | drained =>
    have nothing : firstStatus streamId quiet = none := List.findSome?_eq_none_iff.mpr silent
    rw [nothing]
    exact .inl rfl
  | done =>
    rw [firstStatus_quiet silent]
    exact .inl rfl
  | failed message =>
    rw [firstStatus_quiet silent]
    exact .inr ⟨_, rfl⟩
  | decided answer status speaks =>
    have first : firstStatus streamId [answer] = some status := by simp [firstStatus, speaks]
    rw [firstStatus_quiet silent, first]

/-- The end of the CONNECT stream is polled like any other event: where it is the last one
there is, the wait goes on. -/
theorem pollConnect_terminated {before : List PollAnswer} (terminates : Terminates streamId answer)
    (last : polled streamId answers = before ++ [answer]) :
    pollConnect streamId answers = .ok false := by
  obtain ⟨quiet, -, wakeUp⟩ := pollConnect_wakeUp streamId answers
  rw [last] at wakeUp
  generalize pollConnect streamId answers = result at wakeUp ⊢
  generalize events : before ++ [answer] = polls at wakeUp
  cases wakeUp with
  | drained => rfl
  | done => rfl
  | failed message =>
    have same := (List.append_inj' events rfl).2
    rw [(List.cons.inj same).1] at terminates
    exact terminates.elim
  | decided other status speaks =>
    have same := (List.append_inj' events rfl).2
    rw [(List.cons.inj same).1] at terminates
    cases other <;> first | cases speaks | exact terminates.elim

/-- Events of other streams decide nothing. -/
theorem pollConnect_concerns (streamId : StreamId) (answers : List PollAnswer) :
    pollConnect streamId (answers.filter (concerns streamId)) = pollConnect streamId answers := by
  induction answers with
  | nil => rfl
  | cons answer rest ih =>
    by_cases own : concerns streamId answer = true
    · rw [List.filter_cons_of_pos own]
      cases answer <;> simp only [pollConnect, ih]
    · rw [List.filter_cons_of_neg own, ih]
      cases answer with
      | headers sid list =>
        have foreign : sid ≠ streamId := by simpa [concerns] using own
        simp only [pollConnect, if_neg foreign]
      | done | error message => exact absurd rfl own
      | data sid | finished sid | reset sid code | other sid => rfl

end Handshake

namespace Session

open Handshake Http3

variable {spkiOf : Bytes → Option Bytes} {cfg : MasqueConfig} {endpoint : MasqueEndpoint}
  {mtu : ℕ} {s next finish : Session} {input : Input} {inputs : List Input}
  {streamId : StreamId} {deadline : Instant}

/-! ## One call of `wait_connect_response` -/

/-- Inside the loop of `wait_connect_response`. -/
def AwaitsResponse (streamId : StreamId) : Stage → Prop
  | .connect sid _ | .pollConnect sid _ | .flushConnect sid _ => sid = streamId
  | _ => False

instance (streamId : StreamId) : (stage : Stage) → Decidable (AwaitsResponse streamId stage)
  | .connect _ _ | .pollConnect _ _ | .flushConnect _ _ => inferInstanceAs (Decidable (_ = _))
  | .setup | .handshake | .flushHandshake | .verify | .request | .flushRequest _ | .announce _
  | .probe _ | .pending _ | .flushPending _ | .enter _ | .pump _ _ | .cleanup _ | .returned _ =>
    isFalse id

/-- What the call polls at an input. -/
def polledBy (streamId : StreamId) : Input → List PollAnswer
  | .polled answers => polled streamId answers
  | _ => []

/-- The HTTP/3 events of a call, over all of its wake-ups. -/
def events (streamId : StreamId) (inputs : List Input) : List PollAnswer :=
  inputs.flatMap (polledBy streamId)

/-- The same input without the events of other streams. -/
def Input.ownOnly (streamId : StreamId) : Input → Input
  | .polled answers => .polled (answers.filter (concerns streamId))
  | input => input

/-- What is asked of a call that has come from its first wake-up to `finish`. -/
structure AnswersConnect (step : Session → Input → Option Session) (streamId : StreamId)
    (first : Session) (inputs : List Input) (finish : Session) : Prop where
  /-- `Ok` rests on a three-digit 2xx code, and no end of the stream came before it. -/
  accepts : finish.stage = .announce streamId →
    (∃ status, firstStatus streamId (events streamId inputs) = some status ∧ Successful status) ∧
      ∀ event ∈ events streamId inputs, ¬ Terminates streamId event
  /-- The end of the stream ends the call with an error at that event. -/
  terminates : ∀ past answers future, inputs = past ++ .polled answers :: future →
    ∀ before event after, polled streamId answers = before ++ event :: after →
      Terminates streamId event →
        future = [] ∧ after = [] ∧ ∃ error, finish.stage = .returned error
  /-- Without the events of other streams the call goes the same way. -/
  foreign : Transition.run step first (inputs.map (Input.ownOnly streamId)) = some finish

/-- How one step of the call goes on. -/
inductive Onward (streamId : StreamId) (input : Input) : Stage → Prop where
  | waits {stage : Stage} (silent : firstStatus streamId (polledBy streamId input) = none)
      (here : AwaitsResponse streamId stage) : Onward streamId input stage
  | accepted (status : String)
      (first : firstStatus streamId (polledBy streamId input) = some status)
      (prefixed : status.toList.head? = some '2') : Onward streamId input (.announce streamId)
  | failed (error : SessionError)
      (refused : ∀ status, firstStatus streamId (polledBy streamId input) = some status →
        status.toList.head? ≠ some '2') : Onward streamId input (.returned error)

private theorem await_onward {arrival : Arrival} {timeout : Option Duration} :
    Onward streamId (.pass timeout arrival) (s.await arrival (.pollConnect streamId deadline)).stage := by
  cases arrival with
  | received waited => exact .waits rfl rfl
  | failed waited => exact .failed _ (fun _ first => nomatch first)
  | slept waited => exact .waits rfl rfl

private theorem flush_onward {took : Duration} {ok closed : Bool} :
    Onward streamId (.flushed took ok closed)
      (s.flush took ok closed .connectClosed (.connect streamId deadline)).stage := by
  cases ok with
  | false => exact .failed _ (fun _ first => nomatch first)
  | true =>
    cases closed with
    | false => exact .waits rfl rfl
    | true => exact .failed _ (fun _ first => nomatch first)

private theorem readResponse_onward (answers : List PollAnswer) :
    Onward streamId (.polled answers) (s.readResponse answers streamId deadline).stage := by
  have result := pollConnect_result streamId answers
  cases first : firstStatus streamId (polled streamId answers) with
  | some status =>
    rw [first] at result
    rcases verdict_cases status with ⟨prefixed, taken⟩ | ⟨other, error, refused⟩
    · simp only [readResponse, result, taken]
      exact .accepted status first prefixed
    · simp only [readResponse, result, refused]
      refine .failed _ ?_
      intro found same
      cases first.symm.trans same
      exact other
  | none =>
    rw [first] at result
    rcases result with silent | ⟨error, failed⟩
    · simp only [readResponse, silent]
      exact .waits first rfl
    · simp only [readResponse, failed]
      refine .failed _ ?_
      intro found same
      cases first.symm.trans same

theorem step_onward (waits : AwaitsResponse streamId s.stage)
    (stepped : step spkiOf cfg endpoint mtu s input = some next) :
    Onward streamId input next.stage := by
  cases step_called stepped with
  | connectPass timeout arrival sid deadline here ahead =>
    rw [here] at waits
    cases waits
    exact await_onward
  | connectTimeout timeout arrival sid deadline here passed =>
    exact .failed _ (fun _ first => nomatch first)
  | polled answers sid deadline here =>
    rw [here] at waits
    cases waits
    exact readResponse_onward answers
  | flushConnect took ok closed sid deadline here =>
    rw [here] at waits
    cases waits
    exact flush_onward
  | setUp _ here | setUpFailed _ here | established here | handshakePass _ _ here
  | flushHandshake _ _ _ here | flushRequest _ _ _ _ here | flushPending _ _ _ here
  | flushPendingFailed _ _ _ here | certificate _ here | requested _ _ here | announce _ here
  | loopEnded _ _ _ here _ | cleanUp _ here | probe _ _ _ _ here | pending _ _ _ _ here
  | entered _ _ here | pump _ _ _ _ here _ =>
    rw [here] at waits
    exact waits.elim

/-! ## Whole calls -/

/-- The step is one of the call's own. -/
def Within (streamId : StreamId) (s : Session) (_ : Input) : Prop := AwaitsResponse streamId s.stage

instance (streamId : StreamId) (s : Session) (input : Input) :
    Decidable (Within streamId s input) := inferInstanceAs (Decidable (AwaitsResponse _ _))

/-- A call still waits, or ended by the first status, or failed without a `2` in front. -/
theorem call_onward (waits : AwaitsResponse streamId s.stage)
    (within : Transition.Along (step spkiOf cfg endpoint mtu) (Within streamId) s inputs)
    (ran : Transition.run (step spkiOf cfg endpoint mtu) s inputs = some finish) :
    (AwaitsResponse streamId finish.stage ∧ firstStatus streamId (events streamId inputs) = none) ∨
      (finish.stage = .announce streamId ∧ ∃ status,
        firstStatus streamId (events streamId inputs) = some status ∧
          status.toList.head? = some '2') ∨
      ((∃ error, finish.stage = .returned error) ∧ ∀ status,
        firstStatus streamId (events streamId inputs) = some status →
          status.toList.head? ≠ some '2') := by
  induction inputs generalizing s with
  | nil =>
    cases ran
    exact .inl ⟨waits, rfl⟩
  | cons input rest ih =>
    obtain ⟨next, stepped, ranRest⟩ := Transition.run_cons_iff.mp ran
    have withinRest := within.2 next stepped
    have split : firstStatus streamId (events streamId (input :: rest)) =
        (firstStatus streamId (polledBy streamId input)).or
          (firstStatus streamId (events streamId rest)) := by
      rw [events, List.flatMap_cons, firstStatus, List.findSome?_append]
      rfl
    -- a call that has ended makes no further step
    have ended (out : ¬ AwaitsResponse streamId next.stage) : rest = [] := by
      cases rest with
      | nil => rfl
      | cons other others => exact absurd withinRest.1 out
    have onward := step_onward waits stepped
    generalize reached : next.stage = stage at onward
    cases onward with
    | waits silent here =>
      rw [split, silent, Option.none_or]
      exact ih (reached ▸ here) withinRest ranRest
    | accepted status first prefixed =>
      obtain rfl := ended (by rw [reached]; exact id)
      cases ranRest
      refine .inr (.inl ⟨reached, status, ?_, prefixed⟩)
      rw [split, first, Option.some_or]
    | failed error refused =>
      obtain rfl := ended (by rw [reached]; exact id)
      cases ranRest
      refine .inr (.inr ⟨⟨error, reached⟩, ?_⟩)
      intro status found
      rw [split] at found
      exact refused status (by simpa [events, firstStatus] using found)

/-- Only what concerns the CONNECT stream moves the call. -/
theorem step_ownOnly (within : AwaitsResponse streamId s.stage) :
    step spkiOf cfg endpoint mtu s (input.ownOnly streamId) =
      step spkiOf cfg endpoint mtu s input := by
  cases input with
  | polled answers =>
    cases here : s.stage with
    | pollConnect sid deadline =>
      rw [here] at within
      cases within
      simp only [Input.ownOnly, step, here, readResponse, pollConnect_concerns]
    | _ => simp only [Input.ownOnly, step, here]
  | _ => rfl

theorem run_ownOnly
    (within : Transition.Along (step spkiOf cfg endpoint mtu) (Within streamId) s inputs) :
    Transition.run (step spkiOf cfg endpoint mtu) s (inputs.map (Input.ownOnly streamId)) =
      Transition.run (step spkiOf cfg endpoint mtu) s inputs := by
  induction inputs generalizing s with
  | nil => rfl
  | cons input rest ih =>
    rw [List.map_cons, Transition.run, Transition.run, step_ownOnly within.1]
    cases stepped : step spkiOf cfg endpoint mtu s input with
    | none => rfl
    | some next => exact ih (within.2 next stepped)

/-- The end of the CONNECT stream never ends the call. -/
theorem terminated_continues {answers : List PollAnswer} {before : List PollAnswer}
    {event : PollAnswer} (waits : AwaitsResponse streamId s.stage)
    (terminates : Terminates streamId event) (last : polled streamId answers = before ++ [event])
    (stepped : step spkiOf cfg endpoint mtu s (.polled answers) = some next) (error : SessionError) :
    next.stage ≠ .returned error := by
  cases here : s.stage with
  | pollConnect sid deadline =>
    rw [here] at waits
    cases waits
    simp only [step, here, Option.some.injEq] at stepped
    subst stepped
    simp only [readResponse, pollConnect_terminated terminates last]
    simp
  | _ =>
    simp only [step, here] at stepped
    cases stepped

/-- A call does what is asked of it exactly when the CONNECT stream does not end before its
first status, and that status is a three-digit code if it begins with a `2`. -/
theorem wait_connect_response_iff (here : s.stage = .connect streamId deadline)
    (within : Transition.Along (step spkiOf cfg endpoint mtu) (Within streamId) s inputs)
    (ran : Transition.run (step spkiOf cfg endpoint mtu) s inputs = some finish) :
    AnswersConnect (step spkiOf cfg endpoint mtu) streamId s inputs finish ↔
      (∀ event ∈ events streamId inputs, ¬ Terminates streamId event) ∧
        ∀ status, firstStatus streamId (events streamId inputs) = some status →
          status.toList.head? = some '2' → Successful status := by
  have waits : AwaitsResponse streamId s.stage := by rw [here]; rfl
  have onward := call_onward waits within ran
  constructor
  · intro answers
    refine ⟨?_, ?_⟩
    · intro event member terminates
      obtain ⟨input, among, polledHere⟩ := List.mem_flatMap.mp member
      obtain ⟨past, future, shape⟩ := List.append_of_mem among
      cases input with
      | polled polls =>
        obtain ⟨before, after, order⟩ := List.append_of_mem polledHere
        obtain ⟨rfl, rfl, error, returned⟩ :=
          answers.terminates past polls future shape before event after order terminates
        subst shape
        obtain ⟨middle, ranPast, ranLast⟩ := Transition.run_append_iff.mp ran
        obtain ⟨last, stepped, same⟩ := Transition.run_cons_iff.mp ranLast
        cases same
        have inCall := ((Transition.along_append_iff ranPast).mp within).2.1
        exact terminated_continues inCall terminates order stepped error returned
      | _ => cases polledHere
    · intro status first prefixed
      rcases onward with ⟨-, silent⟩ | ⟨announced, -⟩ | ⟨-, refused⟩
      · cases silent.symm.trans first
      · obtain ⟨found, same, successful⟩ := (answers.accepts announced).1
        cases first.symm.trans same
        exact successful
      · exact absurd prefixed (refused status first)
  · rintro ⟨lasting, wellFormed⟩
    refine ⟨?_, ?_, (run_ownOnly within).trans ran⟩
    · intro announced
      refine ⟨?_, lasting⟩
      rcases onward with ⟨waiting, -⟩ | ⟨-, status, first, prefixed⟩ | ⟨⟨error, returned⟩, -⟩
      · rw [announced] at waiting
        exact waiting.elim
      · exact ⟨status, first, wellFormed status first prefixed⟩
      · cases announced.symm.trans returned
    · intro past polls future shape before event after order terminates
      have polledHere : event ∈ events streamId inputs := by
        refine List.mem_flatMap.mpr ⟨.polled polls, by simp [shape], ?_⟩
        simp [polledBy, order]
      exact absurd terminates (lasting event polledHere)

/-- At the first wake-up of a call for stream 0. -/
def connecting : Session where
  stage := .connect 0 (seconds 10)
  started := 0
  heard := 0
  sessionEstablished := false
  now := 0
  device := DataLoop.smallDevice
  pending := none
  published := .disconnected
  moments := []
  log := []

def smallStep : Session → Input → Option Session :=
  step (fun _ => none) RunTunnel.openLaunch.cfg ⟨⟨.v4 ⟨0xc0000201⟩, 443⟩, "", [1, 2, 3]⟩ 1500

/-- One wake-up that polls these answers. -/
def wakeUp (answers : List PollAnswer) : List Input := [.pass none (.received 0), .polled answers]

theorem wait_connect_response_small : ∃ finish,
    Transition.run smallStep connecting (wakeUp [.data 4, .headers 0 [(statusName, [50, 48, 48])]]) =
        some finish ∧
      AnswersConnect smallStep 0 connecting
        (wakeUp [.data 4, .headers 0 [(statusName, [50, 48, 48])]]) finish := by
  have heard : events 0 (wakeUp [.data 4, .headers 0 [(statusName, [50, 48, 48])]]) =
      [.data 4, .headers 0 [(statusName, [50, 48, 48])]] := by decide
  have first : firstStatus 0 [.data 4, .headers 0 [(statusName, [50, 48, 48])]] = some "200" := by
    decide
  refine ⟨{ connecting with stage := .announce 0 }, by decide, ?_⟩
  refine (wait_connect_response_iff rfl (by decide) (by decide +kernel)).mpr ⟨?_, ?_⟩
  · rw [heard]
    intro event member
    rcases List.mem_cons.mp member with rfl | last
    · exact id
    · rw [List.mem_singleton.mp last]
      exact id
  · rw [heard, first]
    intro status same _
    cases same
    exact ⟨'0', '0', by decide, by decide, by decide⟩

/-- The wait goes on behind the end of its stream, and a status of one digit is accepted. -/
theorem wait_connect_response_overlooks :
    (Transition.run smallStep connecting
          (wakeUp [.finished 0, .done] ++ [.flushed 0 true false]) = some connecting ∧
        Transition.Along smallStep (Within 0) connecting
          (wakeUp [.finished 0, .done] ++ [.flushed 0 true false]) ∧
        ¬ AnswersConnect smallStep 0 connecting
          (wakeUp [.finished 0, .done] ++ [.flushed 0 true false]) connecting) ∧
      ∃ finish, Transition.run smallStep connecting
          (wakeUp [.headers 0 [(statusName, [50])]]) = some finish ∧
        Transition.Along smallStep (Within 0) connecting
          (wakeUp [.headers 0 [(statusName, [50])]]) ∧
        ¬ AnswersConnect smallStep 0 connecting
          (wakeUp [.headers 0 [(statusName, [50])]]) finish := by
  refine ⟨⟨by decide, by decide +kernel, ?_⟩,
    ⟨{ connecting with stage := .announce 0 }, by decide, by decide +kernel, ?_⟩⟩
  · intro answers
    obtain ⟨-, -, error, returned⟩ := answers.terminates [.pass none (.received 0)]
      [.finished 0, .done] [.flushed 0 true false] rfl [] (.finished 0) [.done] (by decide) rfl
    cases returned
  · intro answers
    have first : firstStatus 0 (events 0 (wakeUp [.headers 0 [(statusName, [50])]])) = some "2" := by
      decide
    obtain ⟨status, found, second, third, -, -, text⟩ := (answers.accepts rfl).1
    cases first.symm.trans found
    have short : "2".toList.length = 3 := by rw [text]; rfl
    exact absurd short (by decide)

end Session

end Usque
