import Mathlib.Data.List.Rotate
import Usque.SessionHistory
import Usque.SupervisorSteps

/-! The supervisor over whole runs: which endpoint each attempt uses, and what
becomes of the packet captured on demand. The endpoint index is a function of the
outcomes so far, and the log justifies every capture, attempt and hand-over. -/
namespace Usque.Supervisor

open Session (Honest InOrder Logged)

/-! ## The order of endpoints -/

def attempts (log : List Event) : List ℕ :=
  log.filterMap fun
    | .attempted index _ => some index
    | _ => none

def outcomes (log : List Event) : List Bool :=
  log.filterMap fun
    | .ended established => some established
    | _ => none

/-- The endpoint to use after these outcomes, of `count` endpoints. -/
def choice (count : ℕ) (outcomes : List Bool) : ℕ :=
  outcomes.foldl (fun index established => nextEndpointIndex index count established) 0

theorem choice_concat (count : ℕ) (outcomes : List Bool) (established : Bool) :
    choice count (outcomes ++ [established]) =
      nextEndpointIndex (choice count outcomes) count established := by
  simp [choice, List.foldl_append]

theorem nextEndpointIndex_lt {count : ℕ} (nonempty : 0 < count) (index : ℕ) (established : Bool) :
    nextEndpointIndex index count established < count := by
  unfold nextEndpointIndex
  split
  · exact nonempty
  · exact Nat.mod_lt _ nonempty

theorem choice_lt {count : ℕ} (nonempty : 0 < count) (outcomes : List Bool) :
    choice count outcomes < count := by
  induction outcomes using List.reverseRecOn with
  | nil => exact nonempty
  | append_singleton before established ih =>
    rw [choice_concat]
    exact nextEndpointIndex_lt nonempty _ established

/-- Failures move the choice on by one each, around the list. -/
theorem choice_after_failures {count k : ℕ} {outcomes : List Bool} (nonempty : 0 < count) (j : ℕ)
    (failed : ∀ i < j, outcomes[k + i]? = some false) :
    choice count (outcomes.take (k + j)) = (choice count (outcomes.take k) + j) % count := by
  induction j with
  | zero => exact (Nat.mod_eq_of_lt (choice_lt nonempty _)).symm
  | succ j ih =>
    have last := failed j (Nat.lt_succ_self j)
    have before := ih fun i below => failed i (Nat.lt_succ_of_lt below)
    rw [← Nat.add_assoc, List.take_add_one, last, Option.toList_some, choice_concat, before]
    simp only [nextEndpointIndex, Bool.false_eq_true, if_false, Nat.mod_add_mod, Nat.add_assoc]

/-- Going once around the list meets every index exactly once. -/
theorem rotation_perm (count first : ℕ) :
    ((List.range count).map fun j => (first + j) % count).Perm (List.range count) := by
  have rotated : ((List.range count).map fun j => (first + j) % count) =
      (List.range count).rotate first := by
    apply List.ext_getElem
    · simp
    · intro j _ _
      simp [List.getElem_rotate, Nat.add_comm]
  rw [rotated]
  exact List.rotate_perm _ _

/-! ## The invariant of the order -/

variable {spkiOf : Bytes → Option Bytes} {cfg : MasqueConfig} {mtu : ℕ} {s next : Supervisor}
  {input : Input}

/-- Every attempt so far used the endpoint its predecessors' outcomes choose, and
so will the next one. -/
structure Rotating (cfg : MasqueConfig) (s : Supervisor) : Prop where
  visited : ∀ k index, (attempts s.log)[k]? = some index →
    index = choice cfg.endpoints.length ((outcomes s.log).take k)
  counted : (attempts s.log).length = (outcomes s.log).length + (inSession s.stage).toNat
  index : match s.stage with
    | .withdraw established => ∃ before, outcomes s.log = before ++ [established] ∧
        s.endpointIndex = choice cfg.endpoints.length before
    | .returned error => s.endpointIndex < cfg.endpoints.length ∧ error ≠ .noEndpoint
    | _ => s.endpointIndex = choice cfg.endpoints.length (outcomes s.log)

theorem attempts_append (log events : List Event) :
    attempts (log ++ events) = attempts log ++ attempts events := List.filterMap_append

theorem outcomes_append (log events : List Event) :
    outcomes (log ++ events) = outcomes log ++ outcomes events := List.filterMap_append

/-- A session's own events say nothing about attempts and outcomes. -/
theorem inner_counts {events : List Event} (inner : ∀ event ∈ events, event.Inner) :
    attempts events = [] ∧ outcomes events = [] := by
  constructor
  · apply List.filterMap_eq_nil_iff.mpr
    intro event member
    have own := inner event member
    cases event <;> first | rfl | exact own.elim
  · apply List.filterMap_eq_nil_iff.mpr
    intro event member
    have own := inner event member
    cases event <;> first | rfl | exact own.elim

theorem rotating_index_lt (nonempty : 0 < cfg.endpoints.length) (rotating : Rotating cfg s) :
    s.endpointIndex < cfg.endpoints.length := by
  have index := rotating.index
  split at index
  · obtain ⟨before, -, same⟩ := index
    rw [same]
    exact choice_lt nonempty before
  · exact index.1
  · rw [index]
    exact choice_lt nonempty _

/-- A step that logs nothing about attempts and outcomes and stays on one side
of the session. -/
private theorem rotating_unlogged {events : List Event} (rotating : Rotating cfg s)
    (log : next.log = s.log ++ events) (inner : attempts events = [] ∧ outcomes events = [])
    (side : inSession next.stage = inSession s.stage)
    (index : match next.stage with
      | .withdraw established => ∃ before, outcomes s.log = before ++ [established] ∧
          next.endpointIndex = choice cfg.endpoints.length before
      | .returned error => next.endpointIndex < cfg.endpoints.length ∧ error ≠ .noEndpoint
      | _ => next.endpointIndex = choice cfg.endpoints.length (outcomes s.log)) :
    Rotating cfg next := by
  have sameAttempts : attempts next.log = attempts s.log := by
    rw [log, attempts_append, inner.1, List.append_nil]
  have sameOutcomes : outcomes next.log = outcomes s.log := by
    rw [log, outcomes_append, inner.2, List.append_nil]
  constructor
  · rw [sameAttempts, sameOutcomes]
    exact rotating.visited
  · rw [sameAttempts, sameOutcomes, side]
    exact rotating.counted
  · rw [sameOutcomes]
    exact index

private theorem attempt_rotating (nonempty : 0 < cfg.endpoints.length)
    (rotating : Rotating cfg s) (here : s.stage = .connect) : Rotating cfg (s.attempt cfg) := by
  have index : s.endpointIndex = choice cfg.endpoints.length (outcomes s.log) := by
    simpa only [here] using rotating.index
  have counted : (attempts s.log).length = (outcomes s.log).length := by
    simpa [here, inSession] using rotating.counted
  have below := rotating_index_lt nonempty rotating
  simp only [attempt, List.getElem?_eq_getElem below]
  have more : attempts [.attempted s.endpointIndex cfg.endpoints[s.endpointIndex]] =
      [s.endpointIndex] := rfl
  have same : outcomes [.attempted s.endpointIndex cfg.endpoints[s.endpointIndex]] = [] := rfl
  constructor
  · intro k visited found
    simp only [emit, attempts_append, outcomes_append, more, same, List.append_nil] at found ⊢
    by_cases old : k < (attempts s.log).length
    · rw [List.getElem?_append_left old] at found
      exact rotating.visited k visited found
    · rw [List.getElem?_append_right (Nat.le_of_not_lt old)] at found
      have last : visited = s.endpointIndex := by
        cases offset : k - (attempts s.log).length <;> simp_all
      rw [last, index, List.take_of_length_le (counted ▸ Nat.le_of_not_lt old)]
  · simp only [emit, attempts_append, outcomes_append, more, same, List.length_append, counted,
      inSession]
    rfl
  · simp only [emit, outcomes_append, same, List.append_nil]
    exact index

private theorem finish_rotating {position : Session.Position} (rotating : Rotating cfg s)
    (here : s.stage = .session position) (established : Bool) :
    Rotating cfg (s.finish established) := by
  have index : s.endpointIndex = choice cfg.endpoints.length (outcomes s.log) := by
    simpa only [here] using rotating.index
  have counted : (attempts s.log).length = (outcomes s.log).length + 1 := by
    simpa [here, inSession] using rotating.counted
  have same : attempts [.ended established] = [] := rfl
  have more : outcomes [.ended established] = [established] := rfl
  constructor
  · intro k visited found
    simp only [finish, emit, attempts_append, outcomes_append, same, more, List.append_nil]
      at found ⊢
    have early : k ≤ (outcomes s.log).length := by
      have below := (List.getElem?_eq_some_iff.mp found).1
      omega
    rw [List.take_append_of_le_length early]
    exact rotating.visited k visited found
  · simp only [finish, emit, attempts_append, outcomes_append, same, more, List.length_append,
      counted, inSession]
    rfl
  · refine ⟨outcomes s.log, ?_, index⟩
    simp only [finish, emit, outcomes_append, more]

/-! ## The captured packet -/

/-- What must have come before an event. -/
def OnDemand (cfg : MasqueConfig) (before : List Event) : Event → Prop
  | .captured _ => held before = none
  | .attempted index endpoint => cfg.endpoints[index]? = some endpoint ∧
      (cfg.reconnect.always = false → held before ≠ none)
  | .handed packet => held before = some packet ∧
      ∃ index endpoint events, InAttempt before index endpoint events ∧
        Event.statsSpawned ∈ events
  | .sent (.pending dgram) => ∃ packet flowPrefix, before.getLast? = some (.handed packet) ∧
      dgram = flowPrefix ++ (Packet.prepareOutgoing packet).2
  | .ended true => held before = none
  | .ended false => ∃ earlier index endpoint events,
      before = earlier ++ .attempted index endpoint :: events ∧
      (∀ event ∈ events, event.Inner) ∧ held before = held earlier
  | _ => True

structure Accounted (cfg : MasqueConfig) (s : Supervisor) : Prop where
  held : s.pending = held s.log
  justified : Trace.Justified (OnDemand cfg) s.log
  position : match s.stage with
    | .wait => s.pending = none
    | .connect => cfg.reconnect.always = false → s.pending ≠ none
    | .session position => ∃ endpoint events,
        InAttempt s.log s.endpointIndex endpoint events ∧
        Honest ⟨position, s.toWorld⟩ events
    | _ => True

/-- What a session step adds is justified. -/
private theorem session_justified {log events more : List Event} {index : ℕ}
    {endpoint : MasqueEndpoint} {pending : Option Bytes}
    (inside : InAttempt log index endpoint events) (inner : ∀ event ∈ more, event.Inner)
    (ordered : InOrder events pending more) (same : pending = held log) :
    Trace.Justified (fun before => OnDemand cfg (log ++ before)) more := by
  intro before event after split
  have own : event.Inner := inner event (by simp [split])
  cases event with
  | captured packet => exact own.elim
  | attempted index endpoint => exact own.elim
  | ended established => exact own.elim
  | handed packet =>
    obtain ⟨rfl, carried, spawned⟩ := ordered.handed before packet after split
    rw [List.append_nil]
    exact ⟨same.symm.trans carried, index, endpoint, events, inside, spawned⟩
  | sent what =>
    cases what with
    | pending dgram =>
      obtain ⟨packet, flowPrefix, last, content⟩ := ordered.sent before dgram after split
      exact ⟨packet, flowPrefix, by simp [last], content⟩
    | _ => trivial
  | _ => trivial

private theorem session_accounted {position : Session.Position} {endpoint : MasqueEndpoint}
    {after : Session} {input : Session.Input} (accounted : Accounted cfg s)
    (here : s.stage = .session position)
    (stepped : Session.step spkiOf cfg endpoint mtu ⟨position, s.toWorld⟩ input = some after) :
    Accounted cfg (s.adopt after) ∧
      ∃ events, after.log = s.log ++ events ∧ ∀ event ∈ events, event.Inner := by
  have place := accounted.position
  rw [here] at place
  obtain ⟨opened, events, inside, honest⟩ := place
  obtain ⟨more, logged, ordered, stays⟩ := Session.step_history honest stepped
  have log : after.log = s.log ++ more := logged.log
  refine ⟨⟨?_, ?_, ?_⟩, more, log, logged.inner⟩
  · have carried : after.pending = more.foldl hold s.pending := logged.pending
    simp only [adopt, carried, log, held_append, accounted.held]
  · simp only [adopt, log]
    exact Trace.justified_append_iff.mpr
      ⟨accounted.justified, session_justified inside logged.inner ordered accounted.held⟩
  · simp only [adopt]
    refine ⟨opened, events ++ more, ?_, stays⟩
    rw [log]
    exact inside.append logged.inner

private theorem attempt_accounted (accounted : Accounted cfg s) (here : s.stage = .connect) :
    Accounted cfg (s.attempt cfg) := by
  have place := accounted.position
  rw [here] at place
  unfold attempt
  split
  · exact ⟨accounted.held, accounted.justified, trivial⟩
  · rename_i endpoint found
    refine ⟨?_, ?_, ?_⟩
    · simp only [emit, held_append, List.foldl_cons, List.foldl_nil, hold]
      exact accounted.held
    · refine Trace.justified_concat_iff.mpr ⟨accounted.justified, found, ?_⟩
      intro onDemand
      rw [← accounted.held]
      exact place onDemand
    · refine ⟨endpoint, [], InAttempt.opened s.log s.endpointIndex endpoint, ?_⟩
      exact ⟨rfl, nofun⟩

private theorem finish_accounted {position : Session.Position} {error : Session.SessionError}
    (accounted : Accounted cfg s) (here : s.stage = .session position)
    (ended : position.stage = .returned error) :
    Accounted cfg (s.finish position.sessionEstablished) := by
  have place := accounted.position
  rw [here] at place
  obtain ⟨endpoint, events, ⟨⟨earlier, split⟩, inner⟩, honest⟩ := place
  simp only [Honest, ended, Session.phase] at honest
  refine ⟨?_, ?_, trivial⟩
  · simp only [finish, emit, held_append, List.foldl_cons, List.foldl_nil, hold]
    exact accounted.held
  · refine Trace.justified_concat_iff.mpr ⟨accounted.justified, ?_⟩
    cases established : position.sessionEstablished with
    | true =>
      rw [established, if_pos rfl] at honest
      exact accounted.held.symm.trans honest
    | false =>
      rw [established, if_neg Bool.false_ne_true] at honest
      refine ⟨earlier, s.endpointIndex, endpoint, events, split, inner, ?_⟩
      rw [split, held_append, List.foldl_cons]
      exact foldl_hold_keeps _ inner honest

private theorem capture_tracked (below : s.endpointIndex < cfg.endpoints.length)
    (rotating : Rotating cfg s) (accounted : Accounted cfg s) (here : s.stage = .wait)
    (later : Instant) (packet : Option Bytes) :
    Rotating cfg ({ s with now := later }.capture packet) ∧
      Accounted cfg ({ s with now := later }.capture packet) := by
  have idle := accounted.position
  have index := rotating.index
  rw [here] at idle index
  have unlogged : s.log = s.log ++ [] := (List.append_nil _).symm
  have left (error : SupervisorError) (other : error ≠ .noEndpoint) :
      Rotating cfg { s with now := later, stage := .returned error } ∧
        Accounted cfg { s with now := later, stage := .returned error } :=
    ⟨rotating_unlogged rotating unlogged ⟨rfl, rfl⟩ (by rw [here]; rfl) ⟨below, other⟩,
      accounted.held, accounted.justified, trivial⟩
  unfold capture
  split
  · exact left .recv nofun
  · rename_i packet
    split
    · exact left .tunClosed nofun
    · refine ⟨rotating_unlogged rotating rfl ⟨rfl, rfl⟩ (by rw [here]; rfl) index, ?_, ?_, ?_⟩
      · simp only [emit, held_append, List.foldl_cons, List.foldl_nil, hold]
      · exact Trace.justified_concat_iff.mpr ⟨accounted.justified, accounted.held.symm.trans idle⟩
      · exact fun _ => Option.some_ne_none _

private theorem prepared_tracked {device : NativeTun.TunRsDevice} {moments : List NativeTun.Moment}
    (rotating : Rotating cfg s) (accounted : Accounted cfg s) (here : s.stage = .prepare) :
    Rotating cfg (prepared cfg { s with device := device, moments := moments }) ∧
      Accounted cfg (prepared cfg { s with device := device, moments := moments }) := by
  have index := rotating.index
  rw [here] at index
  have unlogged : s.log = s.log ++ [] := (List.append_nil _).symm
  unfold prepared
  by_cases wanted : idle cfg { s with device := device, moments := moments } = true
  · rw [if_pos wanted]
    refine ⟨rotating_unlogged rotating unlogged ⟨rfl, rfl⟩ (by rw [here]; rfl) index, ?_⟩
    refine ⟨accounted.held, accounted.justified, ?_⟩
    simp only [idle, Bool.and_eq_true, Option.isNone_iff_eq_none] at wanted
    exact wanted.2
  · rw [if_neg wanted]
    refine ⟨rotating_unlogged rotating unlogged ⟨rfl, rfl⟩ (by rw [here]; rfl) index, ?_⟩
    refine ⟨accounted.held, accounted.justified, ?_⟩
    intro onDemand empty
    simp only [idle, onDemand, Bool.not_false, Bool.true_and, Option.isNone_iff_eq_none] at wanted
    exact wanted empty

/-! ## Steps and runs -/

/-- Both invariants survive a step. -/
theorem step_tracked (nonempty : 0 < cfg.endpoints.length) (rotating : Rotating cfg s)
    (accounted : Accounted cfg s) (stepped : step spkiOf cfg mtu s input = some next) :
    Rotating cfg next ∧ Accounted cfg next := by
  have index := rotating.index
  have below := rotating_index_lt nonempty rotating
  have unlogged : s.log = s.log ++ [] := (List.append_nil _).symm
  cases step_called stepped with
  | prepare answers here =>
    rw [here] at index
    obtain ⟨-, shape⟩ | ⟨error, shape⟩ := applyInitialMtu_cases cfg s answers (prepared cfg) <;> rw [shape]
    · exact prepared_tracked rotating accounted here
    · refine ⟨rotating_unlogged rotating unlogged ⟨rfl, rfl⟩ (by rw [here]; rfl) ⟨below, nofun⟩, ?_⟩
      exact ⟨accounted.held, accounted.justified, trivial⟩
  | withdraw answers established here =>
    rw [here] at index
    obtain ⟨before, ended, same⟩ := index
    obtain ⟨-, shape⟩ | ⟨error, shape⟩ :=
      applyInitialMtu_cases cfg s answers (rotated cfg established) <;> rw [shape]
    · refine ⟨rotating_unlogged rotating unlogged ⟨rfl, rfl⟩ (by rw [here]; rfl) ?_, ?_⟩
      · simp only [rotated]
        rw [ended, choice_concat, ← same]
      · exact ⟨accounted.held, accounted.justified, trivial⟩
    · refine ⟨rotating_unlogged rotating unlogged ⟨rfl, rfl⟩ (by rw [here]; rfl) ⟨below, nofun⟩, ?_⟩
      exact ⟨accounted.held, accounted.justified, trivial⟩
  | received took packet here fits =>
    exact capture_tracked below rotating accounted here _ packet
  | connect here =>
    exact ⟨attempt_rotating nonempty rotating here, attempt_accounted accounted here⟩
  | finish position error here ended =>
    exact ⟨finish_rotating rotating here _, finish_accounted accounted here ended⟩
  | session input position endpoint after here found moved =>
    rw [here] at index
    obtain ⟨stays, events, log, inner⟩ := session_accounted accounted here moved
    refine ⟨rotating_unlogged rotating log (inner_counts inner) (by rw [here]; rfl) index, stays⟩
  | slept took here waited =>
    rw [here] at index
    refine ⟨rotating_unlogged rotating unlogged ⟨rfl, rfl⟩ (by rw [here]; rfl) index, ?_⟩
    exact ⟨accounted.held, accounted.justified, trivial⟩

/-- Nothing has happened before the first call. -/
theorem start_tracked (dev : NativeTun.TunRsDevice) (now : Instant) :
    Rotating cfg (start dev now) ∧ Accounted cfg (start dev now) :=
  ⟨⟨nofun, rfl, rfl⟩, rfl, Trace.justified_nil, trivial⟩

/-- Over every run: the index stays in the list and an empty list is never
found, the attempt behind an established session uses endpoint 0, as many
failures in a row as there are endpoints meet every endpoint exactly once in
cyclic order, and the log accounts for the packet captured on demand. -/
theorem endpoint_rotation_and_pending_packet (spkiOf : Bytes → Option Bytes) (cfg : MasqueConfig)
    (mtu : ℕ) (dev : NativeTun.TunRsDevice) (now : Instant) (s : Supervisor)
    (nonempty : cfg.endpoints ≠ [])
    (reached : Transition.Reachable (step spkiOf cfg mtu) (start dev now) s) :
    let count := cfg.endpoints.length
    (s.endpointIndex < count ∧ s.stage ≠ .returned .noEndpoint) ∧
    (∀ k index, (outcomes s.log)[k]? = some true → (attempts s.log)[k + 1]? = some index →
      index = 0) ∧
    (∀ k, (∀ j < count, (outcomes s.log)[k + j]? = some false) →
      ∃ first < count, ((attempts s.log).drop k).take count =
          (List.range count).map (fun j => (first + j) % count) ∧
        (((attempts s.log).drop k).take count).Perm (List.range count)) ∧
    Trace.Justified (OnDemand cfg) s.log ∧ s.pending = held s.log := by
  have filled : 0 < cfg.endpoints.length := List.length_pos_iff.mpr nonempty
  obtain ⟨rotating, accounted⟩ := reached.invariant
    (fun s => Rotating cfg s ∧ Accounted cfg s)
    (fun s input next tracked stepped => step_tracked filled tracked.1 tracked.2 stepped)
    (start_tracked dev now)
  refine ⟨⟨rotating_index_lt filled rotating, ?_⟩, ?_, ?_, accounted.justified, accounted.held⟩
  · intro ended
    have index := rotating.index
    rw [ended] at index
    exact index.2 rfl
  · intro k index succeeded visited
    rw [rotating.visited (k + 1) index visited, List.take_add_one, succeeded, Option.toList_some,
      choice_concat]
    rfl
  · intro k failed
    have lengths := rotating.counted
    have whole : k + cfg.endpoints.length ≤ (attempts s.log).length := by
      have last := failed (cfg.endpoints.length - 1) (by omega)
      have below := (List.getElem?_eq_some_iff.mp last).1
      omega
    have cyclic : ((attempts s.log).drop k).take cfg.endpoints.length =
        (List.range cfg.endpoints.length).map fun j =>
          (choice cfg.endpoints.length ((outcomes s.log).take k) + j) % cfg.endpoints.length := by
      apply List.ext_getElem
      · simp only [List.length_take, List.length_drop, List.length_map, List.length_range]
        omega
      · intro j inner _
        have within : j < cfg.endpoints.length := by
          simp only [List.length_take] at inner
          omega
        have here : k + j < (attempts s.log).length := by omega
        simp only [List.getElem_take, List.getElem_drop, List.getElem_map, List.getElem_range]
        rw [rotating.visited (k + j) _ (List.getElem?_eq_getElem here)]
        apply choice_after_failures filled
        intro i below
        exact failed i (Nat.lt_trans below within)
    refine ⟨_, choice_lt filled _, cyclic, ?_⟩
    rw [cyclic]
    exact rotation_perm _ _

/-- Two failures in a row over two endpoints. -/
theorem endpoint_rotation_and_pending_packet_small :
    ∃ s : Supervisor, outcomes s.log = [false, false] ∧ s.pending = some DataLoop.smallPacket ∧
      s.endpointIndex < 2 ∧ ((attempts s.log).take 2).Perm [0, 1] := by
  obtain ⟨s, reached, found⟩ := execute_reaches (fun _ => none) RunTunnel.smallLaunch
    (wakeInputs ++ retryInputs ++ retryInputs)
    (fun s => decide (outcomes s.log = [false, false] ∧ s.pending = some DataLoop.smallPacket))
    (by decide)
  obtain ⟨failed, kept⟩ := of_decide_eq_true found
  obtain ⟨⟨below, -⟩, -, cyclic, -⟩ := endpoint_rotation_and_pending_packet (fun _ => none)
    RunTunnel.smallLaunch.cfg RunTunnel.smallLaunch.mtu RunTunnel.smallLaunch.dev 0 s (by decide)
    reached
  have both : ∀ j < RunTunnel.smallLaunch.cfg.endpoints.length,
      (outcomes s.log)[0 + j]? = some false := by
    rw [failed]
    decide
  obtain ⟨first, -, -, every⟩ := cyclic 0 both
  exact ⟨s, failed, kept, below, every⟩

end Usque.Supervisor
