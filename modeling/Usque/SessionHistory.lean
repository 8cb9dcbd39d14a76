import Usque.Lib.Trace
import Usque.SessionSteps

/-! The log as a history of attempts. A session attempt only adds events of its
own kind behind the event that opened it, hands the captured packet over at most
once and only after it was announced, and knows whether it was established. -/
namespace Usque

/-- What a session attempt logs itself; the rest is logged by the supervisor. -/
def Event.Inner : Event → Prop
  | .captured _ | .attempted _ _ | .ended _ => False
  | _ => True

/-- An event of the attempt that has nothing to do with the captured packet. -/
def Event.Harmless (event : Event) : Prop :=
  event.Inner ∧ (∀ packet, event ≠ .handed packet) ∧ ∀ dgram, event ≠ .sent (.pending dgram)

/-- The attempt under way: its endpoint, and what it has logged so far. -/
def InAttempt (log : List Event) (index : ℕ) (endpoint : MasqueEndpoint)
    (events : List Event) : Prop :=
  (∃ earlier, log = earlier ++ .attempted index endpoint :: events) ∧ ∀ event ∈ events, event.Inner

/-- The packet held after an event. -/
def hold (held : Option Bytes) : Event → Option Bytes
  | .captured packet => some packet
  | .handed _ => none
  | _ => held

/-- The packet held after a history. -/
def held (log : List Event) : Option Bytes := log.foldl hold none

theorem held_append (log events : List Event) : held (log ++ events) = events.foldl hold (held log) := by
  rw [held, List.foldl_append, held]

/-- Events that neither capture nor hand over leave the held packet alone. -/
theorem foldl_hold_keeps {events : List Event} (held : Option Bytes)
    (inner : ∀ event ∈ events, event.Inner) (kept : ∀ packet, Event.handed packet ∉ events) :
    events.foldl hold held = held := by
  induction events with
  | nil => rfl
  | cons event rest ih =>
    have tail : rest.foldl hold held = held := by
      apply ih
      · intro other member
        exact inner other (List.mem_cons_of_mem _ member)
      · intro packet member
        exact kept packet (List.mem_cons_of_mem _ member)
    have own := inner event List.mem_cons_self
    cases event with
    | captured packet => exact own.elim
    | handed packet => exact absurd List.mem_cons_self (kept packet)
    | _ => exact tail

theorem InAttempt.append {log events more : List Event} {index : ℕ} {endpoint : MasqueEndpoint}
    (inside : InAttempt log index endpoint events) (inner : ∀ event ∈ more, event.Inner) :
    InAttempt (log ++ more) index endpoint (events ++ more) := by
  obtain ⟨⟨earlier, split⟩, old⟩ := inside
  refine ⟨⟨earlier, by simp [split]⟩, ?_⟩
  intro event member
  rcases List.mem_append.mp member with before | new
  · exact old event before
  · exact inner event new

theorem InAttempt.opened (log : List Event) (index : ℕ) (endpoint : MasqueEndpoint) :
    InAttempt (log ++ [.attempted index endpoint]) index endpoint [] :=
  ⟨⟨log, rfl⟩, nofun⟩

namespace Session

open NativeTun

variable {spkiOf : Bytes → Option Bytes} {cfg : MasqueConfig} {endpoint : MasqueEndpoint}
  {mtu : ℕ} {s next : Session} {input : Input}

/-- What a step adds to the log, and how that accounts for the held packet. -/
structure Logged (s next : Session) (events : List Event) : Prop where
  log : next.log = s.log ++ events
  inner : ∀ event ∈ events, event.Inner
  pending : next.pending = events.foldl hold s.pending

theorem opening_inner {latency : ℕ} :
    ∀ event ∈ opening cfg latency, event.Harmless := by
  intro event member
  rcases opening_cases member with rfl | rfl | ⟨name, rfl⟩
  · exact ⟨trivial, nofun, nofun⟩
  · exact ⟨trivial, nofun, nofun⟩
  · exact ⟨trivial, nofun, nofun⟩

theorem closing_inner :
    ∀ event ∈ closing cfg, event.Harmless := by
  intro event member
  rcases closing_cases member with rfl | rfl | ⟨name, rfl⟩
  · exact ⟨trivial, nofun, nofun⟩
  · exact ⟨trivial, nofun, nofun⟩
  · exact ⟨trivial, nofun, nofun⟩

private theorem sent_inner {α : Type} {items : List α} {what : α → Sent}
    (other : ∀ item pending, what item ≠ .pending pending) :
    ∀ event ∈ items.map fun item => Event.sent (what item), event.Harmless := by
  intro event member
  obtain ⟨item, -, rfl⟩ := List.mem_map.mp member
  refine ⟨trivial, nofun, ?_⟩
  intro pending same
  exact other item pending (Event.sent.inj same)

private theorem pumpEvents_inner {a : LoopArgs} {before after : DataLoop a} :
    ∀ event ∈ pumpEvents before after, event.Harmless := by
  intro event member
  rcases List.mem_append.mp member with uplink | report
  · exact sent_inner nofun event uplink
  · exact sent_inner nofun event report

/-- The datagram of the captured packet. -/
private theorem pending_inner {dgrams : List Bytes} :
    ∀ event ∈ dgrams.map fun dgram => Event.sent (.pending dgram),
      event.Inner ∧ ∀ packet, event ≠ .handed packet := by
  intro event member
  obtain ⟨dgram, -, rfl⟩ := List.mem_map.mp member
  exact ⟨trivial, nofun⟩

/-- A list of events is harmless when each one is. -/
private theorem logged_of_harmless {events : List Event} (log : next.log = s.log ++ events)
    (harmless : ∀ event ∈ events, event.Harmless)
    (pending : next.pending = s.pending) : Logged s next events := by
  have inner : ∀ event ∈ events, event.Inner := fun event member => (harmless event member).1
  refine ⟨log, inner, pending.trans (foldl_hold_keeps s.pending inner ?_).symm⟩
  intro packet member
  exact (harmless _ member).2.1 packet rfl

/-- The captured packet leaves with the event that hands it over. -/
private theorem logged_handed {packet : Bytes} {dgrams : List Bytes}
    (log : next.log = s.log ++ .handed packet :: dgrams.map fun dgram => .sent (.pending dgram))
    (pending : next.pending = none) :
    Logged s next (.handed packet :: dgrams.map fun dgram => .sent (.pending dgram)) := by
  refine ⟨log, ?_, ?_⟩
  · intro event member
    rcases List.mem_cons.mp member with rfl | sent
    · trivial
    · exact (pending_inner event sent).1
  · rw [pending, List.foldl_cons]
    have tail : (dgrams.map fun dgram => Event.sent (.pending dgram)).foldl hold none = none := by
      apply foldl_hold_keeps
      · intro event member
        exact (pending_inner event member).1
      · intro other member
        exact (pending_inner _ member).2 other rfl
    exact tail.symm

/-- What the position knows about the attempt's own history. -/
def Honest (s : Session) (events : List Event) : Prop :=
  match phase s.stage with
  | .unverified | .verified | .requested =>
    s.sessionEstablished = false ∧ ∀ packet, Event.handed packet ∉ events
  | .announced => s.sessionEstablished = true ∧ Event.statsSpawned ∈ events
  | .serving => s.sessionEstablished = true ∧ s.pending = none
  | .returned =>
    if s.sessionEstablished then s.pending = none else ∀ packet, Event.handed packet ∉ events

/-- The captured packet in a step's events: only an announced session hands it
over, only the held one, and at most one datagram follows. -/
structure InOrder (earlier : List Event) (pending : Option Bytes) (new : List Event) : Prop where
  handed : ∀ before packet after, new = before ++ .handed packet :: after →
    before = [] ∧ pending = some packet ∧ Event.statsSpawned ∈ earlier
  sent : ∀ before dgram after, new = before ++ .sent (.pending dgram) :: after →
    ∃ packet flowPrefix, before.getLast? = some (.handed packet) ∧
      dgram = flowPrefix ++ (Packet.prepareOutgoing packet).2

private theorem inOrder_of_harmless {earlier events : List Event} {pending : Option Bytes}
    (harmless : ∀ event ∈ events, event.Harmless) : InOrder earlier pending events := by
  constructor
  · intro before packet after split
    have member : Event.handed packet ∈ events := by simp [split]
    exact absurd rfl ((harmless _ member).2.1 packet)
  · intro before dgram after split
    have member : Event.sent (.pending dgram) ∈ events := by simp [split]
    exact absurd rfl ((harmless _ member).2.2 dgram)

private theorem inOrder_handed {earlier : List Event} {pending : Option Bytes} {packet : Bytes}
    {dgrams : List Bytes} (held : pending = some packet) (once : PendingDgrams packet dgrams)
    (spawned : Event.statsSpawned ∈ earlier) :
    InOrder earlier pending
      (.handed packet :: dgrams.map fun dgram => .sent (.pending dgram)) := by
  constructor
  · intro before other after split
    cases before with
    | nil =>
      obtain ⟨same, -⟩ := List.cons.inj split
      cases same
      exact ⟨rfl, held, spawned⟩
    | cons head rest =>
      obtain ⟨-, tail⟩ := List.cons.inj split
      have member : Event.handed other ∈ dgrams.map fun dgram => Event.sent (.pending dgram) := by
        simp [tail]
      exact absurd rfl ((pending_inner _ member).2 other)
  · intro before dgram after split
    cases before with
    | nil => cases split
    | cons head rest =>
      obtain ⟨rfl, tail⟩ := List.cons.inj split
      rcases once with rfl | ⟨flowPrefix, rfl⟩
      · simp at tail
      · obtain ⟨rfl, rfl, rfl⟩ : rest = [] ∧ dgram = flowPrefix ++ (Packet.prepareOutgoing packet).2 ∧
            after = [] := by
          cases rest with
          | nil => simpa [eq_comm] using tail
          | cons head rest => simp at tail
        exact ⟨packet, flowPrefix, rfl, rfl⟩

/-- Before the response nothing is handed over and nothing is established. -/
private theorem honest_early {events : List Event} (honest : Honest s events)
    (early : (phase s.stage).Early) :
    s.sessionEstablished = false ∧ ∀ packet, Event.handed packet ∉ events := by
  rcases early with here | here | here <;> simpa only [Honest, here] using honest

private theorem honest_announced {events : List Event} (honest : Honest s events)
    (here : phase s.stage = .announced) :
    s.sessionEstablished = true ∧ Event.statsSpawned ∈ events := by
  simpa only [Honest, here] using honest

private theorem honest_serving {events : List Event} (honest : Honest s events)
    (here : phase s.stage = .serving) : s.sessionEstablished = true ∧ s.pending = none := by
  simpa only [Honest, here] using honest

private theorem not_handed_append {events more : List Event}
    (before : ∀ packet, Event.handed packet ∉ events)
    (harmless : ∀ event ∈ more, event.Harmless) :
    ∀ packet, Event.handed packet ∉ events ++ more := by
  intro packet member
  rcases List.mem_append.mp member with old | new
  · exact before packet old
  · exact (harmless _ new).2.1 packet rfl

private theorem harmless_singleton {event : Event} (harmless : event.Harmless) :
    ∀ member ∈ [event], member.Harmless := by
  intro member found
  cases List.mem_singleton.mp found
  exact harmless

/-- The regular steps. -/
private theorem moved_history {events : List Event} (honest : Honest s events)
    (moved : Moved spkiOf cfg endpoint mtu s next) :
    ∃ more, Logged s next more ∧ InOrder events s.pending more ∧ Honest next (events ++ more) := by
  have nothing : ∀ event ∈ ([] : List Event), event.Harmless := nofun
  cases moved with
  | within adds same outside =>
    refine ⟨[], logged_of_harmless adds.log nothing adds.pending, inOrder_of_harmless nothing, ?_⟩
    rw [List.append_nil]
    simpa only [Honest, same, adds.established, adds.pending] using honest
  | failed adds early ends =>
    obtain ⟨unestablished, kept⟩ := honest_early honest early
    refine ⟨[], logged_of_harmless adds.log nothing adds.pending, inOrder_of_harmless nothing, ?_⟩
    simpa [Honest, ends, adds.established, unestablished] using kept
  | unchecked adds insecure before after =>
    obtain ⟨unestablished, kept⟩ := honest_early honest (.inl before)
    refine ⟨[], logged_of_harmless adds.log nothing adds.pending, inOrder_of_harmless nothing, ?_⟩
    simpa [Honest, after, adds.established, unestablished] using kept
  | accepted cert valid adds before after =>
    obtain ⟨unestablished, kept⟩ := honest_early honest (.inl before)
    have harmless := harmless_singleton (show (Event.accepted cert).Harmless from ⟨trivial, nofun, nofun⟩)
    refine ⟨_, logged_of_harmless adds.log harmless adds.pending, inOrder_of_harmless harmless, ?_⟩
    simp only [Honest, after]
    exact ⟨adds.established.trans unestablished, not_handed_append kept harmless⟩
  | requested adds before after =>
    obtain ⟨unestablished, kept⟩ := honest_early honest (.inr (.inl before))
    have harmless := harmless_singleton (show (Event.sent .request).Harmless from ⟨trivial, nofun, nofun⟩)
    refine ⟨_, logged_of_harmless adds.log harmless adds.pending, inOrder_of_harmless harmless, ?_⟩
    simp only [Honest, after]
    exact ⟨adds.established.trans unestablished, not_handed_append kept harmless⟩
  | announced latency before after device moments pending established published log =>
    refine ⟨_, logged_of_harmless log opening_inner pending, inOrder_of_harmless opening_inner, ?_⟩
    simp only [Honest, after]
    exact ⟨established, by simp [opening]⟩
  | probed dgrams adds before after =>
    obtain ⟨established, spawned⟩ := honest_announced honest before
    have harmless : ∀ event ∈ dgrams.map fun dgram => Event.sent (.probe dgram),
        event.Harmless := sent_inner nofun
    refine ⟨_, logged_of_harmless adds.log harmless adds.pending, inOrder_of_harmless harmless, ?_⟩
    simp only [Honest, after]
    exact ⟨adds.established.trans established, List.mem_append_left _ spawned⟩
  | unneeded adds idle before after outside =>
    obtain ⟨established, -⟩ := honest_announced honest before
    refine ⟨[], logged_of_harmless adds.log nothing adds.pending, inOrder_of_harmless nothing, ?_⟩
    simp only [Honest, after]
    exact ⟨adds.established.trans established, adds.pending.trans idle⟩
  | handed packet dgrams held once before after outside device moments pending published established
      log =>
    obtain ⟨announced, spawned⟩ := honest_announced honest before
    refine ⟨_, logged_handed log pending, inOrder_handed held once spawned, ?_⟩
    simp only [Honest, after]
    exact ⟨established.trans announced, pending⟩
  | entered tunnel loop adds before there device =>
    obtain ⟨established, idle⟩ := honest_serving honest before
    refine ⟨[], logged_of_harmless adds.log nothing adds.pending, inOrder_of_harmless nothing, ?_⟩
    simp only [Honest, there, phase]
    exact ⟨adds.established.trans established, adds.pending.trans idle⟩
  | pumped a loop after label here stepped same =>
    obtain ⟨established, idle⟩ := honest_serving honest (by rw [here]; rfl)
    subst same
    refine ⟨_, logged_of_harmless rfl pumpEvents_inner rfl,
      inOrder_of_harmless pumpEvents_inner, ?_⟩
    exact ⟨established, idle⟩
  | cleaned before after device moments pending established published log =>
    obtain ⟨up, idle⟩ := honest_serving honest before
    refine ⟨_, logged_of_harmless log closing_inner pending, inOrder_of_harmless closing_inner, ?_⟩
    simp only [Honest, after, established, up, if_true]
    exact pending.trans idle

/-- One step of an attempt: what it logs, in order, and that the position stays
honest about it. -/
theorem step_history {events : List Event}
    (honest : Honest s events) (stepped : step spkiOf cfg endpoint mtu s input = some next) :
    ∃ more, Logged s next more ∧ InOrder events s.pending more ∧ Honest next (events ++ more) := by
  rcases step_moved stepped with ⟨-, moved⟩ | ⟨-, abandoned⟩
  · exact moved_history honest moved
  · cases abandoned with
    | sending packet dgrams held once before after device moments pending published established log =>
      obtain ⟨announced, spawned⟩ := honest_announced honest before
      refine ⟨_, logged_handed log pending, inOrder_handed held once spawned, ?_⟩
      simp only [Honest, after, established, announced, if_true]
      exact pending
    | flushing adds before after =>
      obtain ⟨established, idle⟩ := honest_serving honest before
      refine ⟨[], logged_of_harmless adds.log nofun adds.pending, inOrder_of_harmless nofun, ?_⟩
      simp only [Honest, after, adds.established, established, if_true]
      exact adds.pending.trans idle

end Session
end Usque
