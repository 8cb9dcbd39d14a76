import Usque.DataLoopSteps

/-! The tunnel lives as long as its CONNECT-IP stream: a closing answer of the
HTTP/3 poll ends the pump in that same iteration. -/
namespace Usque.DataLoop

open Http3

variable {a : LoopArgs} {s next : DataLoop a} {label : Label}

/-- Nothing happens after the pump has returned. -/
theorem ended_is_final {error : LoopError} (ended : s.stage = .ended error)
    (reached : Transition.Reachable step s next) : next = s := by
  obtain ⟨labels, ran⟩ := reached
  cases labels with
  | nil => exact (Option.some.inj ran).symm
  | cons label rest =>
    obtain ⟨middle, stepped, -⟩ := Transition.run_cons_iff.mp ran
    exact absurd ended ((step_called stepped).1 error)

/-- A poll that fails ends the pump and changes nothing else. -/
theorem polled_error {polls : List PollAnswer} {bodies : List BodyAnswer} {message : String}
    (failed : (pollH3 a.connectStreamId polls bodies).1 = .error message)
    (stepped : step s (.pump (.polled polls bodies)) = some next) :
    next = s.fail (.http3 message) := by
  cases (step_called stepped).2 with
  | polled polls bodies here => simp only [pollTunnel, failed]

/-- `poll_h3` fails exactly on a closing answer before the first `Done` and
consumes everything else, and the iteration that polls a closing answer ends the
pump before another packet goes to the TUN or into quiche. -/
theorem tunnel_follows_connect_stream :
    (∀ connectStreamId polls bodies,
      (∃ message, (pollH3 connectStreamId polls bodies).1 = .error message) ↔
        ∃ answer ∈ polls.takeWhile (· ≠ .done), Closes connectStreamId answer) ∧
    (∀ connectStreamId before after bodies,
      (∀ answer ∈ before, ¬ Closes connectStreamId answer ∧ answer ≠ .done) →
        ∃ left, pollH3 connectStreamId (before ++ after) bodies =
          pollH3 connectStreamId after left) ∧
    (∀ (a : LoopArgs) (s next : DataLoop a) polls bodies,
      step s (.pump (.polled polls bodies)) = some next →
      (∃ answer ∈ polls.takeWhile (· ≠ .done), Closes a.connectStreamId answer) →
        (∃ message, next.stage = .ended (.http3 message)) ∧
        ∀ later, Transition.Reachable step next later →
          later.stage = next.stage ∧ later.tunWrites = s.tunWrites ∧
            later.up.sent = s.up.sent) := by
  refine ⟨pollH3_error_iff, fun _ before after bodies foreign =>
    pollH3_consumes_all foreign after bodies, fun a s next polls bodies stepped closing => ?_⟩
  obtain ⟨message, failed⟩ := (pollH3_error_iff a.connectStreamId polls bodies).mpr closing
  obtain rfl := polled_error failed stepped
  refine ⟨⟨message, rfl⟩, fun later reached => ?_⟩
  obtain rfl := ended_is_final rfl reached
  exact ⟨rfl, rfl, rfl⟩

end Usque.DataLoop
