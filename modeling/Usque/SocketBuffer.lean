import Mathlib.Algebra.Group.Nat.Defs
import Mathlib.Data.List.Basic

/-! The negotiation of a UDP socket buffer's size (`tune_socket_buffer` in
`api/masque/udp.rs`): requests that double up to the target, then a bisection below
the first rejected one. The kernel answers every request as it likes, but a rejected
request leaves the size in force. -/
namespace Usque.SocketBuffer

def minUdpSocketBuffer : ℕ := 64 * 1024
def udpSocketBufferSearchGranularity : ℕ := 64 * 1024

/-- `usize::MAX` on a 64-bit target. -/
def usizeMax : ℕ := 2 ^ 64 - 1

structure SocketBufferTuning (ε : Type) where
  initial : ℕ
  effective : ℕ
  target : ℕ
  targetAccepted : Bool
  limitError : Option ε
  deriving DecidableEq

/-! ## The kernel's side -/

/-- How a kernel answers: to the `n`-th request, for this size, with the size then
in force or an error, and whether the `n`-th read fails. -/
structure Kernel (ε : Type) where
  request : ℕ → ℕ → Except ε ℕ
  readFails : ℕ → Option ε

/-- One socket buffer. The requests, oldest first, and whether each was accepted
are history. -/
structure Socket where
  inForce : ℕ
  requests : List (ℕ × Bool) := []
  reads : ℕ := 0
  deriving DecidableEq

variable {ε : Type}

namespace Socket

/-- `set_size`. -/
def setSize (kernel : Kernel ε) (socket : Socket) (size : ℕ) : Except ε Unit × Socket :=
  match kernel.request socket.requests.length size with
  | .ok inForce => (.ok (), { socket with
      inForce := inForce
      requests := socket.requests ++ [(size, true)] })
  | .error e => (.error e, { socket with requests := socket.requests ++ [(size, false)] })

/-- `get_size`. -/
def getSize (kernel : Kernel ε) (socket : Socket) : Except ε ℕ × Socket :=
  match kernel.readFails socket.reads with
  | some e => (.error e, { socket with reads := socket.reads + 1 })
  | none => (.ok socket.inForce, { socket with reads := socket.reads + 1 })

/-- The sizes accepted so far. -/
def accepted (socket : Socket) : List ℕ :=
  socket.requests.filterMap fun request => if request.2 then some request.1 else none

end Socket

/-! ## The search -/

def checkedAdd (left right : ℕ) : Option ℕ :=
  if left + right ≤ usizeMax then some (left + right) else none

def checkedSub (left right : ℕ) : Option ℕ :=
  if right ≤ left then some (left - right) else none

def checkedMul (left right : ℕ) : Option ℕ :=
  if left * right ≤ usizeMax then some (left * right) else none

def saturatingMul (left right : ℕ) : ℕ := min (left * right) usizeMax

/-- The request between two bounds, rounded down to the granularity; none where
the arithmetic would overflow. -/
def midpoint (low high : ℕ) : Option ℕ := do
  let width ← checkedSub high low
  let middle ← checkedAdd low (width / 2)
  checkedMul (middle / udpSocketBufferSearchGranularity) udpSocketBufferSearchGranularity

private theorem checked_some {condition : Prop} [Decidable condition] {value result : ℕ}
    (found : (if condition then some value else none) = some result) : value = result := by
  by_cases fits : condition
  · rw [if_pos fits] at found
    exact Option.some.inj found
  · rw [if_neg fits] at found
    cases found

theorem midpoint_lt {low high middle : ℕ} (wide : low < high)
    (found : midpoint low high = some middle) : middle < high := by
  obtain ⟨width, subtracted, found⟩ := Option.bind_eq_some_iff.mp found
  obtain ⟨halfway, added, multiplied⟩ := Option.bind_eq_some_iff.mp found
  have first : high - low = width := checked_some subtracted
  have second : low + width / 2 = halfway := checked_some added
  have third : halfway / udpSocketBufferSearchGranularity * udpSocketBufferSearchGranularity =
      middle := checked_some multiplied
  have half : halfway < high := by omega
  rw [← third]
  exact Nat.lt_of_le_of_lt (Nat.div_mul_le_self _ _) half

/-- What the bisection ends with. -/
inductive Refined (ε : Type) where
  | found (effective : ℕ) (limitError : ε)
  | failed (error : ε)
  | overflowed

/-- `while high.saturating_sub(low) > UDP_SOCKET_BUFFER_SEARCH_GRANULARITY`. -/
def refine (kernel : Kernel ε) (low high effective : ℕ) (limitError : ε) (socket : Socket) :
    Refined ε × Socket :=
  if wide : high - low > udpSocketBufferSearchGranularity then
    match computed : midpoint low high with
    | none => (.overflowed, socket)
    | some middle =>
      have below : middle < high := midpoint_lt (by omega) computed
      if above : middle ≤ low then (.found effective limitError, socket)
      else match socket.setSize kernel middle with
        | (.ok (), socket) =>
          match socket.getSize kernel with
          | (.ok size, socket) => refine kernel middle high size limitError socket
          | (.error e, socket) => (.failed e, socket)
        | (.error e, socket) => refine kernel low middle effective e socket
  else (.found effective limitError, socket)
termination_by high - low

/-- One growth step: an accepted request is read back, a rejected one ends the
growth. -/
inductive Attempt (ε : Type) where
  | onward (effective : ℕ) (acceptedRequest : Option ℕ)
  | rejected (limitError : ε)
  | failed (error : ε)

/-- `if candidate > initial`. -/
def attempt (kernel : Kernel ε) (initial candidate effective : ℕ) (acceptedRequest : Option ℕ)
    (socket : Socket) : Attempt ε × Socket :=
  if candidate > initial then
    match socket.setSize kernel candidate with
    | (.ok (), socket) =>
      match socket.getSize kernel with
      | (.ok size, socket) => (.onward size (some candidate), socket)
      | (.error e, socket) => (.failed e, socket)
    | (.error e, socket) => (.rejected e, socket)
  else (.onward effective acceptedRequest, socket)

/-- What `tune_socket_buffer` does: return, fail on a read, or overflow. -/
inductive Outcome (ε : Type) where
  | returned (tuning : SocketBufferTuning ε)
  | failed (error : ε)
  | overflowed
  deriving DecidableEq

/-- What follows a rejected growth step. -/
def settle (kernel : Kernel ε) (initial target candidate effective : ℕ)
    (acceptedRequest : Option ℕ) (limitError : ε) (socket : Socket) : Outcome ε × Socket :=
  let answer (effective : ℕ) (limitError : ε) : Outcome ε :=
    .returned ⟨initial, effective, target, false, some limitError⟩
  match acceptedRequest with
  | none => (answer effective limitError, socket)
  | some low =>
    match refine kernel low candidate effective limitError socket with
    | (.found effective limitError, socket) => (answer effective limitError, socket)
    | (.failed e, socket) => (.failed e, socket)
    | (.overflowed, socket) => (.overflowed, socket)

/-- `candidate.saturating_mul(2).min(target)`. -/
def nextCandidate (target candidate : ℕ) : ℕ := min (saturatingMul candidate 2) target

theorem nextCandidate_gt {target candidate : ℕ} (sized : target ≤ usizeMax)
    (some : 0 < candidate) (below : candidate < target) :
    candidate < nextCandidate target candidate := by
  unfold nextCandidate saturatingMul
  omega

theorem nextCandidate_le (target candidate : ℕ) : nextCandidate target candidate ≤ target :=
  Nat.min_le_right _ _

/-- The growing loop. The bounds on the candidate are what makes it end. -/
def grow (kernel : Kernel ε) (initial target : ℕ) (sized : target ≤ usizeMax) (candidate : ℕ)
    (bounds : 0 < candidate ∧ candidate ≤ target) (effective : ℕ) (acceptedRequest : Option ℕ)
    (socket : Socket) : Outcome ε × Socket :=
  match attempt kernel initial candidate effective acceptedRequest socket with
  | (.onward effective acceptedRequest, socket) =>
    if reached : candidate = target then
      (.returned ⟨initial, effective, target, true, none⟩, socket)
    else
      have rises := nextCandidate_gt sized bounds.1 (by omega)
      grow kernel initial target sized (nextCandidate target candidate)
        ⟨by omega, nextCandidate_le target candidate⟩ effective acceptedRequest socket
  | (.rejected e, socket) =>
    settle kernel initial target candidate effective acceptedRequest e socket
  | (.failed e, socket) => (.failed e, socket)
termination_by target - candidate
decreasing_by
  have top := nextCandidate_le target candidate
  omega

/-- `requested_target.max(MIN_UDP_SOCKET_BUFFER)`. -/
def clampTarget (requestedTarget : UInt64) : ℕ := max requestedTarget.toNat minUdpSocketBuffer

theorem clampTarget_le (requestedTarget : UInt64) : clampTarget requestedTarget ≤ usizeMax := by
  have bound := requestedTarget.toNat_lt
  simp only [clampTarget, minUdpSocketBuffer, usizeMax]
  omega

theorem minimum_bounds (requestedTarget : UInt64) :
    0 < minUdpSocketBuffer ∧ minUdpSocketBuffer ≤ clampTarget requestedTarget :=
  ⟨by decide, Nat.le_max_right _ _⟩

def tuneSocketBuffer (kernel : Kernel ε) (requestedTarget : UInt64) (socket : Socket) :
    Outcome ε × Socket :=
  let target := clampTarget requestedTarget
  match socket.getSize kernel with
  | (.error e, socket) => (.failed e, socket)
  | (.ok initial, socket) =>
    if initial ≥ target then (.returned ⟨initial, initial, target, true, none⟩, socket)
    else grow kernel initial target (clampTarget_le requestedTarget) minUdpSocketBuffer
      (minimum_bounds requestedTarget) initial none socket

/-! ## Safety against every kernel -/

/-- The middle of two bounds, rounded down to the granularity. -/
def roundedMiddle (low high : ℕ) : ℕ :=
  (low + (high - low) / 2) / udpSocketBufferSearchGranularity * udpSocketBufferSearchGranularity

/-- Rounding down fits wherever the number does. -/
theorem checkedMul_rounded {number unit : ℕ} (fits : number ≤ usizeMax) :
    checkedMul (number / unit) unit = some (number / unit * unit) :=
  if_pos (Nat.le_trans (Nat.div_mul_le_self number unit) fits)

theorem midpoint_eq {low high : ℕ} (wide : low < high) (sized : high ≤ usizeMax) :
    midpoint low high = some (roundedMiddle low high) := by
  have half : low + (high - low) / 2 < high := by omega
  have fits : low + (high - low) / 2 ≤ usizeMax := Nat.le_trans (Nat.le_of_lt half) sized
  have subtracted : checkedSub high low = some (high - low) := if_pos (Nat.le_of_lt wide)
  have added : checkedAdd low ((high - low) / 2) = some (low + (high - low) / 2) := if_pos fits
  refine Option.bind_eq_some_iff.mpr ⟨_, subtracted, Option.bind_eq_some_iff.mpr ⟨_, added, ?_⟩⟩
  exact checkedMul_rounded fits

theorem roundedMiddle_lt {low high : ℕ} (wide : low < high) : roundedMiddle low high < high := by
  have half : low + (high - low) / 2 < high := by omega
  exact Nat.lt_of_le_of_lt (Nat.div_mul_le_self _ _) half

theorem refine_narrow (kernel : Kernel ε) {low high effective : ℕ} {limitError : ε} {socket : Socket}
    (narrow : high - low ≤ udpSocketBufferSearchGranularity) :
    refine kernel low high effective limitError socket = (.found effective limitError, socket) := by
  rw [refine, dif_neg (Nat.not_lt.mpr narrow)]

/-- One turn of the bisection on bounds that fit a `usize`. -/
theorem refine_wide (kernel : Kernel ε) {low high effective : ℕ} {limitError : ε} {socket : Socket}
    (wide : high - low > udpSocketBufferSearchGranularity) (sized : high ≤ usizeMax) :
    refine kernel low high effective limitError socket =
      if roundedMiddle low high ≤ low then (.found effective limitError, socket)
      else match socket.setSize kernel (roundedMiddle low high) with
        | (.ok (), socket) =>
          match socket.getSize kernel with
          | (.ok size, socket) =>
            refine kernel (roundedMiddle low high) high size limitError socket
          | (.error e, socket) => (.failed e, socket)
        | (.error e, socket) => refine kernel low (roundedMiddle low high) effective e socket := by
  have computed := midpoint_eq (by omega : low < high) sized
  rw [refine, dif_pos wide]
  split
  · rename_i overflowed
    rw [computed] at overflowed
    cases overflowed
  · rename_i middle found
    obtain rfl := Option.some.inj (found.symm.trans computed)
    split_ifs <;> rfl

namespace Socket

/-- The socket after a request was accepted. -/
def accept (socket : Socket) (size inForce : ℕ) : Socket :=
  { socket with inForce := inForce, requests := socket.requests ++ [(size, true)] }

/-- The socket after a request was rejected: the size in force stays. -/
def reject (socket : Socket) (size : ℕ) : Socket :=
  { socket with requests := socket.requests ++ [(size, false)] }

/-- The socket after a read. -/
def read (socket : Socket) : Socket := { socket with reads := socket.reads + 1 }

theorem setSize_cases (kernel : Kernel ε) (socket : Socket) (size : ℕ) :
    (∃ inForce, socket.setSize kernel size = (.ok (), socket.accept size inForce)) ∨
      ∃ e, socket.setSize kernel size = (.error e, socket.reject size) := by
  unfold setSize
  cases kernel.request socket.requests.length size with
  | ok inForce => exact .inl ⟨inForce, rfl⟩
  | error e => exact .inr ⟨e, rfl⟩

theorem getSize_cases (kernel : Kernel ε) (socket : Socket) :
    socket.getSize kernel = (.ok socket.inForce, socket.read) ∨
      ∃ e, socket.getSize kernel = (.error e, socket.read) := by
  unfold getSize
  cases kernel.readFails socket.reads with
  | none => exact .inl rfl
  | some e => exact .inr ⟨e, rfl⟩

@[simp] theorem accepted_accept (socket : Socket) (size inForce : ℕ) :
    (socket.accept size inForce).accepted = socket.accepted ++ [size] := by
  simp [accepted, accept]

@[simp] theorem accepted_reject (socket : Socket) (size : ℕ) :
    (socket.reject size).accepted = socket.accepted := by
  simp [accepted, reject]

@[simp] theorem accepted_read (socket : Socket) : socket.read.accepted = socket.accepted := rfl

end Socket

/-- Every request lay above the initial size and within the target, and the
accepted ones rose. -/
structure Sound (initial target : ℕ) (socket : Socket) : Prop where
  within : ∀ request ∈ socket.requests, initial < request.1 ∧ request.1 ≤ target
  rising : socket.accepted.Pairwise (· < ·)

variable {kernel : Kernel ε} {initial target size : ℕ} {socket : Socket}

theorem Sound.read (sound : Sound initial target socket) : Sound initial target socket.read :=
  ⟨sound.within, sound.rising⟩

private theorem within_append {accepts : Bool}
    (within : ∀ request ∈ socket.requests, initial < request.1 ∧ request.1 ≤ target)
    (above : initial < size) (below : size ≤ target) :
    ∀ request ∈ socket.requests ++ [(size, accepts)], initial < request.1 ∧ request.1 ≤ target := by
  intro request member
  rcases List.mem_append.mp member with earlier | new
  · exact within request earlier
  · rw [List.mem_singleton.mp new]
    exact ⟨above, below⟩

theorem Sound.reject (sound : Sound initial target socket) (above : initial < size)
    (below : size ≤ target) : Sound initial target (socket.reject size) :=
  ⟨within_append sound.within above below, by simpa using sound.rising⟩

theorem Sound.accept (sound : Sound initial target socket) (above : initial < size)
    (below : size ≤ target) (rises : ∀ earlier ∈ socket.accepted, earlier < size) (inForce : ℕ) :
    Sound initial target (socket.accept size inForce) := by
  refine ⟨within_append sound.within above below, ?_⟩
  rw [Socket.accepted_accept]
  apply List.pairwise_append.mpr
  refine ⟨sound.rising, List.pairwise_singleton _ _, ?_⟩
  intro earlier member last here
  rw [List.mem_singleton.mp here]
  exact rises earlier member

/-- Between the turns of the search: what was accepted stays within `top`, the
last one is known to be in force, and with nothing accepted that is the initial
size. -/
structure Searching (initial target top effective : ℕ) (socket : Socket) : Prop where
  sound : Sound initial target socket
  inForce : effective = socket.inForce
  bounded : ∀ size ∈ socket.accepted, size ≤ top
  untouched : socket.accepted = [] → effective = initial

theorem Searching.rejected {top effective : ℕ} (searching : Searching initial target top effective socket)
    (above : initial < size) (below : size ≤ target) :
    Searching initial target top effective (socket.reject size) :=
  ⟨searching.sound.reject above below, searching.inForce,
    by simpa using searching.bounded, by simpa using searching.untouched⟩

/-- An accepted request above all others, once it has been read back. -/
theorem Searching.accepted {top effective : ℕ} (searching : Searching initial target top effective socket)
    (higher : top < size) (above : initial < size) (below : size ≤ target) (inForce : ℕ) :
    Searching initial target size (socket.accept size inForce).inForce
      (socket.accept size inForce).read := by
  have rises : ∀ earlier ∈ socket.accepted, earlier < size := by
    intro earlier member
    have bound := searching.bounded earlier member
    omega
  refine ⟨(searching.sound.accept above below rises inForce).read, rfl, ?_, ?_⟩
  · intro other member
    rw [Socket.accepted_read, Socket.accepted_accept] at member
    rcases List.mem_append.mp member with earlier | last
    · exact Nat.le_of_lt (rises other earlier)
    · exact Nat.le_of_eq (List.mem_singleton.mp last)
  · intro nothing
    rw [Socket.accepted_read, Socket.accepted_accept] at nothing
    simp at nothing

/-- The bisection never overflows, stays between its bounds and ends with the size
in force. -/
theorem refine_safe (kernel : Kernel ε) (low high effective : ℕ) (limitError : ε)
    (searching : Searching initial target low effective socket) (above : initial < low)
    (ordered : low < high) (below : high ≤ target) (sized : target ≤ usizeMax) :
    Sound initial target (refine kernel low high effective limitError socket).2 ∧
    (refine kernel low high effective limitError socket).1 ≠ .overflowed ∧
    ∀ found e, (refine kernel low high effective limitError socket).1 = .found found e →
      ∃ top < high, Searching initial target top found
        (refine kernel low high effective limitError socket).2 := by
  induction width : high - low using Nat.strongRecOn generalizing low high effective limitError socket with
  | ind width ih =>
    have stop : Sound initial target socket ∧
        (Refined.found effective limitError : Refined ε) ≠ .overflowed ∧
        ∀ found e, Refined.found effective limitError = .found found e →
          ∃ top < high, Searching initial target top found socket := by
      refine ⟨searching.sound, nofun, ?_⟩
      rintro found e ⟨⟩
      exact ⟨low, ordered, searching⟩
    by_cases wide : high - low > udpSocketBufferSearchGranularity
    · have middleBelow := roundedMiddle_lt ordered
      rw [refine_wide kernel wide (Nat.le_trans below sized)]
      generalize roundedMiddle low high = middle at *
      by_cases collapsed : middle ≤ low
      · rw [if_pos collapsed]
        exact stop
      · rw [if_neg collapsed]
        rcases Socket.setSize_cases kernel socket middle with ⟨inForce, taken⟩ | ⟨e, refused⟩
        · rw [taken]
          have next := searching.accepted (by omega : low < middle) (by omega) (by omega) inForce
          rcases Socket.getSize_cases kernel (socket.accept middle inForce) with size | ⟨e, unread⟩
          · simp only [size]
            exact ih (high - middle) (by omega) middle high _ limitError next (by omega)
              middleBelow below rfl
          · simp only [unread]
            exact ⟨next.sound, nofun, nofun⟩
        · rw [refused]
          have next : Searching initial target low effective (socket.reject middle) :=
            searching.rejected (by omega) (by omega)
          obtain ⟨sound, fits, ends⟩ := ih (middle - low) (by omega) low middle effective e
            next above (by omega) (by omega) rfl
          refine ⟨sound, fits, ?_⟩
          intro found e' answer
          obtain ⟨top, under, last⟩ := ends found e' answer
          exact ⟨top, by omega, last⟩
    · rw [refine_narrow kernel (Nat.not_lt.mp wide)]
      exact stop

/-- What a finished negotiation promises about its requests and its answer. -/
structure Negotiated (initial target : ℕ) (outcome : Outcome ε) (socket : Socket) : Prop where
  sound : Sound initial target socket
  fits : outcome ≠ .overflowed
  answer : ∀ tuning, outcome = .returned tuning →
    tuning.initial = initial ∧ tuning.target = target ∧ tuning.effective = socket.inForce ∧
    (socket.accepted = [] → tuning.effective = initial) ∧
    (tuning.targetAccepted = true ↔ target ≤ initial ∨ target ∈ socket.accepted)

private theorem negotiated_failed {e : ε} (sound : Sound initial target socket) :
    Negotiated initial target (.failed e) socket :=
  ⟨sound, nofun, nofun⟩

/-- An answer that leaves the target unreached. -/
private theorem negotiated_limited {top effective : ℕ} {limitError : ε} (short : initial < target)
    (searching : Searching initial target top effective socket) (below : top < target) :
    Negotiated initial target
      (.returned ⟨initial, effective, target, false, some limitError⟩) socket := by
  refine ⟨searching.sound, nofun, ?_⟩
  rintro tuning ⟨⟩
  refine ⟨rfl, rfl, searching.inForce, searching.untouched, ⟨nofun, ?_⟩⟩
  rintro (reached | taken)
  · omega
  · have bound := searching.bounded target taken
    omega

/-- After a rejected growth step: the bisection starts from the last accepted one. -/
private theorem settle_negotiated {top candidate effective : ℕ} {acceptedRequest : Option ℕ}
    {limitError : ε} (sized : target ≤ usizeMax) (short : initial < target)
    (searching : Searching initial target top effective socket) (below : top < candidate)
    (within : candidate ≤ target)
    (last : ∀ low, acceptedRequest = some low → low = top ∧ initial < low) :
    Negotiated initial target
      (settle kernel initial target candidate effective acceptedRequest limitError socket).1
      (settle kernel initial target candidate effective acceptedRequest limitError socket).2 := by
  unfold settle
  cases acceptedRequest with
  | none => exact negotiated_limited short searching (by omega)
  | some low =>
    obtain ⟨rfl, above⟩ := last low rfl
    obtain ⟨sound, fits, ends⟩ :=
      refine_safe kernel low candidate effective limitError searching above below within sized
    dsimp only
    split
    · rename_i found e after answer
      rw [answer] at ends
      obtain ⟨top, under, found⟩ := ends found e rfl
      exact negotiated_limited short found (by omega)
    · rename_i e after answer
      rw [answer] at sound
      exact negotiated_failed sound
    · rename_i after answer
      rw [answer] at fits
      exact absurd rfl fits

theorem attempt_cases (kernel : Kernel ε) (initial candidate effective : ℕ)
    (acceptedRequest : Option ℕ) (socket : Socket) :
    (candidate ≤ initial ∧ attempt kernel initial candidate effective acceptedRequest socket =
      (.onward effective acceptedRequest, socket)) ∨
    (initial < candidate ∧
      ((∃ inForce, attempt kernel initial candidate effective acceptedRequest socket =
        (.onward inForce (some candidate), (socket.accept candidate inForce).read)) ∨
      (∃ inForce e, attempt kernel initial candidate effective acceptedRequest socket =
        (.failed e, (socket.accept candidate inForce).read)) ∨
      ∃ e, attempt kernel initial candidate effective acceptedRequest socket =
        (.rejected e, socket.reject candidate))) := by
  unfold attempt
  by_cases above : candidate > initial
  · refine .inr ⟨above, ?_⟩
    rw [if_pos above]
    rcases Socket.setSize_cases kernel socket candidate with ⟨inForce, taken⟩ | ⟨e, refused⟩
    · rw [taken]
      rcases Socket.getSize_cases kernel (socket.accept candidate inForce) with size | ⟨e, unread⟩
      · exact .inl ⟨inForce, by simp only [size]; rfl⟩
      · exact .inr (.inl ⟨inForce, e, by simp only [unread]⟩)
    · exact .inr (.inr ⟨e, by rw [refused]⟩)
  · exact .inl ⟨Nat.not_lt.mp above, if_neg above⟩

/-- The state of the growth before it tries a candidate: nothing above `top` was
accepted, and the last accepted request is `top` itself. -/
structure Growing (initial target top effective : ℕ) (acceptedRequest : Option ℕ)
    (socket : Socket) : Prop where
  searching : Searching initial target top effective socket
  last : ∀ low, acceptedRequest = some low → low = top ∧ initial < low

/-- The growing loop upholds the contract from every state of the growth. -/
theorem grow_negotiated (sized : target ≤ usizeMax) (short : initial < target) (candidate : ℕ)
    (bounds : 0 < candidate ∧ candidate ≤ target) {top effective : ℕ}
    {acceptedRequest : Option ℕ} (below : top < candidate)
    (growing : Growing initial target top effective acceptedRequest socket) :
    Negotiated initial target
      (grow kernel initial target sized candidate bounds effective acceptedRequest socket).1
      (grow kernel initial target sized candidate bounds effective acceptedRequest socket).2 := by
  induction left : target - candidate using Nat.strongRecOn
    generalizing candidate top effective acceptedRequest socket with
  | ind left ih =>
    obtain ⟨searching, last⟩ := growing
    unfold grow
    rcases attempt_cases kernel initial candidate effective acceptedRequest socket with
      ⟨low, passed⟩ | ⟨above, ⟨inForce, taken⟩ | ⟨inForce, e, unread⟩ | ⟨e, refused⟩⟩
    · have unreached : candidate ≠ target := by omega
      have rises := nextCandidate_gt sized bounds.1 (by omega)
      simp only [passed, dif_neg unreached]
      exact ih _ (by omega) _ _ (by omega) ⟨searching, last⟩ rfl
    · have next := searching.accepted below above bounds.2 inForce
      simp only [taken]
      by_cases reached : candidate = target
      · subst reached
        rw [dif_pos rfl]
        refine ⟨next.sound, nofun, ?_⟩
        rintro tuning ⟨⟩
        refine ⟨rfl, rfl, rfl, next.untouched, ⟨fun _ => .inr (by simp), fun _ => rfl⟩⟩
      · have rises := nextCandidate_gt sized bounds.1 (by omega)
        rw [dif_neg reached]
        refine ih _ (by omega) _ _ rises ⟨next, ?_⟩ rfl
        rintro low ⟨⟩
        exact ⟨rfl, above⟩
    · have next := searching.accepted below above bounds.2 inForce
      simp only [unread]
      exact negotiated_failed next.sound
    · simp only [refused]
      exact settle_negotiated sized short (searching.rejected above bounds.2) below bounds.2 last

/-- `tune_socket_buffer` against every kernel that leaves the size alone when it
rejects a request. It returns on every input, its requests lie above the initial size
and within the target and rise when accepted, no sum or product leaves a `usize`, and
what it reports is in force. -/
theorem tune_socket_buffer_safe (kernel : Kernel ε) (requestedTarget : UInt64) (initial : ℕ) :
    Negotiated initial (max requestedTarget.toNat (64 * 1024))
      (tuneSocketBuffer kernel requestedTarget ⟨initial, [], 0⟩).1
      (tuneSocketBuffer kernel requestedTarget ⟨initial, [], 0⟩).2 := by
  have fresh : Sound initial (clampTarget requestedTarget) ⟨initial, [], 1⟩ :=
    ⟨nofun, List.Pairwise.nil⟩
  change Negotiated initial (clampTarget requestedTarget) _ _
  unfold tuneSocketBuffer
  rcases Socket.getSize_cases kernel ⟨initial, [], 0⟩ with size | ⟨e, unread⟩
  · simp only [size]
    by_cases reached : initial ≥ clampTarget requestedTarget
    · rw [if_pos reached]
      refine ⟨fresh, nofun, ?_⟩
      rintro tuning ⟨⟩
      exact ⟨rfl, rfl, rfl, fun _ => rfl, ⟨fun _ => .inl reached, fun _ => rfl⟩⟩
    · rw [if_neg reached]
      have searching : Searching initial (clampTarget requestedTarget) 0 initial
          ⟨initial, [], 1⟩ := ⟨fresh, rfl, nofun, fun _ => rfl⟩
      exact grow_negotiated (clampTarget_le requestedTarget) (Nat.not_le.mp reached) _ _
        (minimum_bounds requestedTarget).1 ⟨searching, nofun⟩
  · simp only [unread]
    exact negotiated_failed fresh

end Usque.SocketBuffer
