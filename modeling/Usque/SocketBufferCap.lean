import Usque.SocketBuffer
import Mathlib.Tactic.Ring

/-! What the negotiation gets from a kernel with a fixed cap. The bisection only
starts from an accepted growth step and only asks for multiples of its granularity, so
part of the capacity is left where no growth step was accepted or where the target's
last, odd part decides. -/
namespace Usque.SocketBuffer

variable {ε : Type}

/-- A kernel that grants what is asked up to a cap and reports it. -/
def cappedKernel (cap : ℕ) (limit : ε) : Kernel ε where
  request _ size := if size ≤ cap then .ok size else .error limit
  readFails _ := none

/-- The sizes the growth tries, as long as the target is larger. -/
def growthStep (doublings : ℕ) : ℕ := minUdpSocketBuffer * 2 ^ doublings

/-- The target without its part below the granularity. -/
def wholeTarget (target : ℕ) : ℕ :=
  target / udpSocketBufferSearchGranularity * udpSocketBufferSearchGranularity

/-- The target was accepted, or less than the granularity of the cap is left. -/
def NearlyAll (tuning : SocketBufferTuning ε) (cap : ℕ) : Prop :=
  tuning.targetAccepted = true ∨ cap - tuning.effective < udpSocketBufferSearchGranularity

variable {cap initial target : ℕ} {limit : ε} {socket : Socket}

theorem setSize_granted {size : ℕ} (granted : size ≤ cap) :
    socket.setSize (cappedKernel cap limit) size = (.ok (), socket.accept size size) := by
  have answer : (cappedKernel cap limit).request socket.requests.length size = .ok size :=
    if_pos granted
  rw [Socket.setSize, answer]
  rfl

theorem setSize_refused {size : ℕ} (refused : cap < size) :
    socket.setSize (cappedKernel cap limit) size = (.error limit, socket.reject size) := by
  have answer : (cappedKernel cap limit).request socket.requests.length size = .error limit :=
    if_neg (Nat.not_le.mpr refused)
  rw [Socket.setSize, answer]
  rfl

theorem getSize_capped : socket.getSize (cappedKernel cap limit) = (.ok socket.inForce, socket.read) :=
  rfl

/-- Between a granted multiple of the granularity and a refused bound, the bisection
comes within the granularity of the cap, unless the bound has an odd part, the cap lies
in it, and the search started below. -/
theorem refine_capped (cap : ℕ) (limit : ε) (socket : Socket) (low high : ℕ) (limitError : ε)
    (aligned : low % udpSocketBufferSearchGranularity = 0) (granted : low ≤ cap)
    (refused : cap < high) (sized : high ≤ usizeMax) :
    ∃ effective e after,
      refine (cappedKernel cap limit) low high low limitError socket =
        (.found effective e, after) ∧ effective ≤ cap ∧
      (cap - effective < udpSocketBufferSearchGranularity ↔
        cap < wholeTarget high ∨ low = wholeTarget high) := by
  simp only [udpSocketBufferSearchGranularity, wholeTarget] at aligned ⊢
  induction width : high - low using Nat.strongRecOn generalizing low high limitError socket with
  | ind width ih =>
    by_cases wide : high - low > udpSocketBufferSearchGranularity
    · have below := roundedMiddle_lt (by omega : low < high)
      have middle : roundedMiddle low high = (low + (high - low) / 2) / 65536 * 65536 := rfl
      rw [refine_wide _ wide sized]
      simp only [udpSocketBufferSearchGranularity] at wide
      by_cases collapsed : roundedMiddle low high ≤ low
      · rw [if_pos collapsed]
        exact ⟨low, limitError, socket, rfl, granted, by omega⟩
      · rw [if_neg collapsed]
        by_cases taken : roundedMiddle low high ≤ cap
        · rw [setSize_granted taken]
          obtain ⟨effective, e, after, found, fits, near⟩ := ih (high - roundedMiddle low high)
            (by omega) _ (roundedMiddle low high) high limitError (by omega) taken refused sized rfl
          exact ⟨effective, e, after, found, fits, near.trans (by omega)⟩
        · rw [setSize_refused (Nat.not_le.mp taken)]
          obtain ⟨effective, e, after, found, fits, near⟩ := ih (roundedMiddle low high - low)
            (by omega) _ low (roundedMiddle low high) limit aligned granted (Nat.not_le.mp taken)
            (by omega) rfl
          exact ⟨effective, e, after, found, fits, near.trans (by omega)⟩
    · rw [refine_narrow _ (Nat.not_lt.mp wide)]
      simp only [udpSocketBufferSearchGranularity] at wide
      exact ⟨low, limitError, socket, rfl, granted, by omega⟩

theorem growthStep_succ (doublings : ℕ) : growthStep (doublings + 1) = 2 * growthStep doublings := by
  rw [growthStep, Nat.pow_succ, growthStep]
  ring

theorem growthStep_pos (doublings : ℕ) : 0 < growthStep doublings :=
  Nat.mul_pos (by decide) (Nat.two_pow_pos _)

theorem growthStep_mono {fewer more : ℕ} (le : fewer ≤ more) : growthStep fewer ≤ growthStep more :=
  Nat.mul_le_mul_left _ (Nat.pow_le_pow_right (by omega) le)

/-- Growth steps are whole. -/
theorem growthStep_aligned (doublings : ℕ) :
    growthStep doublings % udpSocketBufferSearchGranularity = 0 :=
  Nat.mul_mod_right _ _

/-- What the negotiation ends with under a cap: the target where the cap allows it,
otherwise the initial size or the end of a bisection. -/
def Capped (initial target cap : ℕ) (tuning : SocketBufferTuning ε) : Prop :=
  (target ≤ cap → tuning.targetAccepted = true) ∧
  (cap < target → tuning.targetAccepted = false ∧
    ((∃ k, initial < growthStep k ∧ growthStep k ≤ cap) →
      (cap - tuning.effective < udpSocketBufferSearchGranularity ↔
        cap < wholeTarget target ∨ ∃ k, growthStep k = wholeTarget target)) ∧
    ((¬ ∃ k, initial < growthStep k ∧ growthStep k ≤ cap) → tuning.effective = initial))

theorem nextCandidate_growthStep (sized : target ≤ usizeMax) (k : ℕ) :
    nextCandidate target (min (growthStep k) target) = min (growthStep (k + 1)) target := by
  rw [growthStep_succ]
  unfold nextCandidate saturatingMul
  omega

/-- A whole step under a target leaves no odd part in front of it. -/
private theorem wholeTarget_bounds (target : ℕ) :
    wholeTarget target ≤ target ∧ target < wholeTarget target + udpSocketBufferSearchGranularity := by
  simp only [wholeTarget, udpSocketBufferSearchGranularity]
  omega

private theorem le_wholeTarget {k : ℕ} (le : growthStep k ≤ target) :
    growthStep k ≤ wholeTarget target := by
  have aligned := growthStep_aligned k
  simp only [wholeTarget, udpSocketBufferSearchGranularity] at aligned ⊢
  omega

private theorem wholeTarget_growthStep (k : ℕ) : wholeTarget (growthStep k) = growthStep k := by
  have aligned := growthStep_aligned k
  simp only [wholeTarget, udpSocketBufferSearchGranularity] at aligned ⊢
  omega

/-- The bisection after growth step `k` was granted and the next candidate refused. -/
private theorem settle_capped {k : ℕ} (limitError : ε) (sized : target ≤ usizeMax)
    (above : initial < growthStep k) (granted : growthStep k ≤ cap) (reached : growthStep k < target)
    (refused : cap < min (growthStep (k + 1)) target) :
    ∃ tuning after, settle (cappedKernel cap limit) initial target (min (growthStep (k + 1)) target)
      (growthStep k) (some (growthStep k)) limitError socket = (.returned tuning, after) ∧
      Capped initial target cap tuning := by
  obtain ⟨effective, e, after, found, fits, near⟩ := refine_capped cap limit socket
    (growthStep k) _ limitError (growthStep_aligned k) granted refused (by omega)
  refine ⟨⟨initial, effective, target, false, some e⟩, after, by simp only [settle, found], ?_, ?_⟩
  · intro roomy
    omega
  · intro _
    refine ⟨rfl, fun _ => near.trans ?_, fun nothing => absurd ⟨k, above, granted⟩ nothing⟩
    rcases Nat.le_total (growthStep (k + 1)) target with whole | clipped
    · rw [Nat.min_eq_left whole, wholeTarget_growthStep] at *
      have inside := le_wholeTarget whole
      exact ⟨fun _ => .inl (by omega), fun _ => .inl refused⟩
    · rw [Nat.min_eq_right clipped] at *
      constructor
      · rintro (below | same)
        · exact .inl below
        · exact .inr ⟨k, same⟩
      · rintro (below | ⟨other, same⟩)
        · exact .inl below
        · have bounds := wholeTarget_bounds target
          have inside := le_wholeTarget (Nat.le_of_lt reached)
          rcases Nat.lt_or_ge other (k + 1) with earlier | later
          · have order := growthStep_mono (Nat.le_of_lt_succ earlier)
            exact .inr (by omega)
          · have order := growthStep_mono later
            exact .inl (by omega)

/-- The growth from a granted step on. -/
private theorem grow_granted (sized : target ≤ usizeMax) (k candidate : ℕ)
    (bounds : 0 < candidate ∧ candidate ≤ target)
    (next : candidate = min (growthStep (k + 1)) target) (above : initial < growthStep k)
    (granted : growthStep k ≤ cap) (reached : growthStep k < target) :
    ∃ tuning after, grow (cappedKernel cap limit) initial target sized candidate bounds
      (growthStep k) (some (growthStep k)) socket = (.returned tuning, after) ∧
      Capped initial target cap tuning := by
  induction left : target - growthStep k using Nat.strongRecOn
    generalizing k candidate socket with
  | ind left ih =>
    have doubled := growthStep_succ k
    have positive := growthStep_pos k
    unfold grow attempt
    rw [if_pos (by omega)]
    by_cases taken : candidate ≤ cap
    · simp only [setSize_granted taken, getSize_capped]
      by_cases done : candidate = target
      · rw [dif_pos done]
        exact ⟨_, _, rfl, fun _ => rfl, fun capped => by omega⟩
      · rw [dif_neg done]
        obtain rfl : candidate = growthStep (k + 1) := by omega
        refine ih (target - growthStep (k + 1)) (by omega) (k + 1) _ _ ?_ (by omega) taken
          (by omega) rfl
        rw [next]
        exact nextCandidate_growthStep sized (k + 1)
    · subst next
      simp only [setSize_refused (Nat.not_le.mp taken)]
      exact settle_capped limit sized above granted reached (Nat.not_le.mp taken)

/-- The growth while every step so far lies within the initial size. -/
private theorem grow_untouched (sized : target ≤ usizeMax) (short : initial < target)
    (k candidate : ℕ) (bounds : 0 < candidate ∧ candidate ≤ target)
    (next : candidate = min (growthStep k) target)
    (passed : ∀ fewer < k, growthStep fewer ≤ initial) :
    ∃ tuning after, grow (cappedKernel cap limit) initial target sized candidate bounds
      initial none socket = (.returned tuning, after) ∧ Capped initial target cap tuning := by
  induction left : target - candidate using Nat.strongRecOn
    generalizing k candidate socket with
  | ind left ih =>
    unfold grow attempt
    by_cases above : candidate > initial
    · rw [if_pos above]
      by_cases taken : candidate ≤ cap
      · simp only [setSize_granted taken, getSize_capped]
        by_cases done : candidate = target
        · rw [dif_pos done]
          exact ⟨_, _, rfl, fun _ => rfl, fun capped => by omega⟩
        · rw [dif_neg done]
          obtain rfl : candidate = growthStep k := by omega
          refine grow_granted sized k _ _ ?_ above taken (by omega)
          rw [next]
          exact nextCandidate_growthStep sized k
      · -- Nothing was accepted, so there is nothing to bisect from.
        have noStep : ¬ ∃ other, initial < growthStep other ∧ growthStep other ≤ cap := by
          rintro ⟨other, aboveOther, granted⟩
          rcases Nat.lt_or_ge other k with earlier | later
          · have low := passed other earlier
            omega
          · have high := growthStep_mono later
            omega
        simp only [setSize_refused (Nat.not_le.mp taken)]
        exact ⟨_, _, rfl, fun roomy => by omega,
          fun _ => ⟨rfl, fun step => absurd step noStep, fun _ => rfl⟩⟩
    · rw [if_neg above]
      have unreached : candidate ≠ target := by omega
      have rises := nextCandidate_gt sized bounds.1 (by omega)
      obtain rfl : candidate = growthStep k := by omega
      simp only [dif_neg unreached]
      refine ih _ (by omega) (k + 1) _ _ ?_ ?_ rfl
      · rw [next]
        exact nextCandidate_growthStep sized k
      · intro fewer under
        have order := growthStep_mono (Nat.le_of_lt_succ under)
        omega

/-- Under a cap the negotiation always returns, with the target where the cap
allows it. -/
theorem tuneSocketBuffer_capped (limit : ε) (requestedTarget : UInt64) (initial cap : ℕ)
    (fits : initial ≤ cap) :
    ∃ tuning after, tuneSocketBuffer (cappedKernel cap limit) requestedTarget ⟨initial, [], 0⟩ =
      (.returned tuning, after) ∧ Capped initial (clampTarget requestedTarget) cap tuning := by
  unfold tuneSocketBuffer
  simp only [getSize_capped]
  by_cases reached : initial ≥ clampTarget requestedTarget
  · rw [if_pos reached]
    exact ⟨_, _, rfl, fun _ => rfl, fun capped => by omega⟩
  · rw [if_neg reached]
    refine grow_untouched (clampTarget_le requestedTarget) (by omega) 0 _ _ ?_ (by omega)
    exact (Nat.min_eq_left (Nat.le_max_right _ _)).symm

/-- The capacity the search can find: the whole target, less than the granularity
above the initial size, or a growth step to start from with no odd part of the target
in the way. -/
def WithinReach (initial target cap : ℕ) : Prop :=
  target ≤ cap ∨ cap - initial < udpSocketBufferSearchGranularity ∨
    (∃ k, initial < growthStep k ∧ growthStep k ≤ cap) ∧
      (cap < wholeTarget target ∨ ∃ k, growthStep k = wholeTarget target)

/-- Under a cap the negotiation gets nearly all there is exactly when the capacity is
within the reach of its search. -/
theorem tuning_nearly_all_iff (limit : ε) (requestedTarget : UInt64) (initial cap : ℕ)
    (fits : initial ≤ cap) :
    (∃ tuning after, tuneSocketBuffer (cappedKernel cap limit) requestedTarget
        ⟨initial, [], 0⟩ = (.returned tuning, after) ∧ NearlyAll tuning cap) ↔
      WithinReach initial (max requestedTarget.toNat (64 * 1024)) cap := by
  obtain ⟨tuning, after, ran, roomy, short⟩ :=
    tuneSocketBuffer_capped limit requestedTarget initial cap fits
  change _ ↔ WithinReach initial (clampTarget requestedTarget) cap
  have same : (∃ tuning after, tuneSocketBuffer (cappedKernel cap limit) requestedTarget
      ⟨initial, [], 0⟩ = (.returned tuning, after) ∧ NearlyAll tuning cap) ↔ NearlyAll tuning cap := by
    rw [ran]
    constructor
    · rintro ⟨other, later, ⟨⟩, near⟩
      exact near
    · exact fun near => ⟨tuning, after, rfl, near⟩
  rw [same]
  generalize clampTarget requestedTarget = target at *
  unfold NearlyAll WithinReach
  by_cases whole : target ≤ cap
  · simp [roomy whole, whole]
  · obtain ⟨unmet, searched, untouched⟩ := short (Nat.not_le.mp whole)
    by_cases step : ∃ k, initial < growthStep k ∧ growthStep k ≤ cap
    · rw [unmet]
      simp only [searched step, whole, step, true_and, false_or, Bool.false_eq_true]
      constructor
      · exact .inr
      · rintro (near | far)
        · -- A cap this close to the initial size has its whole part at the step itself.
          obtain ⟨k, above, granted⟩ := step
          have inside := le_wholeTarget (by omega : growthStep k ≤ target)
          have aligned := growthStep_aligned k
          by_cases below : cap < wholeTarget target
          · exact .inl below
          · refine .inr ⟨k, ?_⟩
            simp only [wholeTarget, udpSocketBufferSearchGranularity] at *
            omega
        · exact far
    · rw [unmet, untouched step]
      simp [whole, step]

theorem tuning_nearly_all_small_default :
    ∃ tuning after, tuneSocketBuffer (cappedKernel 3600000 "ENOBUFS") 8388608 ⟨32768, [], 0⟩ =
      (.returned tuning, after) ∧ NearlyAll tuning 3600000 :=
  (tuning_nearly_all_iff "ENOBUFS" 8388608 32768 3600000 (by omega)).mpr
    (.inr (.inr ⟨⟨0, by decide, by decide⟩, .inl (by decide)⟩))

/-- A default of 128 KiB and a cap just below 256 KiB: the first request is rejected,
nothing is bisected, and 127 KiB stay unused. -/
theorem tuning_leaves_capacity :
    ¬ ∃ tuning after, tuneSocketBuffer (cappedKernel 261120 "ENOBUFS") 8388608
      ⟨131072, [], 0⟩ = (.returned tuning, after) ∧ NearlyAll tuning 261120 := by
  obtain ⟨tuning, after, ran, -, short⟩ :=
    tuneSocketBuffer_capped "ENOBUFS" 8388608 131072 261120 (by omega)
  obtain ⟨unmet, -, untouched⟩ := short (by decide)
  have step : ¬ ∃ k, 131072 < growthStep k ∧ growthStep k ≤ 261120 := by
    rintro ⟨k, above, granted⟩
    rcases Nat.lt_or_ge k 2 with few | many
    · have low := growthStep_mono (Nat.le_of_lt_succ few)
      exact absurd (Nat.lt_of_lt_of_le above low) (by decide)
    · have high := growthStep_mono many
      exact absurd (Nat.le_trans high granted) (by decide)
  rintro ⟨other, later, again, met | near⟩
  · rw [ran] at again
    cases again
    rw [unmet] at met
    cases met
  · rw [ran] at again
    cases again
    rw [untouched step] at near
    exact absurd near (by decide)

end Usque.SocketBuffer
