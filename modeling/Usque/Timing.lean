import Usque.Packet

/-! Keepalive and path-MTU scheduling (`api/masque/timing.rs`). Durations and
instants count nanoseconds; an instant may lie before the clock's origin, as
`Instant::now() - interval` does. -/
namespace Usque

abbrev Duration := ℕ
abbrev Instant := ℤ

/-- `Duration::from_secs`. -/
def seconds (count : ℕ) : Duration := count * 1000000000

/-- `Duration::from_millis`. -/
def milliseconds (count : ℕ) : Duration := count * 1000000

/-- `Instant::elapsed`, zero for an instant that is still ahead. -/
def elapsed (since now : Instant) : Duration := (now - since).toNat

/-- Time that passes only adds to what has elapsed. -/
theorem elapsed_le_later (since : Instant) {now later : Instant} (ordered : now ≤ later) :
    elapsed since now ≤ elapsed since later :=
  Int.toNat_le_toNat (Int.sub_le_sub_right ordered since)

/-- A deadline that is over stays over. -/
theorem deadline_stays_over {deadline now later : Instant} (past : (deadline - now).toNat = 0)
    (ordered : now ≤ later) : (deadline - later).toNat = 0 := by
  have passed : deadline - now ≤ 0 := Int.toNat_eq_zero.mp past
  exact Int.toNat_eq_zero.mpr (Int.le_trans (Int.sub_le_sub_left ordered deadline) passed)

namespace Timing

def keepaliveRemaining (period sinceLastProbe : Duration) : Option Duration :=
  if period = 0 then none else some (period - sinceLastProbe)

def pmtudRemaining (enabled : Bool) (period sinceLastProbe : Duration) : Option Duration :=
  if !enabled || period = 0 then none else some (period - sinceLastProbe)

/-- An enabled keepalive is due exactly when its period has passed. -/
theorem keepalive_due_iff (period since : Duration) :
    keepaliveRemaining period since = some 0 ↔ period ≠ 0 ∧ period ≤ since := by
  unfold keepaliveRemaining
  split
  · simp_all
  · simp_all [Nat.sub_eq_zero_iff_le]

theorem pmtud_due_iff (enabled : Bool) (period since : Duration) :
    pmtudRemaining enabled period since = some 0 ↔
      enabled = true ∧ period ≠ 0 ∧ period ≤ since := by
  unfold pmtudRemaining
  split
  · rename_i off
    cases enabled <;> simp_all
  · rename_i on
    cases enabled <;> simp_all [Nat.sub_eq_zero_iff_le]

def capTunMtu (writable masqueContextLen : ℕ) (maximum : UInt16) : Option UInt16 :=
  if writable < masqueContextLen then none
  else some (UInt16.ofNat (min (min (writable - masqueContextLen) maximum.toNat) 65535))

/-- `discovered_tun_mtu`, from quiche's answers to `pmtu` and
`dgram_max_writable_len`. -/
def discoveredTunMtu (pmtu writable : Option ℕ) (masqueContextLen : ℕ) (maximum : UInt16) :
    Option UInt16 :=
  match pmtu, writable with
  | some _, some writable => capTunMtu writable masqueContextLen maximum
  | _, _ => none

/-- A discovered MTU leaves room for the prefix and keeps to the ceiling. -/
theorem capTunMtu_bounds {writable contextLen : ℕ} {maximum mtu : UInt16}
    (discovered : capTunMtu writable contextLen maximum = some mtu) :
    mtu.toNat + contextLen ≤ writable ∧ mtu ≤ maximum := by
  unfold capTunMtu at discovered
  split at discovered
  · cases discovered
  · cases discovered
    have bound := maximum.toNat_lt
    have fits : min (min (writable - contextLen) maximum.toNat) 65535 < 2 ^ 16 := by omega
    refine ⟨?_, UInt16.le_iff_toNat_le.mpr ?_⟩ <;> rw [UInt16.toNat_ofNat_of_lt' fits] <;> omega

theorem discoveredTunMtu_le {pmtu writable : Option ℕ} {contextLen : ℕ} {maximum mtu : UInt16}
    (discovered : discoveredTunMtu pmtu writable contextLen maximum = some mtu) : mtu ≤ maximum := by
  unfold discoveredTunMtu at discovered
  split at discovered
  · exact (capTunMtu_bounds discovered).2
  · cases discovered

end Timing
end Usque
