import Usque.Lib.Procedure
import Usque.Net
import Usque.Timing

/-! The TUN device (`native_tun.rs`). The kernel's interface and the values the
program caches about it change one after the other, so every call lists the
moments in which another task could look at them. A tun-rs call that fails
leaves the interface alone. -/
namespace Usque.NativeTun

def ipv6MinMtu : UInt16 := 1280

/-- `ipv6_path_supported`. -/
def ipv6PathSupported (mtu : UInt16) : Bool := ipv6MinMtu ≤ mtu

/-- What the kernel holds: the MTU, and the IPv6 address the program put there. -/
structure Interface where
  mtu : UInt16
  ipv6 : Option Ipv6Addr
  deriving DecidableEq

structure TunRsDevice where
  dev : Interface
  mtu : UInt16
  ipv6Address : Option Ipv6Addr
  manageIpv6 : Bool
  ipv6Enabled : Bool
  deriving DecidableEq

inductive TunError where
  | readMtu
  | setMtu (mtu : UInt16)
  | addAddress (address : Ipv6Addr)
  | removeAddress (address : Ipv6Addr)
  deriving DecidableEq

/-- Which of the tun-rs calls of one `apply_path_mtu` succeed. -/
structure TunAnswers where
  setMtu : Bool
  addAddress : Bool
  removeAddress : Bool
  deriving DecidableEq

/-- The device as another task may find it. Between a tun-rs call that succeeded
and the store behind it, the moment is not settled. -/
structure Moment where
  device : TunRsDevice
  settled : Bool
  deriving DecidableEq

abbrev Call := Procedure TunRsDevice Moment TunError

namespace TunRsDevice

/-- The interface has changed and the cache follows it. -/
def stored (linked after : TunRsDevice) : Call :=
  ⟨after, [⟨linked, false⟩, ⟨after, true⟩], .ok ()⟩

def setMtu (device : TunRsDevice) (mtu : UInt16) (answers : TunAnswers) : Call :=
  if answers.setMtu then
    let linked := { device with dev := { device.dev with mtu := mtu } }
    stored linked { linked with mtu := mtu }
  else .fail device (.setMtu mtu)

def setIpv6Enabled (device : TunRsDevice) (enabled : Bool) (answers : TunAnswers) : Call :=
  match device.ipv6Address with
  | none => .done device
  | some address =>
    if !device.manageIpv6 || device.ipv6Enabled == enabled then .done device
    else if enabled then
      if answers.addAddress then
        let linked := { device with dev := { device.dev with ipv6 := some address } }
        stored linked { linked with ipv6Enabled := enabled }
      else .fail device (.addAddress address)
    else
      if answers.removeAddress then
        let linked := { device with dev := { device.dev with ipv6 := none } }
        stored linked { linked with ipv6Enabled := enabled }
      else .fail device (.removeAddress address)

def applyPathMtu (device : TunRsDevice) (mtu : UInt16) (allowIpv6 : Bool) (answers : TunAnswers) :
    Call :=
  let enableIpv6 := allowIpv6 && ipv6PathSupported mtu
  let withdrawn := if !enableIpv6 then device.setIpv6Enabled false answers else .done device
  let resized := withdrawn.andThen fun device =>
    if device.mtu ≠ mtu then device.setMtu mtu answers else .done device
  resized.andThen fun device =>
    if enableIpv6 then device.setIpv6Enabled true answers else .done device

end TunRsDevice

/-! ## Creation -/

structure TunOptions where
  mtu : UInt16
  configureAddresses : Bool
  ipv6 : Bool
  deferIpv6 : Bool
  deriving DecidableEq

inductive CreateError where
  /-- The text does not parse as an IPv6 address. -/
  | invalidIpv6 (text : String)
  | build
  deriving DecidableEq

/-- `TunRsDevice::create`, from the configured IPv6 text and whether
`build_async` succeeds. -/
def create (ipv6 : String) (opts : TunOptions) (built : Bool) :
    Except CreateError TunRsDevice := do
  let ipv6Address ←
    if opts.ipv6 then
      match Net.parseIpv6Addr ipv6.toList with
      | some address => pure (some address)
      | none => throw (.invalidIpv6 ipv6)
    else pure none
  let ipv6InitiallyEnabled := opts.configureAddresses && ipv6Address.isSome && !opts.deferIpv6
  if built then
    pure {
      dev := {
        mtu := opts.mtu
        ipv6 := if opts.configureAddresses then ipv6Address.filter fun _ => !opts.deferIpv6
          else none }
      mtu := opts.mtu
      ipv6Address := ipv6Address
      manageIpv6 := opts.configureAddresses
      ipv6Enabled := ipv6InitiallyEnabled }
  else throw .build

/-! ## The invariant -/

/-- What must hold of the interface at any moment. -/
structure Safe (ceiling : UInt16) (device : TunRsDevice) : Prop where
  ipv6 : device.dev.ipv6 ≠ none → ipv6MinMtu ≤ device.dev.mtu
  ceiling : device.dev.mtu ≤ ceiling

/-- The caches tell the truth. -/
def Synced (device : TunRsDevice) : Prop :=
  device.mtu = device.dev.mtu ∧ device.ipv6Enabled = device.dev.ipv6.isSome

instance (device : TunRsDevice) : Decidable (Synced device) := inferInstanceAs (Decidable (_ ∧ _))

/-- The device between two calls. An address on the interface is the managed
one. -/
structure Sound (ceiling : UInt16) (device : TunRsDevice) : Prop where
  safe : Safe ceiling device
  synced : Synced device
  managed : device.dev.ipv6 ≠ none → device.manageIpv6 = true ∧ device.ipv6Address ≠ none

/-- A moment is safe, and the caches are wrong exactly before their store. -/
structure Watched (ceiling : UInt16) (moment : Moment) : Prop where
  safe : Safe ceiling moment.device
  synced : Synced moment.device ↔ moment.settled = true

variable {ceiling mtu : UInt16} {device : TunRsDevice} {answers : TunAnswers}

/-- A store behind an effective change. -/
private theorem stored_upholds {linked after : TunRsDevice} {post : TunRsDevice → Prop}
    (safe : Safe ceiling linked) (stale : ¬ Synced linked) (sound : Sound ceiling after)
    (reached : post after) :
    Procedure.Upholds (Sound ceiling) post (Watched ceiling)
      (TunRsDevice.stored linked after) := by
  refine ⟨sound, fun moment member => ?_, fun _ => reached⟩
  rcases List.mem_cons.mp member with rfl | member
  · exact ⟨safe, by simpa using stale⟩
  · rw [List.mem_singleton.mp member]
    exact ⟨sound.safe, by simpa using sound.synced⟩

/-- A resize the IPv6 state allows, to a value the cache does not hold yet. -/
theorem setMtu_upholds (sound : Sound ceiling device) (within : mtu ≤ ceiling)
    (differs : device.mtu ≠ mtu) (allowed : device.dev.ipv6 ≠ none → ipv6MinMtu ≤ mtu) :
    Procedure.Upholds (Sound ceiling)
      (fun after => after.dev.mtu = mtu ∧ after.dev.ipv6 = device.dev.ipv6) (Watched ceiling)
      (device.setMtu mtu answers) := by
  unfold TunRsDevice.setMtu
  split
  · exact stored_upholds ⟨allowed, within⟩ (fun synced => differs synced.1)
      ⟨⟨allowed, within⟩, ⟨rfl, sound.synced.2⟩, sound.managed⟩ ⟨rfl, rfl⟩
  · exact Procedure.fail_upholds sound

/-- Withdrawing the address is allowed at any MTU and leaves none behind. -/
theorem withdraw_upholds (sound : Sound ceiling device) :
    Procedure.Upholds (Sound ceiling) (fun after => after.dev.ipv6 = none) (Watched ceiling)
      (device.setIpv6Enabled false answers) := by
  obtain ⟨safe, ⟨mtuSynced, flagSynced⟩, managed⟩ := sound
  unfold TunRsDevice.setIpv6Enabled
  split
  · rename_i unassigned
    refine Procedure.done_upholds ⟨safe, ⟨mtuSynced, flagSynced⟩, managed⟩ ?_
    exact Classical.byContradiction fun present => (managed present).2 unassigned
  · rename_i address assigned
    split
    · rename_i idle
      refine Procedure.done_upholds ⟨safe, ⟨mtuSynced, flagSynced⟩, managed⟩ ?_
      refine Classical.byContradiction fun present => ?_
      have shown := Option.isSome_iff_ne_none.mpr present
      simp [(managed present).1, flagSynced, shown] at idle
    · rename_i active
      have enabled : device.ipv6Enabled = true := by
        cases flag : device.ipv6Enabled <;> simp [flag] at active ⊢
      rw [if_neg Bool.false_ne_true]
      split
      · exact stored_upholds ⟨fun present => absurd rfl present, safe.ceiling⟩
          (fun synced => by simp [Synced, enabled] at synced)
          ⟨⟨fun present => absurd rfl present, safe.ceiling⟩, ⟨mtuSynced, rfl⟩,
            fun present => absurd rfl present⟩ rfl
      · exact Procedure.fail_upholds ⟨safe, ⟨mtuSynced, flagSynced⟩, managed⟩

/-- The address may come only where the MTU carries IPv6. -/
theorem announce_upholds (sound : Sound ceiling device) (carries : ipv6MinMtu ≤ device.dev.mtu) :
    Procedure.Upholds (Sound ceiling) (fun after => after.dev.mtu = device.dev.mtu)
      (Watched ceiling) (device.setIpv6Enabled true answers) := by
  obtain ⟨safe, ⟨mtuSynced, flagSynced⟩, managed⟩ := sound
  unfold TunRsDevice.setIpv6Enabled
  split
  · exact Procedure.done_upholds ⟨safe, ⟨mtuSynced, flagSynced⟩, managed⟩ rfl
  · rename_i address assigned
    split
    · exact Procedure.done_upholds ⟨safe, ⟨mtuSynced, flagSynced⟩, managed⟩ rfl
    · rename_i inactive
      have disabled : device.manageIpv6 = true ∧ device.ipv6Enabled = false := by
        cases flag : device.ipv6Enabled <;> cases manages : device.manageIpv6 <;>
          simp [flag, manages] at inactive ⊢
      rw [if_pos rfl]
      split
      · exact stored_upholds ⟨fun _ => carries, safe.ceiling⟩
          (fun synced => by simp [Synced, disabled.2] at synced)
          ⟨⟨fun _ => carries, safe.ceiling⟩, ⟨mtuSynced, rfl⟩,
            fun _ => ⟨disabled.1, by simp [assigned]⟩⟩ rfl
      · exact Procedure.fail_upholds ⟨safe, ⟨mtuSynced, flagSynced⟩, managed⟩

/-- Whatever fails on the way, `apply_path_mtu` keeps the device sound at every
moment, and without permission for IPv6 a full run leaves none. -/
theorem applyPathMtu_upholds {allowIpv6 : Bool} (sound : Sound ceiling device)
    (within : mtu ≤ ceiling) :
    Procedure.Upholds (Sound ceiling)
      (fun after => after.dev.mtu = mtu ∧ (allowIpv6 = false → after.dev.ipv6 = none))
      (Watched ceiling) (device.applyPathMtu mtu allowIpv6 answers) := by
  unfold TunRsDevice.applyPathMtu
  generalize enables : (allowIpv6 && ipv6PathSupported mtu) = enableIpv6
  have supported (on : enableIpv6 = true) : ipv6MinMtu ≤ mtu := by
    rw [on] at enables
    simpa [ipv6PathSupported] using (Bool.and_eq_true_iff.mp enables).2
  have permitted (on : enableIpv6 = true) : allowIpv6 = true := by
    rw [on] at enables
    exact (Bool.and_eq_true_iff.mp enables).1
  refine Procedure.andThen_upholds
    (fun after => after.dev.mtu = mtu ∧ (enableIpv6 = false → after.dev.ipv6 = none))
    (Procedure.andThen_upholds
      (fun after => enableIpv6 = false → after.dev.ipv6 = none) ?_ ?_) ?_
  · cases enableIpv6 with
    | false => exact (withdraw_upholds sound).weaken fun _ withdrawn _ => withdrawn
    | true => exact Procedure.done_upholds sound fun off => absurd off (by decide)
  · intro device sound withdrawn
    split
    · rename_i differs
      have allowed (present : device.dev.ipv6 ≠ none) : ipv6MinMtu ≤ mtu := by
        cases enableIpv6 with
        | false => exact absurd (withdrawn rfl) present
        | true => exact supported rfl
      exact (setMtu_upholds sound within differs allowed).weaken fun after resized =>
        ⟨resized.1, fun off => resized.2.trans (withdrawn off)⟩
    · rename_i same
      refine Procedure.done_upholds sound ⟨?_, withdrawn⟩
      exact sound.synced.1.symm.trans (Classical.not_not.mp same)
  · rintro device sound ⟨resized, withdrawn⟩
    cases enableIpv6 with
    | false => exact Procedure.done_upholds sound ⟨resized, fun _ => withdrawn rfl⟩
    | true =>
      have carries : ipv6MinMtu ≤ device.dev.mtu := by
        rw [resized]
        exact supported rfl
      refine (announce_upholds sound carries).weaken fun after kept =>
        ⟨kept.trans resized, fun off => ?_⟩
      rw [permitted rfl] at off
      cases off

/-- A created device is sound where the options ask for IPv6 at once only on an
MTU that carries it. -/
theorem create_sound {ipv6 : String} {opts : TunOptions} {built : Bool}
    (created : create ipv6 opts built = .ok device) (within : opts.mtu ≤ ceiling)
    (carries : opts.ipv6 = true → opts.deferIpv6 = false → ipv6MinMtu ≤ opts.mtu) :
    Sound ceiling device := by
  unfold create at created
  cases wanted : opts.ipv6 with
  | false =>
    cases built <;> simp [wanted, pure, Except.pure, bind, Except.bind, throw, throwThe,
      MonadExceptOf.throw] at created
    subst created
    exact ⟨⟨by simp, within⟩, ⟨rfl, by simp⟩, by simp⟩
  | true =>
    cases parsed : Net.parseIpv6Addr ipv6.toList with
    | none => simp [wanted, parsed, bind, Except.bind, throw, throwThe,
        MonadExceptOf.throw] at created
    | some address =>
      cases built <;> simp [wanted, parsed, pure, Except.pure, bind, Except.bind, throw, throwThe,
        MonadExceptOf.throw] at created
      subst created
      cases deferred : opts.deferIpv6 with
      | true => exact ⟨⟨by simp, within⟩, ⟨rfl, by simp⟩, by simp⟩
      | false =>
        cases configured : opts.configureAddresses with
        | false => exact ⟨⟨by simp, within⟩, ⟨rfl, by simp⟩, by simp⟩
        | true =>
          exact ⟨⟨fun _ => carries wanted deferred, within⟩, ⟨rfl, by simp⟩, by simp⟩

end Usque.NativeTun
