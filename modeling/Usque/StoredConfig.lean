import Usque.RunTunnel
import Usque.StoredKey

/-! What the configuration file can hold. Every command writes a configuration that is complete
in itself, so a tunnel or a refresh never finds one that lacks what its role needs; and a Mesh
node stays the node it was registered as until an operator has it replaced. -/
namespace Usque.Registration

open Fallible Transition

/-- A node identity exactly where the role is that of a node, with the platform it was registered
for, and the first peer in the fields of older versions. -/
structure Complete (cfg : AppConfig) : Prop where
  node : cfg.role = .meshNode ↔ cfg.meshNode.isSome
  platform : ∀ node, cfg.meshNode = some node → node.registrationPlatformClaim = "linux"
  peers : ∃ peer rest, cfg.masquePeers = peer :: rest ∧ cfg.endpointV4 = peer.endpointV4 ∧
    cfg.endpointV6 = peer.endpointV6 ∧ cfg.endpointPubKey = peer.endpointPubKey

/-- The node a command registers claims the platform the service accepts. -/
def Ending.Claims : Ending → Prop
  | .meshNode node => node.registrationPlatformClaim = "linux"
  | .client | .stored => True

section

variable {SecretKey : Type} {keys : Keys SecretKey} {codec : Codec} {path : String} {process : Process}
  {disk : Disk} {cfg : AppConfig} {plan : Plan} {attempt : Attempt}

/-! ## Complete configurations -/

theorem Complete.withClientVersion (complete : Complete cfg) (version : String) :
    Complete (cfg.withClientVersion version) :=
  ⟨complete.node, complete.platform, complete.peers⟩

/-- A complete configuration says what is needed to refresh its registration. -/
theorem Complete.identity (complete : Complete cfg) (version : String) :
    ∃ identity, registrationRefreshIdentity version cfg = .ok identity := by
  refine (registrationRefreshIdentity_iff version).mpr fun mesh => ?_
  obtain ⟨node, stored⟩ := Option.isSome_iff_exists.mp (complete.node.mp mesh)
  refine ⟨node, stored, ?_⟩
  rw [complete.platform node stored]
  decide

theorem bailIf_ne_error {refused : Prop} [Decidable refused] {error failure : RunTunnel.RunError}
    (other : refused → error ≠ failure) : RunTunnel.bailIf refused error ≠ .error failure := by
  unfold RunTunnel.bailIf
  split
  · rename_i refuse
    exact fun failed => other refuse (Except.error.inj failed)
  · exact nofun

theorem mapError_ne_error {error : ε → RunTunnel.RunError} {failure : RunTunnel.RunError}
    (other : ∀ e, error e ≠ failure) (result : Except ε α) : result.mapError error ≠ .error failure := by
  cases result with
  | error e => exact fun failed => other e (Except.error.inj failed)
  | ok value => exact nofun

theorem buildMeshActivationProbe_ne_error (cfg : Usque.AppConfig) (role : TunnelRole)
    (target : Option IpAddr) :
    RunTunnel.buildMeshActivationProbe cfg role target ≠ .error .meshIdentity := by
  unfold RunTunnel.buildMeshActivationProbe
  dsimp only
  split
  · exact nofun
  · split
    · exact nofun
    · split <;> exact nofun

/-- No tunnel of its own role misses the node identity. -/
theorem Complete.runTunnel (complete : Complete cfg) (answers : RunTunnel.Answers)
    (args : NativeTunArgs) (probe : Option IpAddr) (idle : Option Duration) :
    RunTunnel.runTunnel answers cfg.tunnel args cfg.role probe idle ≠ .error .meshIdentity := by
  have stored : ¬(cfg.role = .meshNode ∧ cfg.tunnel.meshNode = none) := by
    rintro ⟨mesh, absent⟩
    have found := complete.node.mp mesh
    rw [AppConfig.tunnel, Option.map_eq_none_iff] at absent
    rw [absent] at found
    cases found
  have checked : RunTunnel.checkArgs cfg.tunnel args cfg.role idle ≠ .error .meshIdentity := by
    refine bind_ne_error (bailIf_ne_error fun _ => nofun) fun _ => ?_
    refine bind_ne_error (bailIf_ne_error fun missing => absurd missing stored) fun _ => ?_
    refine bind_ne_error ?_ fun _ => ?_
    · split
      · exact nofun
      · unfold RunTunnel.checkIfname
        split_ifs <;> exact nofun
    refine bind_ne_error (bailIf_ne_error fun _ => nofun) fun _ => ?_
    refine bind_ne_error (bailIf_ne_error fun _ => nofun) fun _ => ?_
    refine bind_ne_error (bailIf_ne_error fun _ => nofun) fun _ => ?_
    refine bind_ne_error (bailIf_ne_error fun _ => nofun) fun _ => ?_
    exact bailIf_ne_error fun _ => nofun
  refine bind_ne_error checked fun _ => ?_
  refine bind_ne_error (buildMeshActivationProbe_ne_error _ _ _) fun activationProbe => ?_
  refine bind_ne_error (mapError_ne_error (fun _ => ?_) _) fun endpoints => ?_
  · exact nofun
  refine bind_ne_error (bailIf_ne_error fun _ => nofun) fun _ => ?_
  refine bind_ne_error (mapError_ne_error (fun _ => ?_) _) fun dev => ?_
  · exact nofun
  exact bind_ne_error (bailIf_ne_error fun _ => nofun) fun _ => nofun

theorem built_complete {account : AccountData} {privateKeyDer : Bytes} {token : String}
    {identity : DeviceIdentity} {built : AppConfig} {ending : Ending}
    (ready : buildAppConfig keys account privateKeyDer token identity = .ok built)
    (claims : ending.Claims) (written : (ending.plan built).written = some cfg) : Complete cfg := by
  unfold buildAppConfig at ready
  split at ready
  · cases ready
  · rename_i peer rest listed
    have peers : ∃ first others, account.peers.map masquePeer = first :: others ∧
        endpointV4FromAccountValue peer.endpoint.v4 = first.endpointV4 ∧
        endpointV6FromAccountValue peer.endpoint.v6 = first.endpointV6 ∧
        peer.publicKey = first.endpointPubKey :=
      ⟨masquePeer peer, rest.map masquePeer, by rw [listed, List.map_cons], rfl, rfl, rfl⟩
    cases ready
    cases ending with
    | client | stored =>
      cases written
      exact ⟨by simp, nofun, peers⟩
    | meshNode node =>
      cases written
      exact ⟨by simp, fun other same => Option.some.inj same ▸ claims, peers⟩

/-! ## What a command writes -/

theorem registering_claims {input : RegisterInput} {given : Enrolling}
    (came : registering input disk = .ok (some given)) : given.ending.Claims := by
  simp only [registering, Fallible.bind_eq_ok_iff] at came
  obtain ⟨credentials, -, overwrite, -, came⟩ := came
  split at came
  · simp only [Fallible.bind_eq_ok_iff] at came
    obtain ⟨jwt, -, pair, -, account, -, same⟩ := came
    cases same
    trivial
  · cases came

theorem meshRegistering_claims {input : MeshRegisterInput} {given : Enrolling}
    (came : meshRegistering path input disk = .ok (some given)) : given.ending.Claims := by
  simp only [meshRegistering, Fallible.bind_eq_ok_iff] at came
  obtain ⟨_, -, _, -, _, -, token, -, pair, -, account, -, same⟩ := came
  cases same
  rfl

theorem reEnrolling_claims {input : EnrollInput} {given : Enrolling}
    (came : reEnrolling keys codec path process input disk = .ok (some given)) :
    given.ending.Claims := by
  simp only [reEnrolling, Fallible.bind_eq_ok_iff] at came
  obtain ⟨stored, -, _, -, first, -, last, -, same⟩ := came
  cases same
  trivial

theorem Enrolls.claims {operation : Operation} {given : Enrolling}
    (enrolls : Enrolls keys codec path process disk operation given) : given.ending.Claims := by
  cases enrolls with
  | register came => exact registering_claims came
  | meshRegister came => exact meshRegistering_claims came
  | enroll came => exact reEnrolling_claims came

/-- The configuration is the one that was there at first, with some version of the program. -/
def Descends (codec : Codec) (path : String) (disk : Disk) (cfg : AppConfig) : Prop :=
  ∃ old, load codec path disk = .ok old ∧ ¬ Complete old ∧
    cfg = old.withClientVersion cfg.deviceIdentity.clientVersion

/-- What is written is complete, or a refresh has found it incomplete. -/
theorem written_complete {first : Disk}
    (before : ∀ old, load codec path disk = .ok old → Complete old ∨ Descends codec path first old)
    (planned : attempt.plan keys codec path disk = .ok plan) (written : plan.written = some cfg) :
    Complete cfg ∨ Descends codec path first cfg := by
  rcases written_cases planned written with
    ⟨given, account, built, enrolls, -, ready, same⟩ | ⟨-, refreshed⟩
  · exact .inl (built_complete ready enrolls.claims same)
  · obtain ⟨stored, request, loaded, accepted⟩ := refresh_accepted refreshed written
    rw [accepted_updated accepted]
    rcases before stored loaded with complete | ⟨old, there, incomplete, same⟩
    · exact .inl (complete.withClientVersion _)
    · refine .inr ⟨old, there, incomplete, ?_⟩
      rw [same]
      rfl

/-! ## Which commands open the file -/

/-- A registration that an operator has told to replace what is there. -/
def Attempt.Confirms (attempt : Attempt) : Prop :=
  ∃ input response, attempt.operation = .register input ∧ input.response = .ok response ∧
    Mdm.trim response = "y"

theorem register_confirmed {input : RegisterInput} (planned : register keys process input disk = .ok plan)
    (written : plan.written = some cfg) (there : disk.isSome) :
    ∃ response, input.response = .ok response ∧ Mdm.trim response = "y" := by
  simp only [register, Fallible.bind_eq_ok_iff] at planned
  obtain ⟨credentials, -, overwrite, answered, planned⟩ := planned
  split at planned
  · rename_i confirmed
    rw [overwrites, if_pos there] at answered
    cases given : input.response with
    | error reason =>
      rw [given] at answered
      cases answered
    | ok response =>
      rw [given, message_ok] at answered
      cases answered
      exact ⟨response, rfl, of_decide_eq_true confirmed⟩
  · cases planned
    cases written

/-- Where there is a file, it is opened by a confirmed `register`, by `enroll` on a client or by
a refresh of what it holds. -/
theorem opens_operation (opens : attempt.Opens keys codec path disk) (there : disk.isSome) :
    attempt.Confirms ∨
      ∃ stored, load codec path disk = .ok stored ∧
        (stored.role = .client ∨ ∀ cfg, Saves keys codec path cfg disk attempt →
          cfg = stored.withClientVersion attempt.process.clientVersion) := by
  obtain ⟨plan, cfg, planned, written, -⟩ := opens
  unfold Attempt.plan at planned
  cases operation : attempt.operation with
  | register input =>
    rw [operation, Operation.plan] at planned
    obtain ⟨response, given, confirmed⟩ := register_confirmed planned written there
    exact .inl ⟨input, response, operation, given, confirmed⟩
  | meshRegister input =>
    rw [operation, Operation.plan] at planned
    obtain ⟨_, absent, -⟩ := Fallible.bind_eq_ok_iff.mp planned
    have nothing : disk = none := Option.isNone_iff_eq_none.mp (holds_of_ensure absent)
    rw [nothing] at there
    cases there
  | enroll input =>
    rw [operation, Operation.plan] at planned
    simp only [enroll, Fallible.bind_eq_ok_iff, message, Fallible.mapError_eq_ok_iff] at planned
    obtain ⟨stored, loaded, _, client, -⟩ := planned
    exact .inr ⟨stored, loaded, .inl (of_decide_eq_true (holds_of_ensure client))⟩
  | refresh =>
    rw [operation, Operation.plan] at planned
    obtain ⟨stored, request, loaded, -⟩ := refresh_accepted planned written
    refine .inr ⟨stored, loaded, .inr ?_⟩
    rintro other ⟨plan, planned, written, -⟩
    rw [Attempt.plan, operation, Operation.plan] at planned
    obtain ⟨same, request, again, accepted⟩ := refresh_accepted planned written
    cases loaded.symm.trans again
    exact accepted_updated accepted

theorem found_isSome (there : disk.isSome) : (attempt.found keys codec path disk).isSome := by
  by_cases opens : attempt.Opens keys codec path disk
  · obtain ⟨plan, cfg, planned, written, opened⟩ := opens
    have content := found_content planned written
    rw [if_neg (by omega)] at content
    obtain ⟨file, found, -⟩ := Option.map_eq_some_iff.mp content
    rw [found]
    rfl
  · rwa [found_unopened opens]

/-- The file holds the node `cfg`, refreshed by whatever versions of the program, or nothing that
can be loaded. -/
def HoldsNode (codec : Codec) (path : String) (cfg : AppConfig) (disk : Disk) : Prop :=
  disk.isSome ∧ ∀ found, load codec path disk = .ok found →
    found = cfg.withClientVersion found.deviceIdentity.clientVersion

theorem holdsNode_step (lawful : codec.Lawful) (mesh : cfg.role = .meshNode) (unconfirmed : ¬attempt.Confirms)
    (holds : HoldsNode codec path cfg disk) :
    HoldsNode codec path cfg (attempt.found keys codec path disk) := by
  obtain ⟨there, same⟩ := holds
  refine ⟨found_isSome there, fun found loaded => ?_⟩
  by_cases opens : attempt.Opens keys codec path disk
  · rcases opens_operation opens there with confirms | ⟨stored, before, client | refreshed⟩
    · exact absurd confirms unconfirmed
    · rw [same stored before] at client
      cases mesh.symm.trans client
    · rw [refreshed found (found_opened lawful opens loaded), same stored before]
      rfl
  · rw [found_unopened opens] at loaded
    exact same found loaded

/-- Whatever commands have run, and wherever their saves have stopped, a configuration that loads
is complete, for the refresh and for the tunnel, or still the incomplete one of the start under
some version. Unless an operator confirms a new registration, a Mesh node stays the node it is, and
a file that cannot be loaded stays as it is. -/
theorem stored_configurations (keys : Keys SecretKey) (lawful : codec.Lawful) (path : String)
    (disk finish : Disk) (attempts : List Attempt)
    (ran : run (attemptStep keys codec path) disk attempts = some finish) :
    (∀ cfg, load codec path finish = .ok cfg → Complete cfg ∨ Descends codec path disk cfg) ∧
    (∀ cfg, Complete cfg →
      (∀ version, ∃ identity, registrationRefreshIdentity version cfg = .ok identity) ∧
      ∀ answers args probe idle,
        RunTunnel.runTunnel answers cfg.tunnel args cfg.role probe idle ≠ .error .meshIdentity) ∧
    ((∀ attempt ∈ attempts, ¬attempt.Confirms) →
      (∀ cfg, load codec path disk = .ok cfg → cfg.role = .meshNode →
        ∀ found, load codec path finish = .ok found →
          found = cfg.withClientVersion found.deviceIdentity.clientVersion) ∧
      (disk.isSome → (∀ cfg, load codec path disk ≠ .ok cfg) → finish = disk)) := by
  have along (unconfirmed : ∀ attempt ∈ attempts, ¬attempt.Confirms) :
      Along (attemptStep keys codec path) (fun _ attempt => ¬attempt.Confirms) disk attempts :=
    along_of_forall fun attempt member _ => unconfirmed attempt member
  refine ⟨?_, fun cfg complete => ⟨complete.identity, complete.runTunnel⟩,
    fun unconfirmed => ⟨fun cfg loaded mesh => ?_, fun there torn => ?_⟩⟩
  · refine run_preserves (fun s => ∀ cfg, load codec path s = .ok cfg →
      Complete cfg ∨ Descends codec path disk cfg) ?_ ?_ ran
    · intro s attempt next inv stepped cfg loaded
      cases stepped
      rcases found_loads lawful loaded with earlier | ⟨plan, planned, written, -⟩
      · exact inv cfg earlier
      · exact written_complete inv planned written
    · intro cfg loaded
      by_cases complete : Complete cfg
      · exact .inl complete
      · exact .inr ⟨cfg, loaded, complete, rfl⟩
  · have holds : HoldsNode codec path cfg finish := by
      refine run_preserves_along (HoldsNode codec path cfg) ?_ ?_ (along unconfirmed) ran
      · intro s attempt next inv kept stepped
        cases stepped
        exact holdsNode_step lawful mesh kept inv
      · refine ⟨?_, fun found again => ?_⟩
        · cases disk with
          | none => cases loaded
          | some file => rfl
        · cases loaded.symm.trans again
          rfl
    exact holds.2
  · refine run_preserves_along (· = disk) ?_ rfl (along unconfirmed) ran
    rintro s attempt next rfl kept stepped
    cases stepped
    refine found_unopened fun opens => ?_
    rcases opens_operation opens there with confirms | ⟨stored, loaded, -⟩
    · exact kept confirms
    · exact torn stored loaded

end

theorem clientConfig_complete : Complete clientConfig where
  node := by simp [clientConfig]
  platform := nofun
  peers := ⟨_, [], rfl, rfl, rfl, rfl⟩

theorem stored_configurations_refresh :
    ∃ finish, run (attemptStep pointKeys plainJson.codec "config.json") savedDisk [wholeRefresh] = some finish ∧
      load plainJson.codec "config.json" finish = .ok refreshedConfig ∧ Complete refreshedConfig ∧
      ∀ version, ∃ identity, registrationRefreshIdentity version refreshedConfig = .ok identity := by
  refine ⟨_, savedRefresh_ran, found_saved plainJson_lawful wholeRefresh_saves, ?_⟩
  obtain ⟨loads, enough, -⟩ := stored_configurations pointKeys plainJson_lawful "config.json" savedDisk _
    [wholeRefresh] savedRefresh_ran
  have complete : Complete refreshedConfig := by
    rcases loads _ (found_saved plainJson_lawful wholeRefresh_saves) with complete | ⟨old, stored, other, -⟩
    · exact complete
    · cases stored.symm.trans savedDisk_load
      exact absurd clientConfig_complete other
  exact ⟨complete, (enough _ complete).1⟩

end Usque.Registration
