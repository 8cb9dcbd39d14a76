import Usque.ConfigReloads
import Usque.EnrollmentIdentity
import Usque.Lib.Base64

/-! The private key of the configuration file and the public key the registration service
holds. An update replaces the service's key before the command writes the file, so the two
part where a new key has been taken and the file stays as it was. What is written whole brings
them together again, unless the service has answered for another registration than it was asked
to update. -/
namespace Usque.Registration

open Transition

/-! ## Keys that belong together -/

section Keys

variable {SecretKey : Type} (keys : Keys SecretKey)

/-- The codecs are read back. -/
structure Keys.Lawful : Prop where
  decodes : ∀ der, keys.decode (keys.encode der) = some der
  parses : ∀ secret der, keys.toSec1Der secret = .ok der → keys.fromSec1Der der = some secret

/-- A pair as `generate_ec_key_pair` makes it: both halves of one key. -/
def Generated (pair : Bytes × Bytes) : Prop :=
  ∃ secret, keys.toSec1Der secret = .ok pair.1 ∧ keys.publicKeyDer secret = .ok pair.2

/-- The public half of the stored key. -/
def storedPublicKey (cfg : AppConfig) : Except String Bytes := do
  let secret ← getEcPrivateKey keys cfg
  keys.publicKeyDer secret

end Keys

/-! ## What a command asks of the service -/

/-- A key that the service is asked to hold for a registration. -/
structure Update where
  account : AccountData
  publicKeyDer : Bytes
  identity : DeviceIdentity
  deriving DecidableEq

def Enrolling.update (enrolling : Enrolling) : Update :=
  ⟨enrolling.account, enrolling.publicKeyDer, enrolling.sent⟩

section Updates

variable {SecretKey : Type} (keys : Keys SecretKey) (codec : Codec) (path : String) (process : Process)
  (disk : Disk)

def Update.request (update : Update) : Request :=
  enrollRequest keys process update.account update.publicKeyDer update.identity

/-- A registration that has been made already carries the key of the update behind it. -/
def asked : Except CommandError (Option Enrolling) → List Update
  | .ok (some enrolling) => [enrolling.update]
  | .ok none | .error _ => []

/-- The update of the first key, and that of another one if the first has been refused;
otherwise the first again. -/
def enrollUpdates (input : EnrollInput) : List Update :=
  match load codec path disk with
  | .error _ => []
  | .ok cfg =>
    if cfg.role ≠ .client then []
    else match enrollKeyPair keys input cfg with
      | .error _ => []
      | .ok (_, publicKeyDer) =>
        ⟨{ id := cfg.id, token := cfg.accessToken }, publicKeyDer, enrollIdentity process input cfg⟩ ::
          asked (reEnrolling keys codec path process input disk)

def refreshUpdates : List Update :=
  match load codec path disk with
  | .error _ => []
  | .ok cfg =>
    if registrationRefreshRequired process.clientVersion cfg then
      match refreshUpdate keys process.clientVersion cfg with
      | .error _ => []
      | .ok (publicKeyDer, identity) =>
        [⟨{ id := cfg.id, token := cfg.accessToken }, publicKeyDer, identity⟩]
    else []

/-- The updates of an operation, in their order. -/
def Operation.updates : Operation → List Update
  | .register input => asked (registering input disk)
  | .meshRegister input => asked (meshRegistering path input disk)
  | .enroll input => enrollUpdates keys codec path process disk input
  | .refresh => refreshUpdates keys codec path process disk

/-- The pairs an operation may have generated. -/
def Operation.Generates (pair : Bytes × Bytes) : Operation → Prop
  | .register input => input.keyPair = .ok pair
  | .meshRegister input => input.keyPair = .ok pair
  | .enroll input => input.keyPair = .ok pair ∨ input.anotherKeyPair = .ok pair
  | .refresh => False

end Updates

/-! ## The file and the service -/

structure Deployment where
  disk : Disk
  /-- The public key the service holds for a registration. -/
  held : String → Option Bytes

/-- An attempt, and which of its updates take effect at the service: also one whose answer is
lost or tells of an error. -/
structure Turn where
  attempt : Attempt
  takes : Update → Bool

section Turns

variable {SecretKey : Type} (keys : Keys SecretKey) (codec : Codec) (path : String)

/-- The last update of a registration that has been taken. -/
def Turn.taken (turn : Turn) (disk : Disk) (id : String) : Option Update :=
  ((turn.attempt.operation.updates keys codec path turn.attempt.process disk).filter fun update =>
    turn.takes update && update.account.id == id).getLast?

/-- The key the service holds for a registration after a turn. -/
def Turn.heldAfter (turn : Turn) (s : Deployment) (id : String) : Option Bytes :=
  ((turn.taken keys codec path s.disk id).map Update.publicKeyDer).or (s.held id)

def turnStep (s : Deployment) (turn : Turn) : Option Deployment :=
  some {
    disk := turn.attempt.found keys codec path s.disk
    held := turn.heldAfter keys codec path s }

/-- The stored key is the one that is held for the stored registration. -/
def Agrees (held : String → Option Bytes) (cfg : AppConfig) : Prop :=
  ∃ publicKeyDer, storedPublicKey keys cfg = .ok publicKeyDer ∧ held cfg.id = some publicKeyDer

/-- A configuration that can be loaded has the private half of the key that is held for its
registration. -/
def KeyHeld (s : Deployment) : Prop :=
  ∀ cfg, load codec path s.disk = .ok cfg → Agrees keys s.held cfg

/-- What the service and the generator of keys promise: an update answered with success has
been taken, and generated pairs belong together. -/
structure Contract (turn : Turn) : Prop where
  takes : ∀ update body,
    turn.attempt.process.send (update.request keys turn.attempt.process) = .received 200 body →
      turn.takes update = true
  generates : ∀ pair, turn.attempt.operation.Generates pair → Generated keys pair

/-- The service has taken another key for the stored registration, and the file is left as
it was. -/
def Abandons (s : Deployment) (turn : Turn) : Prop :=
  ∃ cfg update, load codec path s.disk = .ok cfg ∧
    turn.taken keys codec path s.disk cfg.id = some update ∧
    storedPublicKey keys cfg ≠ .ok update.publicKeyDer ∧ ¬ turn.attempt.Opens keys codec path s.disk

end Turns

section

variable {SecretKey : Type} {keys : Keys SecretKey} {codec : Codec} {path : String} {process : Process}
  {disk : Disk}
  {cfg : AppConfig} {plan : Plan} {attempt : Attempt} {turn : Turn} {s next : Deployment}
  {update : Update} {front : List Update}

/-! ## Pairs -/

theorem storedPublicKey_of_generated (lawful : keys.Lawful) {pair : Bytes × Bytes}
    (generated : Generated keys pair) (stored : cfg.privateKey = keys.encode pair.1) :
    storedPublicKey keys cfg = .ok pair.2 := by
  obtain ⟨secret, private_, public_⟩ := generated
  have found : getEcPrivateKey keys cfg = .ok secret := by
    simp only [getEcPrivateKey, stored, lawful.decodes, lawful.parses secret _ private_]
  exact Fallible.bind_eq_ok_iff.mpr ⟨secret, found, public_⟩

/-- The key pair of an enrollment is the stored one or a new one. -/
theorem enrollKeyPair_generated {input : EnrollInput} {pair : Bytes × Bytes}
    (given : enrollKeyPair keys input cfg = .ok pair)
    (generated : ∀ pair, input.keyPair = .ok pair → Generated keys pair) : Generated keys pair := by
  unfold enrollKeyPair at given
  split at given
  · exact generated pair (Fallible.mapError_eq_ok_iff.mp given)
  · simp only [Fallible.bind_eq_ok_iff, message, Fallible.mapError_eq_ok_iff] at given
    obtain ⟨secret, -, privateDer, private_, publicDer, public_, same⟩ := given
    cases same
    exact ⟨secret, private_, public_⟩

theorem enrollingPair_generated {input : EnrollInput} {account : AccountData}
    {identity : DeviceIdentity} {first pair : Bytes × Bytes}
    (left : enrollingPair keys process input account identity first.1 first.2 = .ok pair)
    (before : Generated keys first)
    (generated : ∀ pair, input.anotherKeyPair = .ok pair → Generated keys pair) :
    Generated keys pair := by
  unfold enrollingPair at left
  split at left
  · cases left
    exact before
  · split at left
    · simp only [Fallible.bind_eq_ok_iff, message, Fallible.mapError_eq_ok_iff] at left
      obtain ⟨response, -, _, -, another⟩ := left
      exact generated pair another
    · cases left
  · cases left

/-! ## The update behind a save -/

theorem holds_of_ensure {holds : Bool} {text : String} {done : Unit}
    (passed : ensure holds text = .ok done) : holds = true := by
  unfold ensure at passed
  split at passed
  · assumption
  · cases passed

theorem enrollKey_answered {account updated : AccountData} {publicKeyDer : Bytes}
    {identity : DeviceIdentity}
    (accepted : enrollKey keys process account publicKeyDer identity = .ok updated) :
    ∃ body, process.send (enrollRequest keys process account publicKeyDer identity) =
      .received 200 body := by
  unfold enrollKey at accepted
  split at accepted
  · cases accepted
  · cases accepted
  · rename_i status body answered
    split at accepted
    · cases accepted
    · rename_i success
      exact ⟨body, by rw [answered, not_ne_iff.mp success]⟩

/-- What is behind a configuration that an enrollment comes to write. -/
theorem concluded_built {enrolling : Option Enrolling}
    (planned : concluded keys process enrolling = .ok plan) (written : plan.written = some cfg) :
    ∃ given updated built, enrolling = some given ∧
      enrollKey keys process given.account given.publicKeyDer given.sent = .ok updated ∧
      buildAppConfig keys updated given.privateKeyDer given.account.token given.kept = .ok built ∧
      (given.ending.plan built).written = some cfg := by
  cases enrolling with
  | none =>
    cases planned
    cases written
  | some given =>
    simp only [concluded, Fallible.bind_eq_ok_iff, enrollOrFail, message,
      Fallible.mapError_eq_ok_iff] at planned
    obtain ⟨updated, accepted, built, ready, ended⟩ := planned
    cases ended
    exact ⟨given, updated, built, rfl, accepted, ready, written⟩

theorem built_key {account : AccountData} {privateKeyDer : Bytes} {token : String}
    {identity : DeviceIdentity} {built : AppConfig} {ending : Ending}
    (ready : buildAppConfig keys account privateKeyDer token identity = .ok built)
    (written : (ending.plan built).written = some cfg) :
    cfg.id = account.id ∧ cfg.privateKey = keys.encode privateKeyDer := by
  unfold buildAppConfig at ready
  split at ready
  · cases ready
  · cases ready
    cases ending <;>
    · cases written
      exact ⟨rfl, rfl⟩

/-- An operation other than a refresh ends with the enrollment of a pair it has or has made,
asks for nothing behind it and updates one registration only. -/
def EndsWith (keys : Keys SecretKey) (codec : Codec) (path : String) (process : Process) (disk : Disk)
    (operation : Operation) (given : Enrolling) : Prop :=
  (∃ front, operation.updates keys codec path process disk = front ++ [given.update] ∧
    ∀ update ∈ front, update.account = given.account) ∧
    ((∀ pair, operation.Generates pair → Generated keys pair) →
      Generated keys (given.privateKeyDer, given.publicKeyDer))

theorem register_endsWith {input : RegisterInput} {given : Enrolling}
    (came : registering input disk = .ok (some given)) :
    EndsWith keys codec path process disk (.register input) given := by
  refine ⟨⟨[], by simp only [Operation.updates, came, asked, List.nil_append], by simp⟩,
    fun generated => ?_⟩
  simp only [registering, Fallible.bind_eq_ok_iff, message, Fallible.mapError_eq_ok_iff] at came
  obtain ⟨credentials, -, overwrite, -, came⟩ := came
  split at came
  · simp only [Fallible.bind_eq_ok_iff, Fallible.mapError_eq_ok_iff] at came
    obtain ⟨jwt, -, pair, made, account, -, same⟩ := came
    cases same
    exact generated pair made
  · cases came

theorem meshRegister_endsWith {input : MeshRegisterInput} {given : Enrolling}
    (came : meshRegistering path input disk = .ok (some given)) :
    EndsWith keys codec path process disk (.meshRegister input) given := by
  refine ⟨⟨[], by simp only [Operation.updates, came, asked, List.nil_append], by simp⟩,
    fun generated => ?_⟩
  simp only [meshRegistering, Fallible.bind_eq_ok_iff, message, Fallible.mapError_eq_ok_iff] at came
  obtain ⟨_, -, _, -, _, -, token, -, pair, made, account, -, same⟩ := came
  cases same
  exact generated pair made

theorem enroll_endsWith {input : EnrollInput} {given : Enrolling}
    (came : reEnrolling keys codec path process input disk = .ok (some given)) :
    EndsWith keys codec path process disk (.enroll input) given := by
  have ending := came
  simp only [reEnrolling, Fallible.bind_eq_ok_iff, message, Fallible.mapError_eq_ok_iff] at came
  obtain ⟨cfg, loaded, _, client, first, pair, last, left, same⟩ := came
  cases same
  have role : cfg.role = .client := of_decide_eq_true (holds_of_ensure client)
  refine ⟨⟨[⟨{ id := cfg.id, token := cfg.accessToken }, first.2, enrollIdentity process input cfg⟩],
    ?_, by simp⟩, fun generated => ?_⟩
  · simp only [Operation.updates, enrollUpdates, loaded, role, ne_eq, not_true_eq_false, if_false,
      pair, ending, asked, List.singleton_append]
  · exact enrollingPair_generated left
      (enrollKeyPair_generated pair fun pair made => generated pair (.inl made))
      fun pair made => generated pair (.inr made)

/-- The enrollment that an operation other than a refresh comes to. -/
inductive Enrolls (keys : Keys SecretKey) (codec : Codec) (path : String) (process : Process)
    (disk : Disk) : Operation → Enrolling → Prop where
  | register {input : RegisterInput} {given : Enrolling}
      (came : registering input disk = .ok (some given)) :
      Enrolls keys codec path process disk (.register input) given
  | meshRegister {input : MeshRegisterInput} {given : Enrolling}
      (came : meshRegistering path input disk = .ok (some given)) :
      Enrolls keys codec path process disk (.meshRegister input) given
  | enroll {input : EnrollInput} {given : Enrolling}
      (came : reEnrolling keys codec path process input disk = .ok (some given)) :
      Enrolls keys codec path process disk (.enroll input) given

theorem Enrolls.endsWith {operation : Operation} {given : Enrolling}
    (enrolls : Enrolls keys codec path process disk operation given) :
    EndsWith keys codec path process disk operation given := by
  cases enrolls with
  | register came => exact register_endsWith came
  | meshRegister came => exact meshRegister_endsWith came
  | enroll came => exact enroll_endsWith came

theorem Enrolls.unique {operation : Operation} {given other : Enrolling}
    (enrolls : Enrolls keys codec path process disk operation given)
    (again : Enrolls keys codec path process disk operation other) : given = other := by
  cases enrolls with
  | register came =>
    cases again with
    | register same => exact Option.some.inj (Except.ok.inj (came.symm.trans same))
  | meshRegister came =>
    cases again with
    | meshRegister same => exact Option.some.inj (Except.ok.inj (came.symm.trans same))
  | enroll came =>
    cases again with
    | enroll same => exact Option.some.inj (Except.ok.inj (came.symm.trans same))

/-- What an operation writes is built from the answer to its enrollment, or comes of a refresh. -/
theorem written_cases {operation : Operation}
    (planned : operation.plan keys codec path process disk = .ok plan)
    (written : plan.written = some cfg) :
    (∃ given account built, Enrolls keys codec path process disk operation given ∧
      enrollKey keys process given.account given.publicKeyDer given.sent = .ok account ∧
      buildAppConfig keys account given.privateKeyDer given.account.token given.kept = .ok built ∧
      (given.ending.plan built).written = some cfg) ∨
    (operation = .refresh ∧ refresh keys codec path process disk = .ok plan) := by
  have concluding (came : Except CommandError (Option Enrolling))
      (enrolls : ∀ given, came = .ok (some given) → Enrolls keys codec path process disk operation given)
      (ended : came >>= concluded keys process = .ok plan) :
      ∃ given account built, Enrolls keys codec path process disk operation given ∧
        enrollKey keys process given.account given.publicKeyDer given.sent = .ok account ∧
        buildAppConfig keys account given.privateKeyDer given.account.token given.kept = .ok built ∧
        (given.ending.plan built).written = some cfg := by
    obtain ⟨enrolling, settled, concluded⟩ := Fallible.bind_eq_ok_iff.mp ended
    obtain ⟨given, account, built, rfl, accepted, ready, same⟩ := concluded_built concluded written
    exact ⟨given, account, built, enrolls given settled, accepted, ready, same⟩
  cases operation with
  | register input =>
    rw [Operation.plan, register_concluded] at planned
    exact .inl (concluding _ (fun given came => .register came) planned)
  | meshRegister input =>
    rw [Operation.plan, meshRegister_concluded] at planned
    exact .inl (concluding _ (fun given came => .meshRegister came) planned)
  | enroll input =>
    rw [Operation.plan, enroll_concluded] at planned
    exact .inl (concluding _ (fun given came => .enroll came) planned)
  | refresh => exact .inr ⟨rfl, planned⟩

theorem refresh_accepted (planned : refresh keys codec path process disk = .ok plan)
    (written : plan.written = some cfg) :
    ∃ stored request, load codec path disk = .ok stored ∧
      refreshRegistration keys process stored = .accepted request cfg := by
  simp only [refresh, Fallible.bind_eq_ok_iff, message, Fallible.mapError_eq_ok_iff] at planned
  obtain ⟨stored, loaded, outcome⟩ := planned
  cases came : refreshRegistration keys process stored with
  | notRequired =>
    rw [came] at outcome
    cases outcome
    cases written
  | unsent reason =>
    rw [came] at outcome
    cases outcome
  | refused request failure =>
    rw [came] at outcome
    cases outcome
  | accepted request updated =>
    rw [came] at outcome
    cases outcome
    cases written
    exact ⟨stored, request, loaded, came⟩

theorem refresh_written (planned : refresh keys codec path process disk = .ok plan)
    (written : plan.written = some cfg) :
    ∃ update account, refreshUpdates keys codec path process disk = [update] ∧
      enrollKey keys process update.account update.publicKeyDer update.identity = .ok account ∧
      cfg.id = update.account.id ∧ storedPublicKey keys cfg = .ok update.publicKeyDer := by
  obtain ⟨stored, request, loaded, came⟩ := refresh_accepted planned written
  obtain rfl := accepted_updated came
  unfold refreshRegistration at came
  split at came
  · rename_i required
    split at came
    · cases came
    · rename_i publicKeyDer identity made
      dsimp only at came
      split at came
      · cases came
      · rename_i account accepted
        obtain ⟨secret, decoded, encoded, -⟩ := refreshUpdate_eq_ok_iff.mp made
        refine ⟨⟨_, publicKeyDer, identity⟩, account, ?_, accepted, rfl, ?_⟩
        · simp only [refreshUpdates, loaded, required, if_true, made]
        · exact Fallible.bind_eq_ok_iff.mpr ⟨secret, decoded, encoded⟩
  · cases came

theorem taken_last (asks : turn.attempt.operation.updates keys codec path turn.attempt.process disk =
      front ++ [update]) (taken : turn.takes update = true) :
    turn.taken keys codec path disk update.account.id = some update := by
  rw [Turn.taken, asks, List.filter_append]
  simp [taken]

/-- Nothing is taken for a registration that is not asked for. -/
theorem taken_none {id : String}
    (others : ∀ update ∈ turn.attempt.operation.updates keys codec path turn.attempt.process disk,
      update.account.id ≠ id) : turn.taken keys codec path disk id = none := by
  rw [Turn.taken, List.getLast?_eq_none_iff, List.filter_eq_nil_iff]
  intro update listed
  simp [others update listed]

theorem Enrolls.taken_none {given : Enrolling} {id : String}
    (enrolls : Enrolls keys codec path turn.attempt.process disk turn.attempt.operation given)
    (other : id ≠ given.account.id) : turn.taken keys codec path disk id = none := by
  obtain ⟨⟨front, asks, same⟩, -⟩ := enrolls.endsWith
  refine Registration.taken_none fun update listed => ?_
  rw [asks, List.mem_append, List.mem_singleton] at listed
  rcases listed with before | rfl
  · rw [same update before]
    exact other.symm
  · exact other.symm

/-! ## What is written whole -/

/-- The enrollment is answered for another registration, one the service holds another key for,
and the file is written under its name. -/
def Misnames (keys : Keys SecretKey) (codec : Codec) (path : String) (s : Deployment) (turn : Turn) : Prop :=
  ∃ given account cfg,
    Enrolls keys codec path turn.attempt.process s.disk turn.attempt.operation given ∧
      enrollKey keys turn.attempt.process given.account given.publicKeyDer given.sent = .ok account ∧
      Saves keys codec path cfg s.disk turn.attempt ∧ account.id ≠ given.account.id ∧
      s.held account.id ≠ some given.publicKeyDer

/-- An enrollment that is written whole agrees with the service exactly if it has its right
name. -/
theorem enrolled_agrees_iff {given : Enrolling} {account : AccountData} {built : AppConfig}
    (lawful : keys.Lawful) (contract : Contract keys turn)
    (saves : Saves keys codec path cfg s.disk turn.attempt)
    (enrolls : Enrolls keys codec path turn.attempt.process s.disk turn.attempt.operation given)
    (accepted : enrollKey keys turn.attempt.process given.account given.publicKeyDer given.sent =
      .ok account)
    (ready : buildAppConfig keys account given.privateKeyDer given.account.token given.kept = .ok built)
    (same : (given.ending.plan built).written = some cfg) :
    Agrees keys (turn.heldAfter keys codec path s) cfg ↔ ¬ Misnames keys codec path s turn := by
  obtain ⟨id, key⟩ := built_key ready same
  obtain ⟨⟨front, asks, -⟩, generated⟩ := enrolls.endsWith
  obtain ⟨body, answered⟩ := enrollKey_answered accepted
  have stored : storedPublicKey keys cfg = .ok given.publicKeyDer :=
    storedPublicKey_of_generated lawful (generated contract.generates) key
  have agrees : Agrees keys (turn.heldAfter keys codec path s) cfg ↔
      turn.heldAfter keys codec path s account.id = some given.publicKeyDer := by
    unfold Agrees
    rw [stored, id]
    simp
  have misnames : Misnames keys codec path s turn ↔
      account.id ≠ given.account.id ∧ s.held account.id ≠ some given.publicKeyDer := by
    constructor
    · rintro ⟨last, updated, -, again, answer, -, other, differs⟩
      obtain rfl := enrolls.unique again
      cases accepted.symm.trans answer
      exact ⟨other, differs⟩
    · rintro ⟨other, differs⟩
      exact ⟨given, account, cfg, enrolls, accepted, saves, other, differs⟩
  rw [agrees, misnames]
  by_cases named : account.id = given.account.id
  · have taken := taken_last asks (contract.takes given.update body answered)
    have after : turn.heldAfter keys codec path s account.id = some given.publicKeyDer := by
      rw [Turn.heldAfter, named]
      exact congrArg (fun taken => (Option.map Update.publicKeyDer taken).or _) taken
    exact iff_of_true after fun misnamed => misnamed.1 named
  · have after : turn.heldAfter keys codec path s account.id = s.held account.id := by
      rw [Turn.heldAfter, enrolls.taken_none named]
      rfl
    simp [after, named]

/-- A refresh that is answered has brought its own key to its own registration. -/
theorem refreshed_agrees (contract : Contract keys turn) (operation : turn.attempt.operation = .refresh)
    (refreshed : refresh keys codec path turn.attempt.process s.disk = .ok plan)
    (written : plan.written = some cfg) : Agrees keys (turn.heldAfter keys codec path s) cfg := by
  obtain ⟨update, account, asks, accepted, id, key⟩ := refresh_written refreshed written
  obtain ⟨body, answered⟩ := enrollKey_answered accepted
  have only : turn.attempt.operation.updates keys codec path turn.attempt.process s.disk =
      [] ++ [update] := by
    rw [operation, Operation.updates, asks, List.nil_append]
  refine ⟨update.publicKeyDer, key, ?_⟩
  rw [Turn.heldAfter, id, taken_last only (contract.takes update body answered)]
  rfl

theorem Misnames.operation (misnames : Misnames keys codec path s turn) :
    turn.attempt.operation ≠ .refresh := by
  obtain ⟨given, account, cfg, enrolls, -⟩ := misnames
  intro refreshes
  rw [refreshes] at enrolls
  cases enrolls

/-- What has been written whole agrees with the service exactly if it has its right name. -/
theorem saved_agrees_iff (lawful : keys.Lawful) (contract : Contract keys turn)
    (saves : Saves keys codec path cfg s.disk turn.attempt) :
    Agrees keys (turn.heldAfter keys codec path s) cfg ↔ ¬ Misnames keys codec path s turn := by
  have ⟨plan, planned, written, whole⟩ := saves
  rcases written_cases planned written with
    ⟨given, account, built, enrolls, accepted, ready, same⟩ | ⟨operation, refreshed⟩
  · exact enrolled_agrees_iff lawful contract saves enrolls accepted ready same
  · exact iff_of_true (refreshed_agrees contract operation refreshed written)
      fun misnames => misnames.operation operation

/-! ## All that is asked -/

theorem enrollKey_congr {answer : Request → Answer} {account : AccountData} {publicKeyDer : Bytes}
    {identity : DeviceIdentity}
    (same : answer (enrollRequest keys process account publicKeyDer identity) =
      process.send (enrollRequest keys process account publicKeyDer identity)) :
    enrollKey keys { process with send := answer } account publicKeyDer identity =
      enrollKey keys process account publicKeyDer identity := by
  have request : enrollRequest keys { process with send := answer } account publicKeyDer identity =
      enrollRequest keys process account publicKeyDer identity := rfl
  unfold enrollKey
  simp only [request, same]

theorem concluded_congr {answer : Request → Answer} {given : Except CommandError (Option Enrolling)}
    (same : ∀ update ∈ asked given,
      answer (update.request keys process) = process.send (update.request keys process)) :
    given >>= concluded keys { process with send := answer } = given >>= concluded keys process := by
  refine Fallible.bind_congr_ok fun enrolling came => ?_
  cases enrolling with
  | none => rfl
  | some last =>
    have listed : last.update ∈ asked given := by simp [came, asked]
    have here : enrollKey keys { process with send := answer } last.account last.publicKeyDer last.sent =
        enrollKey keys process last.account last.publicKeyDer last.sent :=
      enrollKey_congr (same _ listed)
    simp only [concluded, enrollOrFail, here]

theorem reEnrolling_congr {answer : Request → Answer} {input : EnrollInput}
    (same : ∀ update ∈ enrollUpdates keys codec path process disk input,
      answer (update.request keys process) = process.send (update.request keys process)) :
    reEnrolling keys codec path { process with send := answer } input disk =
      reEnrolling keys codec path process input disk := by
  unfold reEnrolling
  refine Fallible.bind_congr_ok fun cfg loaded => Fallible.bind_congr_ok fun _ client =>
    Fallible.bind_congr_ok fun first pair => ?_
  have role : cfg.role = .client := of_decide_eq_true (holds_of_ensure client)
  have listed : (⟨{ id := cfg.id, token := cfg.accessToken }, first.2,
      enrollIdentity process input cfg⟩ : Update) ∈ enrollUpdates keys codec path process disk input := by
    simp [enrollUpdates, Fallible.mapError_eq_ok_iff.mp loaded, role, pair]
  have here : enrollKey keys { process with send := answer } { id := cfg.id, token := cfg.accessToken }
      first.2 (enrollIdentity process input cfg) =
        enrollKey keys process { id := cfg.id, token := cfg.accessToken } first.2
          (enrollIdentity process input cfg) := enrollKey_congr (same _ listed)
  have identity : enrollIdentity { process with send := answer } input cfg =
      enrollIdentity process input cfg := rfl
  simp only [identity, enrollingPair, here]

theorem refreshRegistration_congr {answer : Request → Answer}
    (loaded : load codec path disk = .ok cfg)
    (same : ∀ update ∈ refreshUpdates keys codec path process disk,
      answer (update.request keys process) = process.send (update.request keys process)) :
    refreshRegistration keys { process with send := answer } cfg = refreshRegistration keys process cfg := by
  cases required : registrationRefreshRequired process.clientVersion cfg with
  | false => simp [refreshRegistration, required]
  | true =>
    cases made : refreshUpdate keys process.clientVersion cfg with
    | error reason => simp only [refreshRegistration, made]
    | ok found =>
      have listed : (⟨{ id := cfg.id, token := cfg.accessToken }, found.1, found.2⟩ : Update) ∈
          refreshUpdates keys codec path process disk := by
        simp [refreshUpdates, loaded, required, made]
      have here : enrollKey keys { process with send := answer } { id := cfg.id, token := cfg.accessToken }
          found.1 found.2 =
            enrollKey keys process { id := cfg.id, token := cfg.accessToken } found.1 found.2 :=
        enrollKey_congr (same _ listed)
      have request : enrollRequest keys { process with send := answer }
          { id := cfg.id, token := cfg.accessToken } found.1 found.2 =
            enrollRequest keys process { id := cfg.id, token := cfg.accessToken } found.1 found.2 := rfl
      simp only [refreshRegistration, made, here, request]

/-- What an operation comes to depends on the answers to its updates alone. -/
theorem updates_decide_plan {operation : Operation} {answer : Request → Answer}
    (same : ∀ update ∈ operation.updates keys codec path process disk,
      answer (update.request keys process) = process.send (update.request keys process)) :
    operation.plan keys codec path { process with send := answer } disk =
      operation.plan keys codec path process disk := by
  cases operation with
  | register input =>
    simp only [Operation.plan, register_concluded]
    exact concluded_congr same
  | meshRegister input =>
    simp only [Operation.plan, meshRegister_concluded]
    exact concluded_congr same
  | enroll input =>
    simp only [Operation.plan, enroll_concluded]
    rw [reEnrolling_congr same]
    refine concluded_congr fun update member => same update ?_
    cases came : reEnrolling keys codec path process input disk with
    | error failure =>
      rw [came] at member
      cases member
    | ok enrolling =>
      cases enrolling with
      | none =>
        rw [came] at member
        cases member
      | some given =>
        rw [came] at member
        obtain ⟨⟨front, asks, -⟩, -⟩ := enroll_endsWith came
        rw [List.mem_singleton.mp member, asks]
        exact List.mem_append_right _ (List.mem_singleton.mpr rfl)
  | refresh =>
    refine Fallible.bind_congr_ok fun cfg loaded => ?_
    rw [refreshRegistration_congr (Fallible.mapError_eq_ok_iff.mp loaded) same]

/-! ## One turn -/

/-- Whatever has opened the file leaves nothing to load, or what it has written whole. -/
theorem opens_saves_or_refused (lawful : codec.Lawful) (opens : attempt.Opens keys codec path disk) :
    (∃ reason, load codec path (attempt.found keys codec path disk) = .error reason) ∨
      ∃ cfg, Saves keys codec path cfg disk attempt ∧
        load codec path (attempt.found keys codec path disk) = .ok cfg := by
  cases loaded : load codec path (attempt.found keys codec path disk) with
  | error reason => exact .inl ⟨reason, rfl⟩
  | ok cfg => exact .inr ⟨cfg, found_opened lawful opens loaded, rfl⟩

/-- A misnamed configuration can be loaded, so it does not agree. -/
theorem misnames_not_keyHeld (lawful : keys.Lawful) (lawfulCodec : codec.Lawful)
    (contract : Contract keys turn) (misnames : Misnames keys codec path s turn)
    (stepped : turnStep keys codec path s turn = some next) : ¬ KeyHeld keys codec path next := by
  cases stepped
  intro held
  obtain ⟨given, account, cfg, -, -, saves, -⟩ := id misnames
  exact (saved_agrees_iff lawful contract saves).mp (held cfg (found_saved lawfulCodec saves)) misnames

theorem keyHeld_iff (lawful : keys.Lawful) (lawfulCodec : codec.Lawful) (contract : Contract keys turn)
    (held : KeyHeld keys codec path s) (stepped : turnStep keys codec path s turn = some next) :
    KeyHeld keys codec path next ↔
      ¬ Abandons keys codec path s turn ∧ ¬ Misnames keys codec path s turn := by
  constructor
  · intro after
    refine ⟨?_, fun misnames => misnames_not_keyHeld lawful lawfulCodec contract misnames stepped after⟩
    rintro ⟨cfg, update, loaded, taken, other, closed⟩
    cases stepped
    obtain ⟨publicKeyDer, key, holds⟩ := after cfg (by rwa [found_unopened closed])
    simp only [Turn.heldAfter, taken, Option.map_some, Option.some_or, Option.some.injEq] at holds
    exact other (holds ▸ key)
  · rintro ⟨kept, named⟩
    cases stepped
    by_cases opens : turn.attempt.Opens keys codec path s.disk
    · intro cfg loaded
      exact (saved_agrees_iff lawful contract (found_opened lawfulCodec opens loaded)).mpr named
    · intro cfg loaded
      rw [found_unopened opens] at loaded
      obtain ⟨publicKeyDer, key, holds⟩ := held cfg loaded
      refine ⟨publicKeyDer, key, ?_⟩
      cases taken : turn.taken keys codec path s.disk cfg.id with
      | none => simpa [Turn.heldAfter, taken] using holds
      | some update =>
        have same : storedPublicKey keys cfg = .ok update.publicKeyDer := by
          by_contra other
          exact kept ⟨cfg, update, loaded, taken, other, opens⟩
        cases key.symm.trans same
        simp [Turn.heldAfter, taken]

/-- Only `register` and `enroll` can leave the file behind: a refresh sends the stored key, and
`mesh-register` does nothing where there is a file. -/
theorem abandons_operation (abandons : Abandons keys codec path s turn) :
    (∃ input, turn.attempt.operation = .register input) ∨
      ∃ input, turn.attempt.operation = .enroll input := by
  obtain ⟨cfg, update, loaded, taken, other, -⟩ := abandons
  have listed : update ∈ turn.attempt.operation.updates keys codec path turn.attempt.process s.disk :=
    (List.mem_filter.mp (List.mem_of_getLast? taken)).1
  cases operation : turn.attempt.operation with
  | register input => exact .inl ⟨input, rfl⟩
  | enroll input => exact .inr ⟨input, rfl⟩
  | meshRegister input =>
    rw [operation, Operation.updates] at listed
    cases came : meshRegistering path input s.disk with
    | error failure =>
      rw [came] at listed
      cases listed
    | ok enrolling =>
      simp only [meshRegistering, Fallible.bind_eq_ok_iff] at came
      obtain ⟨_, absent, -⟩ := came
      cases found : s.disk with
      | none => simp [found, load, readToString] at loaded
      | some file =>
        rw [found] at absent
        cases holds_of_ensure absent
  | refresh =>
    rw [operation, Operation.updates, refreshUpdates, loaded] at listed
    simp only at listed
    split at listed
    · cases made : refreshUpdate keys turn.attempt.process.clientVersion cfg with
      | error reason =>
        rw [made] at listed
        cases listed
      | ok found =>
        obtain ⟨publicKeyDer, identity⟩ := found
        rw [made] at listed
        obtain rfl := List.mem_singleton.mp listed
        obtain ⟨secret, decoded, encoded, -⟩ := refreshUpdate_eq_ok_iff.mp made
        exact absurd (Fallible.bind_eq_ok_iff.mpr ⟨secret, decoded, encoded⟩) other
    · cases listed

/-! ## Any number of turns -/

def HeldAfter (keys : Keys SecretKey) (codec : Codec) (path : String) (s : Deployment) (turn : Turn) : Prop :=
  ∀ next, turnStep keys codec path s turn = some next → KeyHeld keys codec path next

/-- In every run of commands, interrupted or not, a configuration that loads agrees with the
service exactly as long as no command leaves the file behind or writes it under a wrong name. No
refresh does either; no `mesh-register` leaves a file behind. What opens the file leaves nothing
to load, or what it has written whole, which agrees unless it is misnamed. -/
theorem stored_key_is_held (lawful : keys.Lawful) (lawfulCodec : codec.Lawful) (path : String)
    (start : Deployment) (held : KeyHeld keys codec path start) (turns : List Turn)
    (contract : ∀ turn ∈ turns, Contract keys turn) :
    (Along (turnStep keys codec path) (HeldAfter keys codec path) start turns ↔
      Along (turnStep keys codec path)
        (fun s turn => ¬ Abandons keys codec path s turn ∧ ¬ Misnames keys codec path s turn) start turns) ∧
    (∀ s turn, Abandons keys codec path s turn → (∃ input, turn.attempt.operation = .register input) ∨
      ∃ input, turn.attempt.operation = .enroll input) ∧
    (∀ s turn, Misnames keys codec path s turn → turn.attempt.operation ≠ .refresh) ∧
    ∀ s turn, turn ∈ turns → turn.attempt.Opens keys codec path s.disk →
      (∃ reason, load codec path (turn.attempt.found keys codec path s.disk) = .error reason) ∨
        ∃ cfg, Saves keys codec path cfg s.disk turn.attempt ∧
          load codec path (turn.attempt.found keys codec path s.disk) = .ok cfg ∧
          (Agrees keys (turn.heldAfter keys codec path s) cfg ↔ ¬ Misnames keys codec path s turn) := by
  refine ⟨?_, fun s turn => abandons_operation, fun s turn misnames => misnames.operation, ?_⟩
  · refine along_congr_of_inv (KeyHeld keys codec path) ?_ (fun s turn next _ after => after next) held
    intro s turn member before
    constructor
    · intro after
      exact (keyHeld_iff lawful lawfulCodec (contract turn member) before rfl).mp (after _ rfl)
    · intro kept next stepped
      exact (keyHeld_iff lawful lawfulCodec (contract turn member) before stepped).mpr kept
  · intro s turn member opens
    rcases opens_saves_or_refused lawfulCodec opens with refused | ⟨cfg, saves, loaded⟩
    · exact .inl refused
    · exact .inr ⟨cfg, saves, loaded, saved_agrees_iff lawful (contract turn member) saves⟩

end

/-! ## A refresh that stores its version -/

/-- The codecs with one key pair. -/
def base64Keys : Keys Unit where
  encode bytes := String.ofList (Base64.encode Base64.standard true bytes)
  decode text := Base64.decode Base64.standard true text.toList
  fromSec1Der der := if der = pointSec1 then some () else none
  toSec1Der _ := .ok pointSec1
  publicKeyDer _ := .ok pointSpki

theorem base64Keys_lawful : base64Keys.Lawful where
  decodes der := by
    show Base64.decode Base64.standard true (String.ofList _).toList = some der
    rw [String.toList_ofList, Base64.decode_encode]
  parses secret der given := by
    cases given
    show (if pointSec1 = pointSec1 then some () else none) = some ()
    exact if_pos rfl

def heldConfig : AppConfig := { clientConfig with privateKey := base64Keys.encode pointSec1 }

theorem heldConfig_key : storedPublicKey base64Keys heldConfig = .ok pointSpki := by
  have generated : Generated base64Keys (pointSec1, pointSpki) := ⟨(), rfl, rfl⟩
  exact storedPublicKey_of_generated base64Keys_lawful generated rfl

def heldDeployment : Deployment where
  disk := some ⟨savedBytes plainJson.codec heldConfig, 0o600⟩
  held _ := some pointSpki

theorem heldDeployment_load : load plainJson.codec "config.json" heldDeployment.disk = .ok heldConfig :=
  load_of_content (by rw [heldDeployment, Option.map_some]) (plainJson_lawful.roundTrip heldConfig)

/-- A refresh that gets to the end of its save; the service takes its key. -/
def heldRefresh : Turn where
  attempt := clientRefresh ((savedBytes plainJson.codec (heldConfig.withClientVersion "0.8.0")).length + 1)
  takes _ := true

theorem heldRefresh_plan (stop : ℕ) :
    (clientRefresh stop).plan base64Keys plainJson.codec "config.json" heldDeployment.disk =
      .ok (.saveSensitive (heldConfig.withClientVersion "0.8.0")) := by
  have differ : VersionsDiffer clientProcess.clientVersion heldConfig :=
    ⟨(0, 7, 0), (0, 8, 0), by decide, by decide +kernel, by decide⟩
  obtain ⟨secret, decoded, encoded⟩ := Fallible.bind_eq_ok_iff.mp heldConfig_key
  have made : refreshUpdate base64Keys clientProcess.clientVersion heldConfig =
      .ok (pointSpki, { heldConfig.deviceIdentity with clientVersion := "0.8.0" }) :=
    refreshUpdate_eq_ok_iff.mpr ⟨secret, decoded, encoded, rfl⟩
  have answered : enrollKey base64Keys clientProcess { id := heldConfig.id, token := heldConfig.accessToken }
      pointSpki { heldConfig.deviceIdentity with clientVersion := "0.8.0" } = .ok clientAccount := by
    refine enrollKey_ok rfl ?_
    show decodeClientAccount clientAccountJson = .ok clientAccount
    unfold decodeClientAccount
    exact if_pos rfl
  obtain ⟨request, accepted⟩ := refreshRegistration_accepted differ made answered
  unfold Attempt.plan Operation.plan clientRefresh
  exact refresh_of_accepted heldDeployment_load accepted

theorem heldRefresh_saves {stop : ℕ}
    (whole : (savedBytes plainJson.codec (heldConfig.withClientVersion "0.8.0")).length < stop) :
    Saves base64Keys plainJson.codec "config.json" (heldConfig.withClientVersion "0.8.0")
      heldDeployment.disk (clientRefresh stop) :=
  ⟨.saveSensitive (heldConfig.withClientVersion "0.8.0"), heldRefresh_plan stop, rfl, whole⟩

theorem stored_key_is_held_refresh :
    Along (turnStep base64Keys plainJson.codec "config.json")
        (HeldAfter base64Keys plainJson.codec "config.json") heldDeployment [heldRefresh] ∧
      Agrees base64Keys (heldRefresh.heldAfter base64Keys plainJson.codec "config.json" heldDeployment)
        (heldConfig.withClientVersion "0.8.0") := by
  have held : KeyHeld base64Keys plainJson.codec "config.json" heldDeployment := by
    intro cfg loaded
    cases loaded.symm.trans heldDeployment_load
    exact ⟨pointSpki, heldConfig_key, rfl⟩
  have contract : ∀ turn ∈ [heldRefresh], Contract base64Keys turn := by
    intro turn member
    obtain rfl := List.mem_singleton.mp member
    exact ⟨fun _ _ _ => rfl, fun pair => False.elim⟩
  obtain ⟨along, only, named, opened⟩ := stored_key_is_held base64Keys_lawful plainJson_lawful
    "config.json" heldDeployment held [heldRefresh] contract
  have right : ¬ Misnames base64Keys plainJson.codec "config.json" heldDeployment heldRefresh :=
    fun misnames => named _ _ misnames rfl
  have kept : ¬ Abandons base64Keys plainJson.codec "config.json" heldDeployment heldRefresh := by
    intro abandons
    rcases only _ _ abandons with ⟨input, other⟩ | ⟨input, other⟩ <;> cases other
  refine ⟨along.mpr ⟨⟨kept, right⟩, fun _ _ => trivial⟩, ?_⟩
  have saves : Saves base64Keys plainJson.codec "config.json" (heldConfig.withClientVersion "0.8.0")
      heldDeployment.disk heldRefresh.attempt := heldRefresh_saves (Nat.lt_add_one _)
  obtain ⟨plan, planned, written, whole⟩ := saves
  have opens : heldRefresh.attempt.Opens base64Keys plainJson.codec "config.json" heldDeployment.disk :=
    ⟨plan, _, planned, written, Nat.lt_of_le_of_lt (Nat.zero_le _) whole⟩
  have loads := found_saved plainJson_lawful ⟨plan, planned, written, whole⟩
  rcases opened _ _ (List.mem_singleton_self _) opens with ⟨reason, refused⟩ | ⟨cfg, saves, loaded, agrees⟩
  · cases refused.symm.trans loads
  · cases loaded.symm.trans loads
    exact agrees.mpr right

end Usque.Registration
