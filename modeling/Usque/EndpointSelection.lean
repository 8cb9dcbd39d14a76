import Usque.Config
import Usque.Lib.FirstOccurrences
import Usque.Lib.ClassSort

/-! Endpoint selection against its reference: every endpoint the peers list, the
first of each address, port and key, class by class. The family preference only
rearranges them. -/
namespace Usque.Config

open Net FirstOccurrences

/-! ## The reference -/

/-- An address field that holds more than white space. -/
def Written (address : String) : Prop := trim address.toList ≠ []

instance (address : String) : Decidable (Written address) :=
  inferInstanceAs (Decidable (_ ≠ _))

/-- The ports of a peer: the one asked for, else its own other than zero, else 443. -/
def referencePorts (portOverride : UInt16) (peer : MasquePeerConfig) : List UInt16 :=
  match decide (portOverride = 0), peer.ports.filter (0 < ·) with
  | false, _ => [portOverride]
  | true, [] => [443]
  | true, own => own

/-- The address fields of a peer, preferred family first. -/
def referenceAddresses : Bool → MasquePeerConfig → List String
  | true, peer => [peer.endpointV6, peer.endpointV4]
  | false, peer => [peer.endpointV4, peer.endpointV6]

/-- Port 443 in front and port 1701 behind the others. -/
def byPort (endpoints : List MasqueEndpoint) : List MasqueEndpoint :=
  endpoints.filter (·.addr.port = 443) ++
    endpoints.filter (fun endpoint => endpoint.addr.port ∉ [443, 1701]) ++
    endpoints.filter (·.addr.port = 1701)

/-- The endpoints of one address field, one a port. -/
def addressEndpoints (host : String) (key : Bytes) (ports : List UInt16) (address : String) :
    List MasqueEndpoint :=
  if Written address then
    match parseIpAddr (normalizeIp address) with
    | some ip => ports.map fun port => ⟨⟨ip, port⟩, host, key⟩
    | none => []
  else []

/-- The endpoints of one peer. -/
def peerEndpoints (pemContents : String → Option Bytes) (preferIpv6 : Bool)
    (portOverride : UInt16) (peer : MasquePeerConfig) : List MasqueEndpoint :=
  match pemContents peer.endpointPubKey with
  | some key => (referenceAddresses preferIpv6 peer).flatMap
      (addressEndpoints peer.endpointHost key (referencePorts portOverride peer))
  | none => []

/-- What tells two endpoints apart. -/
def endpointKey (endpoint : MasqueEndpoint) : SocketAddr × Bytes :=
  (endpoint.addr, endpoint.endpointPubKeySpkiDer)

/-- The endpoints a selection should return. -/
def referenceEndpoints (pemContents : String → Option Bytes) (cfg : AppConfig)
    (preferIpv6 : Bool) (portOverride : UInt16) : List MasqueEndpoint :=
  byPort (firsts endpointKey (cfg.peers.flatMap (peerEndpoints pemContents preferIpv6 portOverride)))

/-- A configuration endpoints can be selected from: every key decodes, every
address written down parses, and there is one. -/
structure Usable (pemContents : String → Option Bytes) (cfg : AppConfig) : Prop where
  keys : ∀ peer ∈ cfg.peers, ∃ key, pemContents peer.endpointPubKey = some key
  addresses : ∀ peer ∈ cfg.peers, ∀ address ∈ [peer.endpointV4, peer.endpointV6],
    Written address → ∃ ip, parseIpAddr (normalizeIp address) = some ip
  some : ∃ peer ∈ cfg.peers, ∃ address ∈ [peer.endpointV4, peer.endpointV6], Written address

/-! ## The ports, the families and the classes -/

theorem peerPorts_eq (portOverride : UInt16) (peer : MasquePeerConfig) :
    peerPorts portOverride peer = referencePorts portOverride peer := by
  have own : peer.ports.filter (· ≠ 0) = peer.ports.filter (0 < ·) := by
    refine List.filter_congr fun port _ => ?_
    rw [decide_eq_decide, UInt16.lt_iff_toNat_lt, ne_eq, ← UInt16.toNat_inj]
    exact Nat.pos_iff_ne_zero.symm
  unfold peerPorts referencePorts
  by_cases asked : portOverride = 0
  · simp only [asked, ne_eq, not_true_eq_false, if_false, decide_true]
    rw [show peer.ports.filter _ = _ from own]
    cases peer.ports.filter (0 < ·) <;> rfl
  · simp only [asked, ne_eq, not_false_eq_true, if_true, decide_false]

theorem families_eq (preferIpv6 : Bool) (peer : MasquePeerConfig) :
    families preferIpv6 peer = referenceAddresses preferIpv6 peer := by
  cases preferIpv6 <;> rfl

theorem byPort_eq (endpoints : List MasqueEndpoint) :
    byPort endpoints = ClassSort.byClass portClass 3 endpoints := by
  have first : endpoints.filter (portClass · = 0) = endpoints.filter (·.addr.port = 443) := by
    refine List.filter_congr fun endpoint _ => ?_
    unfold portClass
    split_ifs <;> simp_all
  have middle : endpoints.filter (portClass · = 1) =
      endpoints.filter (fun endpoint => endpoint.addr.port ∉ [443, 1701]) := by
    refine List.filter_congr fun endpoint _ => ?_
    unfold portClass
    split_ifs <;> simp_all
  have last : endpoints.filter (portClass · = 2) = endpoints.filter (·.addr.port = 1701) := by
    refine List.filter_congr fun endpoint _ => ?_
    unfold portClass
    split_ifs <;> simp_all
  rw [byPort, ClassSort.byClass_succ, ClassSort.byClass_succ, ClassSort.byClass_succ, first, middle,
    last]
  rfl

/-! ## The three loops -/

/-- The push of the innermost loop, once its address has parsed. -/
def push (selection : Selection) (endpoint : MasqueEndpoint) : Selection :=
  if endpointKey endpoint ∈ selection.seen then selection
  else {
    endpoints := selection.endpoints ++ [endpoint]
    seen := endpointKey endpoint :: selection.seen }

section Folds

variable {α β ε : Type} {γ : Type} {turn : β → α → Except ε β} {step : β → γ → β}
  {parts : α → List γ} {items : List α}

/-- A fold whose turns all succeed runs through the parts of its items. -/
private theorem foldlM_eq_ok (turns : ∀ item ∈ items, ∀ acc, turn acc item =
    .ok ((parts item).foldl step acc)) (acc : β) :
    items.foldlM turn acc = .ok ((items.flatMap parts).foldl step acc) := by
  induction items generalizing acc with
  | nil => rfl
  | cons item rest ih =>
    rw [List.foldlM_cons, turns item List.mem_cons_self, List.flatMap_cons, List.foldl_append]
    exact ih (fun other member => turns other (List.mem_cons_of_mem _ member)) _

/-- A fold with a turn that always fails fails. -/
private theorem foldlM_eq_error {item : α} (member : item ∈ items)
    (fails : ∀ acc, ∃ e, turn acc item = .error e) (acc : β) :
    ∃ e, items.foldlM turn acc = .error e := by
  induction items generalizing acc with
  | nil => cases member
  | cons head rest ih =>
    rw [List.foldlM_cons]
    cases first : turn acc head with
    | error e => exact ⟨e, rfl⟩
    | ok next =>
      rcases List.mem_cons.mp member with rfl | later
      · obtain ⟨e, failed⟩ := fails acc
        rw [failed] at first
        cases first
      · exact ih later next

end Folds

theorem referencePorts_ne_nil (portOverride : UInt16) (peer : MasquePeerConfig) :
    referencePorts portOverride peer ≠ [] := by
  unfold referencePorts
  split
  · exact List.cons_ne_nil _ _
  · exact List.cons_ne_nil _ _
  · next some' => exact fun none => some' none

variable {pemContents : String → Option Bytes} {cfg : AppConfig} {preferIpv6 : Bool}
  {portOverride : UInt16}

theorem mem_referenceAddresses_iff {peer : MasquePeerConfig} {address : String} :
    address ∈ referenceAddresses preferIpv6 peer ↔
      address ∈ [peer.endpointV4, peer.endpointV6] := by
  cases preferIpv6
  · rfl
  · simp [referenceAddresses, or_comm]

private theorem parseSocket_eq (address : String) (port : UInt16) :
    parseSocket address port = match parseIpAddr (normalizeIp address) with
      | some ip => .ok ⟨ip, port⟩
      | none => .error (.endpointIp address) := by
  unfold parseSocket
  rfl

private theorem addPort_eq {host address : String} {key : Bytes} {ip : IpAddr}
    (parsed : parseIpAddr (normalizeIp address) = some ip) (selection : Selection)
    (port : UInt16) :
    addPort host key address selection port = .ok (push selection ⟨⟨ip, port⟩, host, key⟩) := by
  simp only [addPort, parseSocket_eq, parsed, bind, Except.bind, pure, Except.pure]
  by_cases seen : ((⟨ip, port⟩ : SocketAddr), key) ∈ selection.seen
  · have kept : push selection ⟨⟨ip, port⟩, host, key⟩ = selection := if_pos seen
    rw [if_pos seen, kept]
  · have pushed : push selection ⟨⟨ip, port⟩, host, key⟩ = {
        endpoints := selection.endpoints ++ [⟨⟨ip, port⟩, host, key⟩]
        seen := (⟨ip, port⟩, key) :: selection.seen } := if_neg seen
    rw [if_neg seen, pushed]

/-- An address field that is blank or parses adds its endpoints. -/
private theorem addAddress_eq_ok {host address : String} {key : Bytes} {ports : List UInt16}
    (parses : Written address → ∃ ip, parseIpAddr (normalizeIp address) = some ip)
    (selection : Selection) :
    addAddress host key ports selection address =
      .ok ((addressEndpoints host key ports address).foldl push selection) := by
  unfold addAddress addressEndpoints
  by_cases written : Written address
  · obtain ⟨ip, parsed⟩ := parses written
    rw [if_neg written, if_pos written, parsed]
    have turns : ∀ port ∈ ports, ∀ acc, addPort host key address acc port =
        .ok (([⟨⟨ip, port⟩, host, key⟩] : List MasqueEndpoint).foldl push acc) :=
      fun port _ acc => addPort_eq parsed acc port
    rw [foldlM_eq_ok turns]
    simp only [List.map_eq_flatMap]
  · rw [if_pos (not_not.mp written), if_neg written]
    rfl

/-- An address field that is written down and does not parse ends the selection. -/
private theorem addAddress_eq_error {host address : String} {key : Bytes} {ports : List UInt16}
    (some : ports ≠ []) (written : Written address)
    (unparsed : parseIpAddr (normalizeIp address) = none) (selection : Selection) :
    ∃ e, addAddress host key ports selection address = .error e := by
  obtain ⟨port, rest, rfl⟩ := List.exists_cons_of_ne_nil some
  rw [addAddress, if_neg written]
  apply foldlM_eq_error List.mem_cons_self
  intro acc
  exact ⟨.endpointIp address, by simp only [addPort, parseSocket_eq, unparsed, bind, Except.bind]⟩

private theorem addPeer_eq_ok {peer : MasquePeerConfig} {key : Bytes}
    (decoded : pemContents peer.endpointPubKey = some key)
    (parses : ∀ address ∈ [peer.endpointV4, peer.endpointV6], Written address →
      ∃ ip, parseIpAddr (normalizeIp address) = some ip) (selection : Selection) :
    addPeer pemContents preferIpv6 portOverride selection peer =
      .ok ((peerEndpoints pemContents preferIpv6 portOverride peer).foldl push selection) := by
  rw [addPeer, peerEndpoints, decoded, families_eq, peerPorts_eq]
  apply foldlM_eq_ok
  intro address member acc
  exact addAddress_eq_ok (parses address (mem_referenceAddresses_iff.mp member)) acc

private theorem addPeer_eq_error {peer : MasquePeerConfig}
    (bad : pemContents peer.endpointPubKey = none ∨
      ∃ address ∈ [peer.endpointV4, peer.endpointV6], Written address ∧
        parseIpAddr (normalizeIp address) = none) (selection : Selection) :
    ∃ e, addPeer pemContents preferIpv6 portOverride selection peer = .error e := by
  rw [addPeer]
  cases decoded : pemContents peer.endpointPubKey with
  | none => exact ⟨_, rfl⟩
  | some key =>
    rcases bad with undecoded | ⟨address, member, written, unparsed⟩
    · rw [decoded] at undecoded
      cases undecoded
    · rw [families_eq, peerPorts_eq]
      apply foldlM_eq_error (mem_referenceAddresses_iff.mpr member)
      exact addAddress_eq_error (referencePorts_ne_nil portOverride peer) written unparsed

/-- The pushes keep the first endpoint with each key. -/
private theorem foldl_push (items : List MasqueEndpoint) (selection : Selection)
    (recorded : ∀ pair, pair ∈ selection.seen ↔ pair ∈ selection.endpoints.map endpointKey) :
    (items.foldl push selection).endpoints =
      items.foldl (keepNew endpointKey) selection.endpoints := by
  induction items generalizing selection with
  | nil => rfl
  | cons item rest ih =>
    rw [List.foldl_cons, List.foldl_cons, push, keepNew]
    by_cases seen : endpointKey item ∈ selection.seen
    · rw [if_pos seen, if_pos ((recorded _).mp seen)]
      exact ih selection recorded
    · rw [if_neg seen, if_neg (fun kept => seen ((recorded _).mpr kept))]
      apply ih
      intro pair
      simp [recorded pair, or_comm]

/-! ## The selection is its reference -/

/-- A peer lists an endpoint: its own host and key, one of the addresses it
writes down and one of its ports. -/
structure Advertises (pemContents : String → Option Bytes) (portOverride : UInt16)
    (peer : MasquePeerConfig) (endpoint : MasqueEndpoint) : Prop where
  host : endpoint.host = peer.endpointHost
  key : pemContents peer.endpointPubKey = some endpoint.endpointPubKeySpkiDer
  address : ∃ address ∈ [peer.endpointV4, peer.endpointV6], Written address ∧
    parseIpAddr (normalizeIp address) = some endpoint.addr.ip
  port : endpoint.addr.port ∈ referencePorts portOverride peer

private theorem mem_addressEndpoints_iff {host address : String} {key : Bytes}
    {ports : List UInt16} {endpoint : MasqueEndpoint} :
    endpoint ∈ addressEndpoints host key ports address ↔
      Written address ∧ parseIpAddr (normalizeIp address) = some endpoint.addr.ip ∧
        endpoint.addr.port ∈ ports ∧ endpoint.host = host ∧ endpoint.endpointPubKeySpkiDer = key := by
  unfold addressEndpoints
  by_cases written : Written address
  · rw [if_pos written]
    cases parsed : parseIpAddr (normalizeIp address) with
    | none => simp
    | some ip =>
      obtain ⟨⟨ip', port⟩, host', key'⟩ := endpoint
      simp only [List.mem_map, MasqueEndpoint.mk.injEq, SocketAddr.mk.injEq, Option.some.injEq]
      constructor
      · rintro ⟨port, member, ⟨rfl, rfl⟩, rfl, rfl⟩
        exact ⟨written, rfl, member, rfl, rfl⟩
      · rintro ⟨-, rfl, member, rfl, rfl⟩
        exact ⟨port, member, ⟨rfl, rfl⟩, rfl, rfl⟩
  · simp [written]

theorem mem_peerEndpoints_iff {peer : MasquePeerConfig} {endpoint : MasqueEndpoint} :
    endpoint ∈ peerEndpoints pemContents preferIpv6 portOverride peer ↔
      Advertises pemContents portOverride peer endpoint := by
  rw [peerEndpoints]
  constructor
  · intro member
    split at member
    · rename_i key decoded
      obtain ⟨address, family, within⟩ := List.mem_flatMap.mp member
      obtain ⟨written, parsed, port, host, rfl⟩ := mem_addressEndpoints_iff.mp within
      exact ⟨host, decoded, ⟨address, mem_referenceAddresses_iff.mp family, written, parsed⟩, port⟩
    · cases member
  · rintro ⟨host, decoded, ⟨address, family, written, parsed⟩, port⟩
    rw [decoded]
    exact List.mem_flatMap.mpr ⟨address, mem_referenceAddresses_iff.mpr family,
      mem_addressEndpoints_iff.mpr ⟨written, parsed, port, host, rfl⟩⟩

theorem portClass_lt (endpoint : MasqueEndpoint) : portClass endpoint < 3 := by
  unfold portClass
  split_ifs <;> decide

private theorem referenceEndpoints_eq_mergeSort :
    referenceEndpoints pemContents cfg preferIpv6 portOverride =
      (firsts endpointKey (cfg.peers.flatMap
        (peerEndpoints pemContents preferIpv6 portOverride))).mergeSort
          fun a b => portClass a ≤ portClass b := by
  rw [referenceEndpoints, byPort_eq]
  exact (ClassSort.mergeSort_eq_byClass fun endpoint _ => portClass_lt endpoint).symm

theorem referenceEndpoints_perm :
    (referenceEndpoints pemContents cfg preferIpv6 portOverride).Perm
      (firsts endpointKey (cfg.peers.flatMap
        (peerEndpoints pemContents preferIpv6 portOverride))) := by
  rw [referenceEndpoints_eq_mergeSort]
  exact List.mergeSort_perm _ _

/-- A usable configuration lists an endpoint. -/
private theorem Usable.advertises (usable : Usable pemContents cfg) (portOverride : UInt16) :
    ∃ peer ∈ cfg.peers, ∃ endpoint, Advertises pemContents portOverride peer endpoint := by
  obtain ⟨peer, member, address, family, written⟩ := usable.some
  obtain ⟨key, decoded⟩ := usable.keys peer member
  obtain ⟨ip, parsed⟩ := usable.addresses peer member address family written
  obtain ⟨port, rest, ports⟩ := List.exists_cons_of_ne_nil (referencePorts_ne_nil portOverride peer)
  refine ⟨peer, member, ⟨⟨ip, port⟩, peer.endpointHost, key⟩, rfl, decoded,
    ⟨address, family, written, parsed⟩, ?_⟩
  rw [ports]
  exact List.mem_cons_self

private theorem foldlM_addPeer_eq_ok (preferIpv6 : Bool) (portOverride : UInt16)
    (keys : ∀ peer ∈ cfg.peers, ∃ key, pemContents peer.endpointPubKey = some key)
    (addresses : ∀ peer ∈ cfg.peers, ∀ address ∈ [peer.endpointV4, peer.endpointV6],
      Written address → ∃ ip, parseIpAddr (normalizeIp address) = some ip) :
    ∃ selection, cfg.peers.foldlM (addPeer pemContents preferIpv6 portOverride) {} = .ok selection ∧
      selection.endpoints = firsts endpointKey
        (cfg.peers.flatMap (peerEndpoints pemContents preferIpv6 portOverride)) := by
  have turns : ∀ peer ∈ cfg.peers, ∀ acc, addPeer pemContents preferIpv6 portOverride acc peer =
      .ok ((peerEndpoints pemContents preferIpv6 portOverride peer).foldl push acc) := by
    intro peer member acc
    obtain ⟨key, decoded⟩ := keys peer member
    exact addPeer_eq_ok decoded (addresses peer member) acc
  exact ⟨_, foldlM_eq_ok turns _, by rw [foldl_push _ _ (by simp), foldl_keepNew_nil]⟩

/-- A usable configuration selects its reference. -/
theorem selectEndpoints_eq_ok (preferIpv6 : Bool) (portOverride : UInt16)
    (usable : Usable pemContents cfg) :
    selectEndpointsFromConfig pemContents cfg preferIpv6 portOverride =
      .ok (referenceEndpoints pemContents cfg preferIpv6 portOverride) := by
  obtain ⟨selection, folded, endpoints⟩ :=
    foldlM_addPeer_eq_ok preferIpv6 portOverride usable.keys usable.addresses
  obtain ⟨peer, member, endpoint, listed⟩ := usable.advertises portOverride
  have some : selection.endpoints ≠ [] := by
    intro nothing
    have inside : endpoint ∈ cfg.peers.flatMap
        (peerEndpoints pemContents preferIpv6 portOverride) :=
      List.mem_flatMap.mpr ⟨peer, member, mem_peerEndpoints_iff.mpr listed⟩
    obtain ⟨kept, within, -⟩ := exists_mem_firsts endpointKey inside
    rw [← endpoints, nothing] at within
    cases within
  rw [selectEndpointsFromConfig, folded, referenceEndpoints_eq_mergeSort, ← endpoints]
  simp only [bind, Except.bind, if_neg some, pure, Except.pure]

/-- Any other configuration selects nothing. -/
theorem selectEndpoints_eq_error (preferIpv6 : Bool) (portOverride : UInt16)
    (unusable : ¬ Usable pemContents cfg) :
    ∃ e, selectEndpointsFromConfig pemContents cfg preferIpv6 portOverride = .error e := by
  rw [selectEndpointsFromConfig]
  by_cases bad : ∃ peer ∈ cfg.peers, pemContents peer.endpointPubKey = none ∨
      ∃ address ∈ [peer.endpointV4, peer.endpointV6], Written address ∧
        parseIpAddr (normalizeIp address) = none
  · obtain ⟨peer, member, broken⟩ := bad
    obtain ⟨e, failed⟩ := foldlM_eq_error member (addPeer_eq_error broken) ({} : Selection)
    exact ⟨e, by rw [failed]; rfl⟩
  · have keys : ∀ peer ∈ cfg.peers, ∃ key, pemContents peer.endpointPubKey = some key := by
      intro peer member
      rw [← Option.ne_none_iff_exists']
      exact fun undecoded => bad ⟨peer, member, .inl undecoded⟩
    have addresses : ∀ peer ∈ cfg.peers, ∀ address ∈ [peer.endpointV4, peer.endpointV6],
        Written address → ∃ ip, parseIpAddr (normalizeIp address) = some ip := by
      intro peer member address family written
      rw [← Option.ne_none_iff_exists']
      exact fun unparsed => bad ⟨peer, member, .inr ⟨address, family, written, unparsed⟩⟩
    obtain ⟨selection, folded, endpoints⟩ :=
      foldlM_addPeer_eq_ok preferIpv6 portOverride keys addresses
    have nothing : selection.endpoints = [] := by
      rw [endpoints, List.eq_nil_iff_forall_not_mem]
      intro endpoint kept
      obtain ⟨peer, member, listed⟩ := List.mem_flatMap.mp (mem_of_mem_firsts kept)
      obtain ⟨-, -, ⟨address, family, written, -⟩, -⟩ := mem_peerEndpoints_iff.mp listed
      exact unusable ⟨keys, addresses, peer, member, address, family, written⟩
    rw [folded]
    exact ⟨.noEndpoint, if_pos nothing⟩

/-- The selection succeeds exactly on usable configurations and is its reference
there; the reference holds what the peers list, loses nothing and repeats nothing. -/
theorem selection_equals_reference (pemContents : String → Option Bytes) (cfg : AppConfig)
    (preferIpv6 : Bool) (portOverride : UInt16) :
    (∀ endpoints, selectEndpointsFromConfig pemContents cfg preferIpv6 portOverride =
        .ok endpoints ↔ Usable pemContents cfg ∧
          endpoints = referenceEndpoints pemContents cfg preferIpv6 portOverride) ∧
    (∀ endpoint ∈ referenceEndpoints pemContents cfg preferIpv6 portOverride,
      ∃ peer ∈ cfg.peers, Advertises pemContents portOverride peer endpoint) ∧
    (∀ peer ∈ cfg.peers, ∀ endpoint, Advertises pemContents portOverride peer endpoint →
      ∃ kept ∈ referenceEndpoints pemContents cfg preferIpv6 portOverride,
        endpointKey kept = endpointKey endpoint) ∧
    ((referenceEndpoints pemContents cfg preferIpv6 portOverride).map endpointKey).Nodup := by
  have order : (referenceEndpoints pemContents cfg preferIpv6 portOverride).Perm _ :=
    referenceEndpoints_perm
  refine ⟨?_, ?_, ?_, ?_⟩
  · intro endpoints
    by_cases usable : Usable pemContents cfg
    · rw [selectEndpoints_eq_ok preferIpv6 portOverride usable]
      simp only [Except.ok.injEq, usable, true_and, eq_comm]
    · obtain ⟨e, failed⟩ := selectEndpoints_eq_error preferIpv6 portOverride usable
      rw [failed]
      simp [usable]
  · intro endpoint member
    obtain ⟨peer, inside, listed⟩ :=
      List.mem_flatMap.mp (mem_of_mem_firsts (order.mem_iff.mp member))
    exact ⟨peer, inside, mem_peerEndpoints_iff.mp listed⟩
  · intro peer member endpoint listed
    have inside : endpoint ∈ cfg.peers.flatMap
        (peerEndpoints pemContents preferIpv6 portOverride) :=
      List.mem_flatMap.mpr ⟨peer, member, mem_peerEndpoints_iff.mpr listed⟩
    obtain ⟨kept, within, same⟩ := exists_mem_firsts endpointKey inside
    exact ⟨kept, order.mem_iff.mpr within, same⟩
  · exact (order.map endpointKey).nodup_iff.mpr (firsts_nodup _)

/-! ## The family preference -/

/-- Within one peer the address and the key tell endpoints apart, because the host
is the peer's own. -/
private theorem peerEndpoints_distinct (peer : MasquePeerConfig) :
    Distinct endpointKey (peerEndpoints pemContents preferIpv6 portOverride peer) := by
  intro first inFirst second inSecond same
  have firstHost := (mem_peerEndpoints_iff.mp inFirst).host
  have secondHost := (mem_peerEndpoints_iff.mp inSecond).host
  obtain ⟨firstAddr, firstName, firstKey⟩ := first
  obtain ⟨secondAddr, secondName, secondKey⟩ := second
  obtain ⟨rfl, rfl⟩ := Prod.mk.inj same
  cases firstHost.trans secondHost.symm
  rfl

private theorem peerEndpoints_perm (peer : MasquePeerConfig) :
    (peerEndpoints pemContents true portOverride peer).Perm
      (peerEndpoints pemContents false portOverride peer) := by
  unfold peerEndpoints
  cases pemContents peer.endpointPubKey with
  | none => exact List.Perm.refl _
  | some key =>
    have swapped : (referenceAddresses true peer).Perm (referenceAddresses false peer) :=
      List.Perm.swap _ _ _
    exact swapped.flatMap_right _

/-- With either preference the selection fails, or the two lists hold the same
endpoints, hosts and keys included, each as often. -/
theorem family_preference_permutes (pemContents : String → Option Bytes) (cfg : AppConfig)
    (portOverride : UInt16) :
    ((∃ e, selectEndpointsFromConfig pemContents cfg true portOverride = .error e) ∧
      ∃ e, selectEndpointsFromConfig pemContents cfg false portOverride = .error e) ∨
    ∃ ipv6First ipv4First, selectEndpointsFromConfig pemContents cfg true portOverride =
        .ok ipv6First ∧
      selectEndpointsFromConfig pemContents cfg false portOverride = .ok ipv4First ∧
      ipv6First.Perm ipv4First := by
  by_cases usable : Usable pemContents cfg
  · refine .inr ⟨_, _, selectEndpoints_eq_ok true portOverride usable,
      selectEndpoints_eq_ok false portOverride usable, ?_⟩
    refine referenceEndpoints_perm.trans (List.Perm.trans ?_ referenceEndpoints_perm.symm)
    apply firsts_flatMap_perm
    · intro peer _
      exact peerEndpoints_perm peer
    · intro peer _
      exact peerEndpoints_distinct peer
  · exact .inl ⟨selectEndpoints_eq_error true portOverride usable,
      selectEndpoints_eq_error false portOverride usable⟩

end Usque.Config
