import Usque.AddressText
import Usque.EndpointSelection
import Usque.RegistrationRefresh

/-! From the API's answer to the endpoints of a tunnel. The API writes an endpoint as a socket
address whose port is zero and lists the real ports beside it; `build_app_config` keeps the
address alone, and `select_endpoints_from_config` reads it back on every start. -/
namespace Usque.Registration

open Net Config

/-! ## One address -/

theorem trim_eq_self {text : List Char} (plain : ∀ c ∈ text, isWhiteSpace c = false) :
    Net.trim text = text := by
  have keeps {text : List Char} (plain : ∀ c ∈ text, isWhiteSpace c = false) :
      text.dropWhile isWhiteSpace = text := by
    cases text with
    | nil => rfl
    | cons c rest =>
      rw [List.dropWhile_cons_of_neg]
      simp [plain c]
  rw [Net.trim, keeps plain, keeps (fun c member => plain c (List.mem_reverse.mp member)),
    List.reverse_reverse]

/-- The characters of a printed socket address. -/
theorem socket_plain (address : SocketAddr) :
    ∀ c ∈ displaySocketAddr address, isWhiteSpace c = false := by
  have port : ∀ c ∈ Nat.toDigits 10 address.port.toNat, isWhiteSpace c = false := by
    intro c member
    obtain ⟨digit, found⟩ := digit_of_mem_toDigits (by decide) toDigit_ten member
    exact (addressChar_plain (.inl ⟨digit, digit_sixteen_of_ten found⟩)).1
  intro c member
  obtain ⟨ip, number⟩ := address
  cases ip with
  | v4 ip =>
    rcases List.mem_append.mp member with inside | behind
    · exact (addressChar_plain (addressChar_ipv4 ip c inside)).1
    · rcases List.mem_cons.mp behind with rfl | digit
      · rfl
      · exact port c digit
  | v6 ip =>
    rcases List.mem_cons.mp member with rfl | behind
    · rfl
    · rcases List.mem_append.mp behind with inside | after
      · exact (addressChar_plain (addressChar_ipv6 ip c inside)).1
      · rcases List.mem_cons.mp after with rfl | rest
        · rfl
        · rcases List.mem_cons.mp rest with rfl | digit
          · rfl
          · exact port c digit

/-- Only the port zero ends a text in `:0`. -/
theorem not_suffix_of_port (front : List Char) {port : ℕ} (nonzero : port ≠ 0) :
    ¬ [':', '0'] <:+ front ++ ':' :: Nat.toDigits 10 port := by
  rintro ⟨before, same⟩
  have colon : ':' ∉ Nat.toDigits 10 port := by
    intro member
    obtain ⟨digit, found⟩ := digit_of_mem_toDigits (by decide) toDigit_ten member
    cases found
  cases digits : Nat.toDigits 10 port using List.reverseRecOn with
  | nil => exact Nat.toDigits_ne_nil digits
  | append_singleton first last =>
    rw [digits] at colon same
    have ends : (before ++ [':']) ++ ['0'] = (front ++ ':' :: first) ++ [last] := by
      simpa using same
    obtain ⟨rest, zero⟩ := List.append_inj' ends rfl
    cases first using List.reverseRecOn with
    | nil =>
      obtain ⟨digits', digitwise, denotes, -⟩ :=
        Numeral.toDigits_digits (by decide : 1 < 10) toDigit_ten port
      rw [digits, ← zero] at digitwise
      cases digits' with
      | nil => cases digitwise
      | cons digit others =>
        simp only [List.nil_append, List.map_cons, List.map_nil, List.cons.injEq] at digitwise
        obtain ⟨found, none⟩ := digitwise
        rw [← List.map_nil (f := some)] at none
        obtain rfl := List.map_injective_iff.mpr (Option.some_injective ℕ) none
        cases found
        exact nonzero denotes.symm
    | append_singleton more previous =>
      have adjacent : before ++ [':'] = (front ++ ':' :: more) ++ [previous] := by
        simpa using rest
      obtain ⟨-, last'⟩ := List.append_inj' adjacent rfl
      apply colon
      rw [List.cons.inj last' |>.1]
      simp

/-- What `build_app_config` keeps of an endpoint field. -/
def keptAddress (address : SocketAddr) : String :=
  match address.ip with
  | .v4 _ => endpointV4FromAccountValue (String.ofList (displaySocketAddr address))
  | .v6 _ => endpointV6FromAccountValue (String.ofList (displaySocketAddr address))

theorem stripSuffix_append (front suffix : List Char) :
    stripSuffix suffix (front ++ suffix) = some front := by
  rw [stripSuffix, if_pos (by simp), List.length_append, Nat.add_sub_cancel, List.take_left]

theorem stripPrefix_cons (first : Char) (rest : List Char) :
    Net.stripPrefix first (first :: rest) = some rest := if_pos rfl

/-- A port of zero is taken off and leaves the address. -/
theorem keptAddress_zero (ip : IpAddr) : keptAddress ⟨ip, 0⟩ = String.ofList (displayIpAddr ip) := by
  have zero : Nat.toDigits 10 (0 : UInt16).toNat = ['0'] := rfl
  cases ip with
  | v4 ip =>
    simp only [keptAddress, displaySocketAddr, zero, endpointV4FromAccountValue, String.toList_ofList]
    rw [show ":0".toList = [':', '0'] from rfl, stripSuffix_append]
    rfl
  | v6 ip =>
    simp only [keptAddress, displaySocketAddr, zero, endpointV6FromAccountValue, String.toList_ofList,
      List.cons_append, stripPrefix_cons, Option.bind_some]
    rw [show "]:0".toList = [']', ':', '0'] from rfl, stripSuffix_append]
    rfl

/-- Any other port stays. -/
theorem keptAddress_port {address : SocketAddr} (nonzero : address.port ≠ 0) :
    keptAddress address = String.ofList (displaySocketAddr address) := by
  have port : address.port.toNat ≠ 0 := fun zero => nonzero (UInt16.toNat_inj.mp zero)
  obtain ⟨ip, number⟩ := address
  cases ip with
  | v4 ip =>
    have stays := not_suffix_of_port (displayIpv4 ip) port
    simp only [keptAddress, displaySocketAddr, endpointV4FromAccountValue, String.toList_ofList,
      stripSuffix]
    rw [if_neg (by simpa using stays)]
    rfl
  | v6 ip =>
    have stays : ¬ [']', ':', '0'] <:+ displayIpv6 ip ++ ']' :: ':' :: Nat.toDigits 10 number.toNat := by
      intro suffix
      have short : [':', '0'] <:+ displayIpv6 ip ++ ']' :: ':' :: Nat.toDigits 10 number.toNat :=
        (List.suffix_cons ']' [':', '0']).trans suffix
      rw [List.append_cons] at short
      exact not_suffix_of_port _ port short
    simp only [keptAddress, displaySocketAddr, endpointV6FromAccountValue, String.toList_ofList,
      List.cons_append, stripPrefix_cons, Option.bind_some, stripSuffix]
    rw [if_neg (by simpa using stays)]
    rfl

theorem display_ne_nil (ip : IpAddr) : displayIpAddr ip ≠ [] := by
  intro empty
  have parsed := parseIpAddr_display ip
  rw [empty] at parsed
  cases parsed

theorem addressChar_display (ip : IpAddr) : ∀ c ∈ displayIpAddr ip, AddressChar c := by
  cases ip with
  | v4 ip => exact addressChar_ipv4 ip
  | v6 ip => exact addressChar_ipv6 ip

/-- An address without brackets is read as it stands. -/
theorem normalizeIp_display (ip : IpAddr) :
    normalizeIp (String.ofList (displayIpAddr ip)) = displayIpAddr ip := by
  have plain : ∀ c ∈ displayIpAddr ip, isWhiteSpace c = false :=
    fun c member => (addressChar_plain (addressChar_display ip c member)).1
  have bare : Net.stripPrefix '[' (displayIpAddr ip) = none := by
    cases shape : displayIpAddr ip with
    | nil => rfl
    | cons c rest =>
      have first := addressChar_display ip c (by rw [shape]; exact List.mem_cons_self)
      exact if_neg (addressChar_plain first).2.1
  rw [normalizeIp, String.toList_ofList, trim_eq_self plain]
  simp only [bare, Option.bind_none, Option.getD_none]

/-- A socket address with its port is no IP address, bracketed or not. -/
theorem parse_socket_text (address : SocketAddr) :
    parseIpAddr (normalizeIp (String.ofList (displaySocketAddr address))) = none := by
  obtain ⟨ip, number⟩ := address
  have plain := socket_plain ⟨ip, number⟩
  obtain ⟨first, last, digits⟩ : ∃ first last, Nat.toDigits 10 number.toNat = first ++ [last] :=
    ⟨_, _, (List.dropLast_append_getLast Nat.toDigits_ne_nil).symm⟩
  have digit : ∃ digit, toDigit 10 last = some digit :=
    digit_of_mem_toDigits (by decide) toDigit_ten
      (by rw [digits]; simp : last ∈ Nat.toDigits 10 number.toNat)
  rw [normalizeIp, String.toList_ofList, trim_eq_self plain]
  cases ip with
  | v4 ip =>
    have bare : Net.stripPrefix '[' (displaySocketAddr ⟨.v4 ip, number⟩) = none := by
      cases shape : displayIpv4 ip with
      | nil => exact absurd shape (display_ne_nil (.v4 ip))
      | cons c rest =>
        have first := addressChar_ipv4 ip c (by rw [shape]; exact List.mem_cons_self)
        simp only [displaySocketAddr, shape, List.cons_append]
        exact if_neg (addressChar_plain first).2.1
    have read := readIpv4Addr_display ip (':' :: Nat.toDigits 10 number.toNat) (by
      intro c first
      rw [← Option.some.inj first]
      rfl)
    simp only [bare, Option.bind_none, Option.getD_none]
    simp only [parseIpAddr, parseWith, displaySocketAddr, read, Option.map_some]
    rfl
  | v6 ip =>
    have open' : Net.stripSuffix ']' (displayIpv6 ip ++ ']' :: ':' :: Nat.toDigits 10 number.toNat) =
        none := by
      rw [digits]
      obtain ⟨digit, found⟩ := digit
      have other : last ≠ ']' := by
        rintro rfl
        cases found
      simp [Net.stripSuffix, Net.stripPrefix, other]
    simp only [displaySocketAddr, List.cons_append, stripPrefix_cons, Option.bind_some, open',
      Option.getD_none]
    have noGroups (rest : List Char) : readGroups 8 0 ('[' :: rest) = ([], false, '[' :: rest) := by
      rw [readGroups, readSeparator_first, readSeparator_first, readIpv4Addr_of_no_digit rfl,
        readNumber_of_no_digit rfl, ite_self]
    simp only [parseIpAddr, parseWith, readIpv4Addr_of_no_digit (c := '[') rfl, readIpv6Addr, noGroups]
    rfl

/-- `parse_socket` gives the address back exactly where the API wrote the port zero. -/
theorem parse_keptAddress (address : SocketAddr) :
    parseIpAddr (normalizeIp (keptAddress address)) =
      if address.port = 0 then some address.ip else none := by
  by_cases zero : address.port = 0
  · obtain ⟨ip, port⟩ := address
    obtain rfl : port = 0 := zero
    rw [keptAddress_zero, normalizeIp_display, parseIpAddr_display, if_pos rfl]
  · rw [keptAddress_port zero, parse_socket_text, if_neg zero]

theorem keptAddress_written (address : SocketAddr) : Written (keptAddress address) := by
  by_cases zero : address.port = 0
  · obtain ⟨ip, port⟩ := address
    obtain rfl : port = 0 := zero
    have plain : ∀ c ∈ displayIpAddr ip, isWhiteSpace c = false :=
      fun c member => (addressChar_plain (addressChar_display ip c member)).1
    rw [Written, keptAddress_zero, String.toList_ofList, trim_eq_self plain]
    exact display_ne_nil ip
  · rw [Written, keptAddress_port zero, String.toList_ofList, trim_eq_self (socket_plain address)]
    obtain ⟨ip, port⟩ := address
    cases ip with
    | v4 ip => simp [displaySocketAddr]
    | v6 ip => simp [displaySocketAddr]

/-! ## The peers of an account -/

/-- A peer as the API means it: its socket addresses, as far as it has them. -/
structure AdvertisedPeer where
  publicKey : String
  v4 : Option (Ipv4Addr × UInt16)
  v6 : Option (Ipv6Addr × UInt16)
  host : String
  ports : List UInt16

def AdvertisedPeer.sockets (peer : AdvertisedPeer) : List SocketAddr :=
  (peer.v4.map fun (ip, port) => ⟨.v4 ip, port⟩).toList ++
    (peer.v6.map fun (ip, port) => ⟨.v6 ip, port⟩).toList

/-- How the API writes a socket address it may not have. -/
def written (address : Option SocketAddr) : String :=
  (address.map fun address => String.ofList (displaySocketAddr address)).getD ""

/-- The peer in the API's answer. -/
def AdvertisedPeer.answer (peer : AdvertisedPeer) : Peer where
  publicKey := peer.publicKey
  endpoint := {
    v4 := written (peer.v4.map fun (ip, port) => ⟨.v4 ip, port⟩)
    v6 := written (peer.v6.map fun (ip, port) => ⟨.v6 ip, port⟩)
    host := peer.host
    ports := peer.ports }

theorem blank_not_written : ¬ Written "" := fun filled => filled rfl

theorem keptV4_iff (v4 : Option (Ipv4Addr × UInt16)) (address : String) :
    (address = endpointV4FromAccountValue (written (v4.map fun (ip, port) => ⟨.v4 ip, port⟩)) ∧
        Written address) ↔
      ∃ socket ∈ (v4.map fun (ip, port) => (⟨.v4 ip, port⟩ : SocketAddr)).toList,
        address = keptAddress socket := by
  cases v4 with
  | none =>
    have blank : endpointV4FromAccountValue "" = "" := by decide
    simp only [Option.map_none, written, Option.getD_none, blank, Option.toList_none,
      List.not_mem_nil, false_and, exists_false, iff_false, not_and]
    rintro rfl
    exact blank_not_written
  | some pair =>
    obtain ⟨ip, port⟩ := pair
    have kept : keptAddress ⟨.v4 ip, port⟩ =
        endpointV4FromAccountValue (String.ofList (displaySocketAddr ⟨.v4 ip, port⟩)) := by
      rw [keptAddress]
    simp only [Option.map_some, written, Option.getD_some, Option.toList_some, List.mem_singleton,
      exists_eq_left, ← kept, and_iff_left_iff_imp]
    rintro rfl
    exact keptAddress_written _

theorem keptV6_iff (v6 : Option (Ipv6Addr × UInt16)) (address : String) :
    (address = endpointV6FromAccountValue (written (v6.map fun (ip, port) => ⟨.v6 ip, port⟩)) ∧
        Written address) ↔
      ∃ socket ∈ (v6.map fun (ip, port) => (⟨.v6 ip, port⟩ : SocketAddr)).toList,
        address = keptAddress socket := by
  cases v6 with
  | none =>
    have blank : endpointV6FromAccountValue "" = "" := by decide
    simp only [Option.map_none, written, Option.getD_none, blank, Option.toList_none,
      List.not_mem_nil, false_and, exists_false, iff_false, not_and]
    rintro rfl
    exact blank_not_written
  | some pair =>
    obtain ⟨ip, port⟩ := pair
    have kept : keptAddress ⟨.v6 ip, port⟩ =
        endpointV6FromAccountValue (String.ofList (displaySocketAddr ⟨.v6 ip, port⟩)) := by
      rw [keptAddress]
    simp only [Option.map_some, written, Option.getD_some, Option.toList_some, List.mem_singleton,
      exists_eq_left, ← kept, and_iff_left_iff_imp]
    rintro rfl
    exact keptAddress_written _

/-- The address fields that are kept of a peer hold its sockets. -/
theorem masquePeer_fields (peer : AdvertisedPeer) (address : String) :
    (address ∈ [(masquePeer peer.answer).endpointV4, (masquePeer peer.answer).endpointV6] ∧
        Written address) ↔ ∃ socket ∈ peer.sockets, address = keptAddress socket := by
  rw [List.mem_pair, or_and_right]
  simp only [masquePeer, AdvertisedPeer.answer, AdvertisedPeer.sockets, keptV4_iff, keptV6_iff,
    List.mem_append, or_and_right, exists_or]

/-! ## The whole way -/

/-- An address a start dials and the key it pins there: one peer has the key, the address and
the port. -/
structure Dials (pemContents : String → Option Bytes) (portOverride : UInt16)
    (advertised : List AdvertisedPeer) (addr : SocketAddr) (key : Bytes) : Prop where
  peer : ∃ peer ∈ advertised, pemContents peer.publicKey = some key ∧
    (∃ socket ∈ peer.sockets, socket.ip = addr.ip) ∧
    addr.port ∈ referencePorts portOverride (masquePeer peer.answer)

/-- What the API has to answer: keys that decode, the port zero in every address, and an
address at all. -/
structure Dialable (pemContents : String → Option Bytes) (advertised : List AdvertisedPeer) :
    Prop where
  keys : ∀ peer ∈ advertised, ∃ key, pemContents peer.publicKey = some key
  zero : ∀ peer ∈ advertised, ∀ socket ∈ peer.sockets, socket.port = 0
  some : ∃ peer ∈ advertised, peer.sockets ≠ []

section Whole

variable {SecretKey : Type} {keys : Keys SecretKey} {account : AccountData} {der : Bytes}
  {token : String} {identity : DeviceIdentity} {cfg : AppConfig}
  {advertised : List AdvertisedPeer} {pemContents : String → Option Bytes}

/-- The peers a configuration was built from are the ones a tunnel reads. -/
theorem buildAppConfig_peers (answered : account.peers = advertised.map AdvertisedPeer.answer)
    (built : buildAppConfig keys account der token identity = .ok cfg) :
    cfg.tunnel.peers = advertised.map fun peer => masquePeer peer.answer := by
  rw [buildAppConfig] at built
  cases advertised with
  | nil =>
    rw [answered, List.map_nil] at built
    cases built
  | cons first rest =>
    rw [answered, List.map_cons] at built
    cases built
    simp [AppConfig.tunnel, AppConfig.peers]

theorem usable_iff_dialable
    (peers : cfg.tunnel.peers = advertised.map fun peer => masquePeer peer.answer) :
    Usable pemContents cfg.tunnel ↔ Dialable pemContents advertised := by
  have parsed (socket : SocketAddr) :
      (∃ ip, parseIpAddr (normalizeIp (keptAddress socket)) = some ip) ↔ socket.port = 0 := by
    rw [parse_keptAddress]
    split_ifs with zero <;> simp [zero]
  constructor
  · rintro ⟨decode, parse, peer, member, address, field, filled⟩
    rw [peers] at decode parse member
    refine ⟨fun peer member => decode _ (List.mem_map_of_mem member), ?_, ?_⟩
    · intro peer member socket within
      obtain ⟨field, filled⟩ := (masquePeer_fields peer _).mpr ⟨socket, within, rfl⟩
      exact (parsed socket).mp (parse _ (List.mem_map_of_mem member) _ field filled)
    · obtain ⟨answer, inside, rfl⟩ := List.mem_map.mp member
      obtain ⟨socket, within, -⟩ := (masquePeer_fields answer address).mp ⟨field, filled⟩
      exact ⟨answer, inside, List.ne_nil_of_mem within⟩
  · rintro ⟨decode, zero, peer, member, some⟩
    refine ⟨?_, ?_, ?_⟩
    · rw [peers]
      intro peer member
      obtain ⟨answer, inside, rfl⟩ := List.mem_map.mp member
      exact decode answer inside
    · rw [peers]
      intro peer member address field filled
      obtain ⟨answer, inside, rfl⟩ := List.mem_map.mp member
      obtain ⟨socket, within, rfl⟩ := (masquePeer_fields answer address).mp ⟨field, filled⟩
      exact (parsed socket).mpr (zero answer inside socket within)
    · obtain ⟨socket, within⟩ := List.exists_mem_of_ne_nil _ some
      obtain ⟨field, filled⟩ := (masquePeer_fields peer _).mpr ⟨socket, within, rfl⟩
      refine ⟨masquePeer peer.answer, ?_, _, field, filled⟩
      rw [peers]
      exact List.mem_map_of_mem member

/-- A peer of the configuration advertises what the peer of the account was given. -/
theorem advertises_iff {portOverride : UInt16} {peer : AdvertisedPeer} {endpoint : MasqueEndpoint}
    (zero : ∀ socket ∈ peer.sockets, socket.port = 0) :
    Advertises pemContents portOverride (masquePeer peer.answer) endpoint ↔
      endpoint.host = peer.host ∧
      pemContents peer.publicKey = some endpoint.endpointPubKeySpkiDer ∧
      (∃ socket ∈ peer.sockets, socket.ip = endpoint.addr.ip) ∧
      endpoint.addr.port ∈ referencePorts portOverride (masquePeer peer.answer) := by
  constructor
  · rintro ⟨host, key, ⟨address, field, filled, read⟩, port⟩
    obtain ⟨socket, within, rfl⟩ := (masquePeer_fields peer address).mp ⟨field, filled⟩
    rw [parse_keptAddress, if_pos (zero socket within)] at read
    exact ⟨host, key, ⟨socket, within, Option.some.inj read⟩, port⟩
  · rintro ⟨host, key, ⟨socket, within, same⟩, port⟩
    obtain ⟨field, filled⟩ := (masquePeer_fields peer _).mpr ⟨socket, within, rfl⟩
    refine ⟨host, key, ⟨_, field, filled, ?_⟩, port⟩
    rw [parse_keptAddress, if_pos (zero socket within), same]

/-- A configuration built from the API's answer gives endpoints exactly if every address of the
answer has the port zero, every key decodes and there is an address; the endpoints are then
those of the answer, each once, each with the key of a peer that has it. -/
theorem registered_endpoints (keys : Keys SecretKey) (account : AccountData)
    (advertised : List AdvertisedPeer) (der : Bytes) (token : String) (identity : DeviceIdentity)
    (cfg : AppConfig) (pemContents : String → Option Bytes)
    (answered : account.peers = advertised.map AdvertisedPeer.answer)
    (built : buildAppConfig keys account der token identity = .ok cfg)
    (preferIpv6 : Bool) (portOverride : UInt16) :
    ((∃ endpoints, selectEndpointsFromConfig pemContents cfg.tunnel preferIpv6 portOverride =
        .ok endpoints) ↔ Dialable pemContents advertised) ∧
    ∀ endpoints, selectEndpointsFromConfig pemContents cfg.tunnel preferIpv6 portOverride =
        .ok endpoints →
      (endpoints.map endpointKey).Nodup ∧
      ∀ addr key, (addr, key) ∈ endpoints.map endpointKey ↔
        Dials pemContents portOverride advertised addr key := by
  have peers := buildAppConfig_peers answered built
  have selects : ∀ endpoints, selectEndpointsFromConfig pemContents cfg.tunnel preferIpv6
      portOverride = .ok endpoints → Usable pemContents cfg.tunnel := by
    intro endpoints selected
    by_contra unusable
    obtain ⟨e, failed⟩ := selectEndpoints_eq_error preferIpv6 portOverride unusable
    rw [failed] at selected
    cases selected
  refine ⟨?_, ?_⟩
  · rw [← usable_iff_dialable peers]
    exact ⟨fun ⟨endpoints, selected⟩ => selects endpoints selected,
      fun usable => ⟨_, selectEndpoints_eq_ok preferIpv6 portOverride usable⟩⟩
  · intro endpoints selected
    have usable := selects endpoints selected
    have zero := ((usable_iff_dialable peers).mp usable).zero
    rw [selectEndpoints_eq_ok preferIpv6 portOverride usable] at selected
    obtain rfl := Except.ok.inj selected
    have order : (referenceEndpoints pemContents cfg.tunnel preferIpv6 portOverride).Perm _ :=
      referenceEndpoints_perm
    refine ⟨(order.map endpointKey).nodup_iff.mpr (FirstOccurrences.firsts_nodup _), ?_⟩
    intro addr key
    rw [(order.map endpointKey).mem_iff]
    constructor
    · intro listed
      obtain ⟨endpoint, kept, pair⟩ := List.mem_map.mp listed
      obtain ⟨peer, member, from'⟩ := List.mem_flatMap.mp (FirstOccurrences.mem_of_mem_firsts kept)
      rw [peers] at member
      obtain ⟨answer, inside, rfl⟩ := List.mem_map.mp member
      obtain ⟨-, decoded, address, port⟩ :=
        (advertises_iff (zero answer inside)).mp (mem_peerEndpoints_iff.mp from')
      obtain ⟨rfl, rfl⟩ := Prod.mk.inj pair
      exact ⟨answer, inside, decoded, address, port⟩
    · rintro ⟨peer, member, decoded, address, port⟩
      have inside : (⟨addr, peer.host, key⟩ : MasqueEndpoint) ∈ cfg.tunnel.peers.flatMap
          (peerEndpoints pemContents preferIpv6 portOverride) := by
        rw [peers]
        exact List.mem_flatMap.mpr ⟨_, List.mem_map_of_mem member, mem_peerEndpoints_iff.mpr
          ((advertises_iff (zero peer member)).mpr ⟨rfl, decoded, address, port⟩)⟩
      obtain ⟨kept, within, same⟩ := FirstOccurrences.exists_mem_firsts endpointKey inside
      exact List.mem_map.mpr ⟨kept, within, same⟩

end Whole

/-! ## One account -/

def pointPem : String :=
  "-----BEGIN PUBLIC KEY-----\n" ++
    "MFkwEwYHKoZIzj0CAQYIKoZIzj0DAQcDQgAEaxfR8uEsQkf4vOblY6RA8ncDfYEt\n" ++
    "6zOg9KE5RdiYwpZP40Li/hp/m47n60p8D54WK84zV2sxXs7LtkBoN79R9Q==\n" ++
    "-----END PUBLIC KEY-----\n"

/-- A peer with an address of each family. -/
def onePeer : AdvertisedPeer where
  publicKey := pointPem
  v4 := some (⟨0xA29FC601⟩, 0)
  v6 := some (⟨0x26064700010300000000000000000001⟩, 0)
  host := "engage.cloudflareclient.com"
  ports := [443, 500, 1701]

def oneAccount : AccountData where
  id := "registration"
  peers := [onePeer.answer]

/-- `pem::parse` on the key of that peer. -/
def pointPemContents (text : String) : Option Bytes :=
  if text = pointPem then some pointSpki else none

theorem onePeer_dialable : Dialable pointPemContents [onePeer] where
  keys peer member := by
    obtain rfl := List.mem_singleton.mp member
    exact ⟨pointSpki, if_pos rfl⟩
  zero peer member socket within := by
    obtain rfl := List.mem_singleton.mp member
    simp only [AdvertisedPeer.sockets, onePeer, Option.map_some, Option.toList_some,
      List.cons_append, List.nil_append, List.mem_cons, List.not_mem_nil, or_false] at within
    rcases within with rfl | rfl <;> rfl
  some := ⟨onePeer, List.mem_singleton_self _, List.cons_ne_nil _ _⟩

theorem registered_endpoints_one :
    ∃ cfg, buildAppConfig pointKeys oneAccount pointSec1 "token" smallConfig.deviceIdentity = .ok cfg ∧
      ∃ endpoints, selectEndpointsFromConfig pointPemContents cfg.tunnel false 0 = .ok endpoints ∧
        ∀ addr key, (addr, key) ∈ endpoints.map endpointKey ↔
          Dials pointPemContents 0 [onePeer] addr key := by
  obtain ⟨succeeds, lists⟩ := registered_endpoints pointKeys oneAccount [onePeer] pointSec1 "token"
    smallConfig.deviceIdentity _ pointPemContents rfl rfl false 0
  obtain ⟨endpoints, selected⟩ := succeeds.mpr onePeer_dialable
  exact ⟨_, rfl, endpoints, selected, (lists endpoints selected).2⟩

end Usque.Registration
