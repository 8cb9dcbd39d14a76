import Usque.Config
import Usque.Http3

/-! The pieces of session establishment that keep no state
(`api/masque/handshake.rs`): the pin taken from the endpoint, its comparison with
the peer's key, and the reading of the CONNECT response. X.509 parsing is a
parameter. -/
namespace Usque.Handshake

open Http3

/-- `TlsMaterial`, its temporary files left out. -/
structure TlsMaterial where
  endpointPubKeySpkiDer : Bytes
  deriving DecidableEq

def prepareTlsMaterial (endpoint : MasqueEndpoint) : TlsMaterial :=
  ⟨endpoint.endpointPubKeySpkiDer⟩

/-- `spkiOf` is `parse_x509_certificate`, reduced to the raw bytes of
`subject_pki`. -/
def verifyEndpointKey (spkiOf : Bytes → Option Bytes) (peerCertDer expectedSpkiDer : Bytes) :
    Bool :=
  match spkiOf peerCertDer with
  | none => false
  | some raw => raw == expectedSpkiDer

theorem verifyEndpointKey_iff {spkiOf : Bytes → Option Bytes} {cert expected : Bytes} :
    verifyEndpointKey spkiOf cert expected = true ↔ spkiOf cert = some expected := by
  unfold verifyEndpointKey
  cases spkiOf cert <;> simp

def statusName : Bytes := ":status".toUTF8.data.toList

/-- `std::str::from_utf8(value).unwrap_or("?")`. -/
def statusText (value : Bytes) : String := (String.fromUTF8? ⟨value.toArray⟩).getD "?"

def validateConnectStatus (status : String) : Except String Unit :=
  if status.toList.head? = some '2' then .ok ()
  else if status = "403" then
    .error ("CONNECT rejected with 403; " ++
      "login failed or Access enrollment/certificate is not accepted")
  else .error s!"CONNECT rejected with status {status}"

/-- The first `:status` among the headers. -/
def connectStatus (list : List (Bytes × Bytes)) : Option String :=
  (list.find? fun header => header.1 == statusName).map fun header => statusText header.2

inductive PollError where
  /-- "h3 poll error while waiting for CONNECT response: .." -/
  | poll (message : String)
  | rejected (message : String)
  deriving DecidableEq

/-- The inner loop of `wait_connect_response`: whether the response has come. -/
def pollConnect (streamId : StreamId) : List PollAnswer → Except PollError Bool
  | [] => .ok false
  | .done :: _ => .ok false
  | .error message :: _ => .error (.poll message)
  | .headers sid list :: rest =>
    match if sid = streamId then connectStatus list else none with
    | none => pollConnect streamId rest
    | some status =>
      match validateConnectStatus status with
      | .ok () => .ok true
      | .error message => .error (.rejected message)
  | _ :: rest => pollConnect streamId rest

/-- What one `select!` of the two wait loops ends with: a datagram, an error of
the socket, or the timer. -/
inductive Arrival where
  | received (waited : Duration)
  | failed (waited : Duration)
  | slept (waited : Duration)
  deriving DecidableEq

def Arrival.waited : Arrival → Duration
  | .received waited | .failed waited | .slept waited => waited

/-- `conn.timeout().unwrap_or(Duration::from_millis(100))`. -/
def waitTimeout (timeout : Option Duration) : Duration := timeout.getD (milliseconds 100)

/-- A sleep is over only when its time is. -/
def Arrival.Possible (timeout : Option Duration) : Arrival → Prop
  | .slept waited => waitTimeout timeout ≤ waited
  | .received _ | .failed _ => True

instance (timeout : Option Duration) : (arrival : Arrival) → Decidable (arrival.Possible timeout)
  | .slept waited => inferInstanceAs (Decidable (_ ≤ waited))
  | .received _ | .failed _ => isTrue trivial

end Usque.Handshake
