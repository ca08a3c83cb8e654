import Netd.Resolv.DnsTlsServer
import Netd.Kernel.FibRules
import Netd.Lib.Lts

/-!
# PrivateDnsConfiguration

The private DNS mode of each network, and a tracker with the validation status of each of its
servers. `set` starts a thread for every server that needs validation. The thread calls
`DnsTlsTransport::validate` and then `recordPrivateDnsValidation`, for as long as that asks for
it. A call under the lock is one step, and `System.step` interleaves the calls with the threads.
-/

namespace Netd

/-- The DNS over TLS mode on a network. -/
inductive PrivateDnsMode where
  | off
  | opportunistic
  | strict
  deriving DecidableEq

/-- The validation status of a server on a network. -/
inductive Validation where
  | inProcess
  | success
  | fail
  | unknownServer
  | unknownNetid
  deriving DecidableEq

structure PrivateDnsStatus where
  mode : PrivateDnsMode
  validatedServers : List DnsTlsServer
  deriving DecidableEq

/-- The status of each server, at most one for an IP address. -/
abbrev PrivateDnsTracker := CmpMap DnsTlsServer Validation DnsTlsServer.addressComparator

abbrev DnsTlsServerSet := CmpMap DnsTlsServer Unit DnsTlsServer.operatorLt

/-- A call of the registered `private_dns_validated_callback`. -/
structure ValidatedEvent where
  netId : Nat
  ipLiteral : SockaddrStorage
  hostname : String
  validated : Bool

/-- What the thread of `validatePrivateDnsProvider` captures. -/
structure ValidateThread where
  server : DnsTlsServer
  netId : Nat
  mark : Nat
  deriving DecidableEq

structure PrivateDnsConfiguration where
  mPrivateDnsModes : OrdMap Nat PrivateDnsMode
  mPrivateDnsTransports : OrdMap Nat PrivateDnsTracker
  mCallback : Option Nat
  deriving DecidableEq

namespace PrivateDnsConfiguration

/-- No configuration and no threads. -/
def new : PrivateDnsConfiguration := ⟨.empty, .empty, none⟩

def setCallback (c : PrivateDnsConfiguration) (callback : Nat) : PrivateDnsConfiguration :=
  if c.mCallback = none then { c with mCallback := some callback } else c

def needsValidation (tracker : PrivateDnsTracker) (server : DnsTlsServer) : Bool :=
  match tracker.find? server with
  | none => true
  | some e => e.2 = .fail

/-- The server that `set` makes of a parsed address. -/
def tlsServer (name : String) (fingerprints : OrdSet (List Byte)) (parsed : SockaddrStorage) :
    DnsTlsServer :=
  { DnsTlsServer.ofSockaddr parsed with name := name, fingerprints := fingerprints }

/-- The loop of `set` that parses the servers, or `none` when one is malformed. -/
def parseServers (parseServer : String → Option SockaddrStorage) (name : String)
    (fingerprints : OrdSet (List Byte)) : List String → DnsTlsServerSet → Option DnsTlsServerSet
  | [], tlsServers => some tlsServers
  | server :: servers, tlsServers =>
    match parseServer server with
    | none => none
    | some parsed =>
      parseServers parseServer name fingerprints servers
        (tlsServers.assign (tlsServer name fingerprints parsed) ())

/-- The loop of `set` that calls `validatePrivateDnsProvider` for each server that needs it. -/
def startValidations (netId mark : Nat) :
    List DnsTlsServer → PrivateDnsTracker → PrivateDnsTracker × List ValidateThread
  | [], tracker => (tracker, [])
  | server :: servers, tracker =>
    if needsValidation tracker server then
      let (tracker, threads) :=
        startValidations netId mark servers (tracker.assign server .inProcess)
      (tracker, ⟨server, netId, mark⟩ :: threads)
    else startValidations netId mark servers tracker

def modeFor (name : String) (fingerprints : OrdSet (List Byte)) (tlsServers : DnsTlsServerSet) :
    PrivateDnsMode :=
  if name ≠ "" ∨ fingerprints.entries ≠ [] then .strict
  else if tlsServers.entries ≠ [] then .opportunistic
  else .off

/-- The code, the threads it starts and the new configuration. A tracker can
always be created, so the code is never `-ENOMEM`. -/
def set (c : PrivateDnsConfiguration) (parseServer : String → Option SockaddrStorage)
    (netId mark : Nat) (servers : List String) (name : String)
    (fingerprints : OrdSet (List Byte)) : Int × List ValidateThread × PrivateDnsConfiguration :=
  match parseServers parseServer name fingerprints servers .empty with
  | none => (-Errno.einval, [], c)
  | some tlsServers =>
    let mode := modeFor name fingerprints tlsServers
    let c := { c with mPrivateDnsModes := c.mPrivateDnsModes.insert netId mode }
    if mode = .off then
      (0, [], { c with mPrivateDnsTransports := c.mPrivateDnsTransports.erase netId })
    else
      let tracker := (c.mPrivateDnsTransports.find? netId).getD .empty
      let kept := tracker.filter fun server _ => (tlsServers.find? server).isSome
      let (tracker, threads) := startValidations netId mark (tlsServers.entries.map Prod.fst) kept
      (0, threads, { c with mPrivateDnsTransports := c.mPrivateDnsTransports.insert netId tracker })

def getStatus (c : PrivateDnsConfiguration) (netId : Nat) : PrivateDnsStatus :=
  match c.mPrivateDnsModes.find? netId with
  | none => ⟨.off, []⟩
  | some mode =>
    match c.mPrivateDnsTransports.find? netId with
    | none => ⟨mode, []⟩
    | some tracker =>
      ⟨mode, (tracker.entries.filter fun e => e.2 = .success).map Prod.fst⟩

def clear (c : PrivateDnsConfiguration) (netId : Nat) : PrivateDnsConfiguration :=
  { c with
    mPrivateDnsModes := c.mPrivateDnsModes.erase netId
    mPrivateDnsTransports := c.mPrivateDnsTransports.erase netId }

/-- What `recordPrivateDnsValidation` finds in the tracker. It logs a warning for the
first two. -/
inductive Found where
  | removed
  | changed
  | current
  deriving DecidableEq

/-- The lookup of a validated server in the tracker. -/
def findServer (tracker : PrivateDnsTracker) (server : DnsTlsServer) : Found :=
  match tracker.find? server with
  | none => .removed
  | some e => if e.1.operatorEq server then .current else .changed

/-- The status that `recordPrivateDnsValidation` writes. -/
def recordedStatus (success reevaluate : Bool) : Validation :=
  if success then .success else if reevaluate then .inProcess else .fail

/-- Whether to validate again, the call of the callback and the new
configuration. -/
def recordPrivateDnsValidation (c : PrivateDnsConfiguration) (server : DnsTlsServer) (netId : Nat)
    (success : Bool) : Bool × Option ValidatedEvent × PrivateDnsConfiguration :=
  match c.mPrivateDnsTransports.find? netId with
  | none => (false, none, c)
  | some tracker =>
    match c.mPrivateDnsModes.find? netId with
    | none => (false, none, c)
    | some mode =>
      -- a server that was removed or changed did not succeed and is not tried again
      let current := findServer tracker server = .current
      let reevaluate := current && !success && mode = .strict
      let success := current && success
      let event := c.mCallback.map fun _ => ⟨netId, server.ss, server.name, success⟩
      let tracker := tracker.assign server (recordedStatus success reevaluate)
      (reevaluate, event,
        { c with mPrivateDnsTransports := c.mPrivateDnsTransports.insert netId tracker })

/-! ## The threads -/

/-- Where a validation thread is: in `DnsTlsTransport::validate`, or about to record what
that returned. -/
inductive Phase where
  | validating
  | validated (success : Bool)
  deriving DecidableEq

/-- The configuration and the validation threads that run. -/
structure System where
  config : PrivateDnsConfiguration
  threads : List (ValidateThread × Phase)
  deriving DecidableEq

/-- The calls of other threads, and the steps of the validation threads. -/
inductive Action where
  | set (netId mark : Nat) (servers : List String) (name : String)
      (fingerprints : OrdSet (List Byte))
  | clear (netId : Nat)
  | setCallback (callback : Nat)
  | validate (t : ValidateThread) (success : Bool)
  | record (t : ValidateThread) (success : Bool)

namespace System

/-- No configuration and no threads. -/
def new : System := ⟨.new, []⟩

/-- One step. `getStatus` has none. The backoff of a thread has no limit, so it validates whenever
it is asked to. -/
def step (parseServer : String → Option SockaddrStorage) : Action → System → Option System
  | .set netId mark servers name fingerprints, s =>
    let (_, started, config) := s.config.set parseServer netId mark servers name fingerprints
    some ⟨config, s.threads ++ started.map fun t => (t, .validating)⟩
  | .clear netId, s => some { s with config := s.config.clear netId }
  | .setCallback callback, s => some { s with config := s.config.setCallback callback }
  | .validate t success, s =>
    if (t, .validating) ∈ s.threads then
      some { s with
        threads := (t, .validated success) :: s.threads.erase (t, .validating) }
    else none
  | .record t success, s =>
    if (t, .validated success) ∈ s.threads then
      let (reevaluate, _, config) := s.config.recordPrivateDnsValidation t.server t.netId success
      let others := s.threads.erase (t, .validated success)
      some ⟨config, if reevaluate then (t, .validating) :: others else others⟩
    else none

end System

end PrivateDnsConfiguration

end Netd
