import Netd.Resolv.PrivateDnsConfiguration
import Netd.Lib.Trace

/-!
# Sending a query

`resNsend` sends a query to the nameservers of a network, first over TLS if private DNS is on, and
then in cleartext if `resTlsSend` says to fall back. What is outside is given by an environment
(`Env`): the private DNS configuration that each `getStatus` call finds, the results of the
queries, the answer of the cache, and the statistics.

Left out are the cached sockets and the copy of the address list that goes with them.
-/

namespace Netd

namespace Errno

def etimedout : Int := 110
def econnrefused : Int := 111

end Errno

namespace ResSend

def rcodeInternalError : Nat := 254
def rcodeTimeout : Nat := 255

/-- `HFIXEDSZ`, the size of a DNS header. -/
def hfixedsz : Nat := 12

/-- `PACKETSZ`, the largest query that is sent in a datagram. -/
def packetsz : Nat := 512

inductive CacheStatus where
  | unsupported
  | notfound
  | found
  | skip
  deriving DecidableEq

inductive Response where
  | success
  | networkError
  | limitError
  | internalError
  deriving DecidableEq

/-- What `DnsTlsDispatcher::query` gives: the response, the length of the answer and the
rcode in it. -/
structure TlsResult where
  response : Response
  resplen : Int
  rcode : Nat

/-- What `send_vc` and `send_dg` give: the result and what they write. `send_dg` sets `v_circuit`
when the answer is truncated. -/
structure SendResult where
  n : Int
  terrno : Int
  vCircuit : Bool
  gotsomewhere : Bool
  now : Nat
  rcode : Nat
  delay : Nat

/-- The fields of `res_state` that are read. -/
structure ResState where
  netid : Nat
  mark : Nat
  /-- `RES_USEVC`, `RES_STAYOPEN`, `RES_ROTATE` and `RES_BLAST`. -/
  useVc : Bool
  stayOpen : Bool
  rotate : Bool
  blast : Bool
  retry : Nat
  useLocalNameserver : Bool
  /-- The addresses that `get_nsaddr` gives, `nscount` of them. -/
  nsaddrs : List SockaddrStorage

/-- The arguments of `res_nsend`. -/
structure Query where
  buflen : Nat
  anssiz : Nat
  /-- `ANDROID_RESOLV_NO_RETRY` -/
  noRetry : Bool

/-- What a run finds outside. -/
structure Env where
  /-- `_resolv_cache_lookup`: the status and the length of the answer. -/
  cacheLookup : CacheStatus × Int
  /-- `_resolv_populate_res_for_net` -/
  populate : List SockaddrStorage → List SockaddrStorage
  /-- The cached sockets do not fit the servers any more. -/
  needclose : Bool
  /-- For each attempt the revision of the statistics and the usable servers. -/
  stats : Nat → Int × (Nat → Bool)
  /-- The configuration that a `getStatus` call finds, by the number of calls before. -/
  config : Nat → PrivateDnsConfiguration
  /-- The result of a TLS query with a mark to some servers, by the number of `getStatus`
  calls before. -/
  tlsQuery : Nat → Nat → List DnsTlsServer → TlsResult
  /-- The results of the cleartext queries, by the number of events before. -/
  sendVc : Nat → SockaddrStorage → SendResult
  sendDg : Nat → SockaddrStorage → SendResult

/-- One call of `res_tls_send`: the statuses it obtained, in order, the servers it queried, and its
result. -/
structure TlsCall where
  statuses : List PrivateDnsStatus
  queried : Option (List DnsTlsServer)
  resplen : Int
  rcode : Nat
  fallback : Bool
  deriving DecidableEq

inductive Event where
  | cacheLookup (status : CacheStatus)
  | populate
  | cacheQueryFailed
  | cacheAdd (resplen : Int)
  | resTlsSend (call : TlsCall)
  | sendVc (ns : Nat)
  | sendDg (ns : Nat)
  | addSample (revisionId : Int) (ns now rcode delay : Nat)
  | resNclose
  deriving DecidableEq

/-! ## Private DNS -/

/-- The status that the `k`-th `getStatus` call of a run obtains. -/
def statusAt (env : Env) (statp : ResState) (k : Nat) : PrivateDnsStatus :=
  (env.config k).getStatus statp.netid

/-- The loop of `res_tls_send` that waits for a validated server, with the statuses it obtained. -/
def waitForServers (env : Env) (statp : ResState) :
    Nat → Nat → PrivateDnsStatus → PrivateDnsStatus × List PrivateDnsStatus
  | 0, _, status => (status, [])
  | i + 1, k, status =>
    if (statusAt env statp k).validatedServers ≠ [] then
      (statusAt env statp (k + 1), [statusAt env statp k, statusAt env statp (k + 1)])
    else
      let (status, statuses) := waitForServers env statp i (k + 1) status
      (status, statusAt env statp k :: statuses)

/-- The part of `res_tls_send` that queries over TLS. -/
def queryOverTls (env : Env) (statp : ResState) (k rcode : Nat) (status : PrivateDnsStatus)
    (statuses : List PrivateDnsStatus) : TlsCall :=
  let r := env.tlsQuery k statp.mark status.validatedServers
  let failed : TlsCall := ⟨statuses, some status.validatedServers, -1, rcode, false⟩
  let succeeded := { failed with resplen := r.resplen, rcode := r.rcode }
  if status.mode = .opportunistic then
    match r.response with
    | .success => succeeded
    | .networkError => { failed with fallback := true }
    | .internalError => { failed with fallback := true }
    | .limitError => failed
  else
    match r.response with
    | .success => succeeded
    | .networkError => { failed with rcode := rcodeTimeout }
    | .limitError => failed
    | .internalError => failed

/-- `res_tls_send`, after `k` calls of `getStatus`. -/
def resTlsSend (env : Env) (statp : ResState) (k : Nat) (rcode : Nat) : TlsCall :=
  let status := statusAt env statp k
  if status.mode = .off then ⟨[status], none, -1, rcode, true⟩
  else if status.validatedServers = [] then
    if status.mode = .opportunistic then ⟨[status], none, -1, rcode, true⟩
    else
      let (waited, statuses) := waitForServers env statp 42 (k + 1) status
      if waited.validatedServers = [] then ⟨status :: statuses, none, -1, rcode, false⟩
      else queryOverTls env statp k rcode waited (status :: statuses)
  else queryOverTls env statp k rcode status [status]

/-! ## The nameservers -/

/-- The events so far and the locals of `res_nsend` that change. -/
structure Sending where
  trace : List Event
  statusReads : Nat
  attempt : Nat
  vCircuit : Bool
  gotsomewhere : Bool
  terrno : Int
  rcode : Nat

namespace Sending

def add (s : Sending) (e : Event) : Sending := { s with trace := s.trace ++ [e] }

/-- What precedes `return -terrno`. -/
def failed (s : Sending) : Sending := (s.add .cacheQueryFailed).add .resNclose

/-- `if (cache_status == RESOLV_CACHE_NOTFOUND) _resolv_cache_add(..)` -/
def cacheAnswer (s : Sending) (cacheStatus : CacheStatus) (resplen : Int) : Sending :=
  if cacheStatus = .notfound then s.add (.cacheAdd resplen) else s

end Sending

section

variable (env : Env) (statp : ResState) (cacheStatus : CacheStatus) (retryTimes : Nat)
  (revisionId : Int)

/-- `same_ns`: private DNS first. With `none`, `res_nsend` goes on in cleartext. -/
def tryPrivateDns (s : Sending) : Option Int × Sending :=
  if statp.useLocalNameserver then (none, s)
  else
    let call := resTlsSend env statp s.statusReads s.rcode
    let s := { s.add (.resTlsSend call) with
      statusReads := s.statusReads + call.statuses.length, rcode := call.rcode }
    if call.resplen > 0 then (some call.resplen, s.cacheAnswer cacheStatus call.resplen)
    else if call.fallback then (none, s)
    else (some (-s.terrno), s.failed)

/-- What follows an answer: the cache gets it, and the sockets are closed. -/
def answered (s : Sending) (resplen : Int) : Sending :=
  let s := s.cacheAnswer cacheStatus resplen
  if (s.vCircuit ∧ ¬ statp.useVc) ∨ ¬ statp.stayOpen then s.add .resNclose else s

/-- What a cleartext query leads to. -/
inductive Next where
  | ret (result : Int)
  | nextNs
  | sameNs

/-- Write the sample of the first attempt. -/
def sampled (first : Bool) (ns : Nat) (r : SendResult) (s : Sending) : Sending :=
  if first then s.add (.addSample revisionId ns r.now r.rcode r.delay) else s

def useVirtualCircuit (ns : Nat) (nsap : SockaddrStorage) (s : Sending) : Next × Sending :=
  let first := s.attempt = 0
  let r := env.sendVc s.trace.length nsap
  let s := { s.add (.sendVc ns) with attempt := retryTimes, terrno := r.terrno, rcode := r.rcode }
  let s := sampled revisionId first ns r s
  if r.n < 0 then (.ret (-s.terrno), s.failed)
  else if r.n = 0 then (.nextNs, s)
  else (.ret r.n, answered statp cacheStatus s r.n)

def useDatagrams (ns : Nat) (nsap : SockaddrStorage) (s : Sending) : Next × Sending :=
  let first := s.attempt = 0
  let r := env.sendDg s.trace.length nsap
  let s := { s.add (.sendDg ns) with
    terrno := r.terrno, rcode := r.rcode, vCircuit := r.vCircuit,
    gotsomewhere := s.gotsomewhere || r.gotsomewhere }
  let s := sampled revisionId first ns r s
  if r.n < 0 then (.ret (-s.terrno), s.failed)
  else if r.n = 0 then (.nextNs, s)
  else if s.vCircuit then (.sameNs, s)
  else (.ret r.n, answered statp cacheStatus s r.n)

def pass (ns : Nat) (nsap : SockaddrStorage) (s : Sending) : Next × Sending :=
  match tryPrivateDns env statp cacheStatus s with
  | (some result, s) => (.ret result, s)
  | (none, s) =>
    if s.vCircuit then useVirtualCircuit env statp cacheStatus retryTimes revisionId ns nsap s
    else useDatagrams env statp cacheStatus revisionId ns nsap s

/-- The loop over the servers. A pass goes back to `same_ns` only when it has set `v_circuit`, which
a pass with a virtual circuit does not. -/
def queryServer (ns : Nat) (nsap : SockaddrStorage) (s : Sending) : Next × Sending :=
  match pass env statp cacheStatus retryTimes revisionId ns nsap s with
  | (.sameNs, s) => pass env statp cacheStatus retryTimes revisionId ns nsap s
  | r => r

/-- The loop over the servers. -/
def eachServer (usable : Nat → Bool) : List (SockaddrStorage × Nat) → Sending → Option Int × Sending
  | [], s => (none, s)
  | (nsap, ns) :: servers, s =>
    if usable ns then
      match queryServer env statp cacheStatus retryTimes revisionId ns nsap
          { s with rcode := rcodeInternalError } with
      | (.ret result, s) => (some result, s)
      | (_, s) => eachServer usable servers s
    else eachServer usable servers s

end

/-- The loop over the attempts. The first number bounds the attempts that are left. -/
def eachAttempt (env : Env) (statp : ResState) (cacheStatus : CacheStatus) (retryTimes : Nat) :
    Nat → Sending → Option Int × Sending
  | 0, s => (none, s)
  | fuel + 1, s =>
    if s.attempt < retryTimes then
      let (revisionId, usable) := env.stats s.attempt
      match eachServer env statp cacheStatus retryTimes revisionId usable
          statp.nsaddrs.zipIdx s with
      | (some result, s) => (some result, s)
      | (none, s) =>
        eachAttempt env statp cacheStatus retryTimes fuel { s with attempt := s.attempt + 1 }
    else (none, s)

/-- `RES_ROTATE`: the first server goes to the end. -/
def rotated (statp : ResState) : ResState :=
  if statp.rotate ∧ ¬ statp.blast then { statp with nsaddrs := statp.nsaddrs.rotate 1 } else statp

/-- The part of `res_nsend` that sends: the attempts, and the error when none succeeds. -/
def sendToServers (env : Env) (statp : ResState) (cacheStatus : CacheStatus) (query : Query)
    (s : Sending) : Int × Sending :=
  let s := if env.needclose then s.add .resNclose else s
  let retryTimes := if query.noRetry then 1 else statp.retry
  match eachAttempt env (rotated statp) cacheStatus retryTimes retryTimes s with
  | (some result, s) => (result, s)
  | (none, s) =>
    let s := s.add .resNclose
    let terrno :=
      if s.vCircuit then s.terrno
      else if s.gotsomewhere then Errno.etimedout else Errno.econnrefused
    (-terrno, { s with terrno := terrno }.add .cacheQueryFailed)

/-- The result and the events. -/
def resNsend (env : Env) (statp : ResState) (query : Query) (rcode : Nat) : Int × Sending :=
  let vCircuit := statp.useVc || query.buflen > packetsz
  let s : Sending := ⟨[], 0, 0, vCircuit, false, Errno.etimedout, rcode⟩
  if query.anssiz < hfixedsz then (-Errno.einval, s)
  else
    let (cacheStatus, anslen) := env.cacheLookup
    let s := s.add (.cacheLookup cacheStatus)
    if cacheStatus = .found then (anslen, s)
    else
      let (statp, s) :=
        if cacheStatus = .unsupported then (statp, s)
        else ({ statp with nsaddrs := env.populate statp.nsaddrs }, s.add .populate)
      if statp.nsaddrs = [] then (-Errno.esrch, s.add .cacheQueryFailed)
      else sendToServers env statp cacheStatus query s

end ResSend

end Netd
