import Netd.Resolv.HostLookups
import Netd.Resolv.PrivateDnsConfiguration

/-!
# The DNS proxy

The commands `getaddrinfo`, `gethostbyname` and `gethostbyaddr`. A command makes a handler of its
arguments and starts a thread for it, and the handler looks up the host, completes the result with
the NAT64 prefix of the network, replies to the client and reports an event.

An argument `^` stands for a name that is absent, and the handler then has a null pointer
(`nameOf`), of which it makes a `std::string` to report the event (`run_of_missing_host`,
`run_of_missing_name`).

The rest of the system is a parameter (`Outside`). Numbers are read as on a 64-bit device. Debug
output and the bytes of a result on the socket are not here.
-/

namespace Netd.DnsProxyListener

open Getaddrinfo

/-! ## Numbers in a command line -/

def isspace (b : Byte) : Bool := b == 32 || (9 ≤ b.val && b.val ≤ 13)

/-- The number at the beginning of a string. -/
def digits : Nat → CString → Nat
  | n, [] => n
  | n, b :: bs => if 48 ≤ b.val ∧ b.val ≤ 57 then digits (n * 10 + (b.val - 48)) bs else n

/-- A number with its sign: whether there is a minus, and the digits. -/
def signed (s : CString) : Bool × Nat :=
  match s.dropWhile isspace with
  | [] => (false, 0)
  | b :: bs =>
    if b = 45 then (true, digits 0 bs)
    else if b = 43 then (false, digits 0 bs)
    else (false, digits 0 (b :: bs))

/-- `(int) strtol(s, nullptr, 10)` -/
def strtol (s : CString) : Int :=
  match signed s with
  | (true, n) => toInt32 (toUint32 (max (-2 ^ 63) (-n)))
  | (false, n) => toInt32 (toUint32 (min (2 ^ 63 - 1) n))

/-- `(unsigned) strtoul(s, nullptr, 10)` -/
def strtoul (s : CString) : Nat :=
  match signed s with
  | (true, n) => if n < 2 ^ 64 then toUint32 (-n) else 2 ^ 32 - 1
  | (false, n) => if n < 2 ^ 64 then n % 2 ^ 32 else 2 ^ 32 - 1

/-! ## The system around the proxy -/

/-- A NAT64 prefix: its address and its length. -/
structure Nat64 where
  addr : List Byte
  length : Nat

/-- What a command and its handler get from elsewhere. -/
structure Outside where
  getNetworkContext : Nat → Nat → AndroidNetContext
  checkCallingPermission : String → Bool
  /-- `resolv_get_private_dns_status_for_net`: the mode, and the validation of each server. -/
  privateDnsStatus : Nat → PrivateDnsMode × List Validation
  getDns64Prefix : Nat → Option Nat64
  /-- `strdup` has the memory for a copy. -/
  memory : CString → Bool
  threadLaunch : Int
  strerror : Int → CString
  /-- The address that `inet_pton` reads, if it can. -/
  inetPton : Int → CString → Option (List Byte)
  /-- `errno` after `inet_pton`. -/
  errno : Int
  /-- `queryLimiter.start(uid)` for the lookup, and for the one that DNS64 needs. -/
  start : Bool
  startAgain : Bool
  /-- The lookup, and the one that DNS64 needs. -/
  lookup : Resolver
  lookupAgain : Resolver
  latencyUs : Int
  /-- `getnameinfo` with `NI_NUMERICHOST`, for a family and an address. -/
  getnameinfo : Int → List Byte → Option CString
  /-- `ResolverEventReporter::getListener()` gives a listener. -/
  listener : Bool

/-! ## The network context -/

def netContextFlagUseLocalNameservers : Nat := 1
def netContextFlagUseEdns : Nat := 2

def netidUseLocalNameservers : Nat := 0x80000000

/-- `checkAndClearUseLocalNameserversFlag`: its result, and `*netid`. -/
def checkAndClearUseLocalNameserversFlag (netid : Nat) : Bool × Nat :=
  if netid &&& netidUseLocalNameservers = 0 then (false, netid)
  else (true, netid &&& (2 ^ 32 - 1 - netidUseLocalNameservers))

def requestingUseLocalNameservers (flags : Nat) : Bool :=
  flags &&& netContextFlagUseLocalNameservers ≠ 0

/-- Private DNS is strict, or opportunistic with a validated server. -/
def queryingViaTls (out : Outside) (dnsNetid : Nat) : Bool :=
  match out.privateDnsStatus dnsNetid with
  | (.opportunistic, servers) => servers.any (· == .success)
  | (.strict, _) => true
  | (.off, _) => false

def firstApplicationUid : Nat := 10000

def hasPermissionToBypassPrivateDns (out : Outside) (uid : Nat) : Bool :=
  uid < firstApplicationUid ||
    ["android.permission.CONNECTIVITY_USE_RESTRICTED_NETWORKS",
      "android.permission.NETWORK_BYPASS_PRIVATE_DNS"].any out.checkCallingPermission

/-- Local nameservers need the permission to bypass private DNS, and queries over TLS use EDNS. -/
def maybeFixupNetContext (out : Outside) (ctx : AndroidNetContext) : AndroidNetContext :=
  let ctx :=
    if requestingUseLocalNameservers ctx.flags ∧ ¬hasPermissionToBypassPrivateDns out ctx.uid then
      { ctx with flags := ctx.flags &&& (2 ^ 32 - 1 - netContextFlagUseLocalNameservers) }
    else ctx
  if ¬requestingUseLocalNameservers ctx.flags ∧ queryingViaTls out ctx.dnsNetid then
    { ctx with flags := ctx.flags ||| netContextFlagUseEdns }
  else ctx

/-- The context of a command for a network id argument. -/
def contextFor (out : Outside) (uid : Nat) (netIdArg : CString) : AndroidNetContext :=
  let (useLocalNameservers, netId) := checkAndClearUseLocalNameserversFlag (strtoul netIdArg)
  let ctx := out.getNetworkContext netId uid
  if useLocalNameservers then
    { ctx with flags := ctx.flags ||| netContextFlagUseLocalNameservers }
  else ctx

/-! ## NAT64 -/

def isSpecialUseIPv4Address (ia : List Byte) : Bool :=
  let addr := ntohl ia
  addr &&& 0xff000000 == 0x00000000 || addr &&& 0xff000000 == 0x7f000000 ||
    addr &&& 0xffff0000 == 0xa9fe0000 || addr &&& 0xf0000000 == 0xe0000000 || addr == 0xffffffff

/-- `isValidNat64Prefix`. The prefix has an IPv6 address. -/
def Nat64.isValid (nat64 : Nat64) : Bool := nat64.length == 96

/-- An IPv4 address behind the prefix. -/
def Nat64.synthesize (nat64 : Nat64) (ia : List Byte) : List Byte := nat64.addr.take 12 ++ ia.take 4

def onlyIPv4Answers (res : List Addrinfo) : Bool := res.all fun ai => ai.aiFamily == Af.inet

/-- `synthesizeNat64PrefixWithARecord` for the result of `getaddrinfo`. -/
def synthesizeAddrinfo (nat64 : Nat64) (result : List Addrinfo) : Option (List Addrinfo) :=
  if ¬result.isEmpty ∧
      (result.all fun ai => ai.aiFamily == Af.inet && !isSpecialUseIPv4Address ai.addr) ∧
      nat64.isValid then
    some (result.map fun ai =>
      { ai with aiFamily := Af.inet6, addr := nat64.synthesize ai.addr })
  else none

/-- `synthesizeNat64PrefixWithARecord` for a `hostent`. -/
def synthesizeHostent (nat64 : Nat64) (hp : Option Hostent) : Option Hostent :=
  match hp with
  | none => none
  | some hp =>
    if hp.hAddrtype = Af.inet ∧ (hp.hAddrList.all fun ia => !isSpecialUseIPv4Address ia) ∧
        nat64.isValid then
      some { hp with
        hAddrtype := Af.inet6
        hLength := 16
        hAddrList := hp.hAddrList.map nat64.synthesize }
    else none

/-! ## Replies and events -/

/-- What is sent to the client. -/
inductive Reply where
  /-- `sendMsg` -/
  | message (code : Nat) (text : CString)
  /-- `DnsProxyOperationFailed`, with the error that `getaddrinfo` gives. -/
  | operationFailed (rv : Option Int)
  /-- `DnsProxyQueryResult` and the results. -/
  | addrinfos (result : List Addrinfo)
  | hostent (hp : Hostent)
  deriving DecidableEq

def eventGetaddrinfo : Nat := 1
def eventGethostbyname : Nat := 2
def eventGethostbyaddr : Nat := 3

/-- What is reported of a lookup. -/
structure DnsEvent where
  netId : Nat
  eventType : Nat
  returnCode : Int
  latencyMs : Int
  hostname : CString
  ipAddresses : List CString
  ipAddressesCount : Nat
  uid : Nat
  deriving DecidableEq

/-- The event type, the return code and the latency for the statistics, and the event for the
listener. -/
structure Report where
  stats : Nat × Int × Int
  event : Option DnsEvent
  deriving DecidableEq

def reportDnsEvent (out : Outside) (eventType : Nat) (ctx : AndroidNetContext) (returnCode : Int)
    (queryName : CString) (ipAddrs : List CString) (totalIpAddrCount : Nat) : Report :=
  { stats := (eventType, returnCode, out.latencyUs)
    event :=
      if out.listener then
        some ⟨ctx.dnsNetid, eventType, returnCode, out.latencyUs.tdiv 1000, queryName, ipAddrs,
          totalIpAddrCount, ctx.uid⟩
      else none }

def dnsReportedIpAddressesLimit : Nat := 10

def addIpAddrWithinLimit (out : Outside) (family : Int) (ipAddrs : List CString)
    (addr : List Byte) : List CString :=
  if ipAddrs.length < dnsReportedIpAddressesLimit then
    ipAddrs ++ (out.getnameinfo family addr).toList
  else ipAddrs

/-- The addresses and their number. -/
def extractGetAddrInfoAnswers (out : Outside) (result : List Addrinfo) : List CString × Nat :=
  (result.foldl (fun ips ai => addIpAddrWithinLimit out ai.aiFamily ips ai.addr) [], result.length)

/-- The addresses and their number. -/
def extractGetHostByNameAnswers (out : Outside) (hp : Option Hostent) : List CString × Nat :=
  match hp with
  | none => ([], 0)
  | some hp =>
    if hp.hAddrtype = Af.inet then
      ((hp.hAddrList.map (·.take 4)).foldl (addIpAddrWithinLimit out Af.inet) [],
        hp.hAddrList.length)
    else if hp.hAddrtype = Af.inet6 then
      (hp.hAddrList.foldl (addIpAddrWithinLimit out Af.inet6) [], hp.hAddrList.length)
    else ([], 0)

/-- What a command does: its reply, and what its handler reports. -/
structure Outcome where
  reply : Reply
  report : Option Report
  deriving DecidableEq

/-! ## getaddrinfo -/

structure GetAddrInfoHandler where
  mHost : CharPtr
  mService : CharPtr
  mHints : Option Hints
  mNetContext : AndroidNetContext

namespace GetAddrInfoHandler

/-- `maybeFixupNetContext(&mNetContext)` -/
def fixUp (out : Outside) (h : GetAddrInfoHandler) : GetAddrInfoHandler :=
  { h with mNetContext := maybeFixupNetContext out h.mNetContext }

/-- The lookup, if the limit allows it. -/
def lookUp (out : Outside) (h : GetAddrInfoHandler) : Except NameFault (Int × List Addrinfo) :=
  if out.start then
    androidGetaddrinfofornetcontext out.lookup h.mHost h.mService h.mHints h.mNetContext
  else pure (Eai.memory, [])

def doDns64Synthesis (out : Outside) (h : GetAddrInfoHandler) (rv : Int) (res : List Addrinfo) :
    Except NameFault (Int × List Addrinfo) :=
  if h.mHost.isNone then pure (rv, res)
  else
    let ipv6WantedButNoData := h.mHints.any (·.aiFamily == Af.inet6) && rv == Eai.nodata
    let unspecWantedButNoIPv6 :=
      h.mHints.all (·.aiFamily == Af.unspec) && rv == 0 && onlyIPv4Answers res
    if ¬ipv6WantedButNoData ∧ ¬unspecWantedButNoIPv6 then pure (rv, res)
    else
      match out.getDns64Prefix h.mNetContext.dnsNetid with
      | none => pure (rv, res)
      | some nat64 =>
        if ipv6WantedButNoData then
          if out.startAgain then do
            let hints := h.mHints.map ({ · with aiFamily := Af.inet })
            let (rv, res) ← androidGetaddrinfofornetcontext out.lookupAgain h.mHost h.mService
              hints h.mNetContext
            if rv ≠ 0 then pure (Eai.nodata, res)
            else
              match synthesizeAddrinfo nat64 res with
              | some res => pure (rv, res)
              | none => pure (Eai.nodata, [])
          else pure (rv, res)
        else pure (rv, (synthesizeAddrinfo nat64 res).getD res)

/-- `run` from the reply on. -/
def finish (out : Outside) (h : GetAddrInfoHandler) (rv : Int) (result : List Addrinfo) :
    Except NameFault Outcome := do
  let reply := if rv ≠ 0 then .operationFailed (some rv) else .addrinfos result
  let (ipAddrs, total) := extractGetAddrInfoAnswers out result
  let name ← h.mHost.toStdString
  pure ⟨reply, some (reportDnsEvent out eventGetaddrinfo h.mNetContext rv name ipAddrs total)⟩

def run (out : Outside) (h : GetAddrInfoHandler) : Except NameFault Outcome := do
  let h := h.fixUp out
  let (rv, result) ← h.lookUp out
  let (rv, result) ← h.doDns64Synthesis out rv result
  h.finish out rv result

end GetAddrInfoHandler

/-! ## gethostbyname -/

structure GetHostByNameHandler where
  mName : CharPtr
  mAf : Int
  mNetContext : AndroidNetContext

namespace GetHostByNameHandler

/-- `maybeFixupNetContext(&mNetContext)` -/
def fixUp (out : Outside) (h : GetHostByNameHandler) : GetHostByNameHandler :=
  { h with mNetContext := maybeFixupNetContext out h.mNetContext }

/-- The lookup, if the limit allows it. -/
def lookUp (out : Outside) (h : GetHostByNameHandler) : Except NameFault (Int × Option Hostent) :=
  if out.start then androidGethostbynamefornetcontext out.lookup h.mName h.mAf h.mNetContext
  else pure (Eai.memory, none)

def doDns64Synthesis (out : Outside) (h : GetHostByNameHandler) (rv : Int) (hpp : Option Hostent) :
    Except NameFault (Int × Option Hostent) :=
  if ¬(h.mAf = Af.inet6 ∧ rv = Eai.nodata) then pure (rv, hpp)
  else
    match out.getDns64Prefix h.mNetContext.dnsNetid with
    | none => pure (rv, hpp)
    | some nat64 =>
      if out.startAgain then do
        let (rv, hp) ← androidGethostbynamefornetcontext out.lookupAgain h.mName Af.inet
          h.mNetContext
        if rv ≠ 0 then pure (Eai.nodata, hpp)
        else pure (rv, synthesizeHostent nat64 hp)
      else pure (rv, hpp)

/-- `run` from the reply on. -/
def finish (out : Outside) (h : GetHostByNameHandler) (rv : Int) (hp : Option Hostent) :
    Except NameFault Outcome := do
  let reply := hp.elim (.operationFailed none) .hostent
  let (ipAddrs, total) := extractGetHostByNameAnswers out hp
  let name ← h.mName.toStdString
  pure ⟨reply, some (reportDnsEvent out eventGethostbyname h.mNetContext rv name ipAddrs total)⟩

def run (out : Outside) (h : GetHostByNameHandler) : Except NameFault Outcome := do
  let h := h.fixUp out
  let (rv, hp) ← h.lookUp out
  let (rv, hp) ← h.doDns64Synthesis out rv hp
  h.finish out rv hp

end GetHostByNameHandler

/-! ## gethostbyaddr -/

structure GetHostByAddrHandler where
  mAddress : List Byte
  mAddressLen : Int
  mAddressFamily : Int
  mNetContext : AndroidNetContext

namespace GetHostByAddrHandler

/-- `maybeFixupNetContext(&mNetContext)` -/
def fixUp (out : Outside) (h : GetHostByAddrHandler) : GetHostByAddrHandler :=
  { h with mNetContext := maybeFixupNetContext out h.mNetContext }

/-- The lookup, if the limit allows it. -/
def lookUp (out : Outside) (h : GetHostByAddrHandler) : Int × Option Hostent :=
  if out.start then
    androidGethostbyaddrfornetcontext out.lookup h.mAddress h.mAddressLen h.mAddressFamily
      h.mNetContext
  else (Eai.memory, none)

/-- `(hp && hp->h_name) ? hp->h_name : "null"` -/
def reportedName : Option Hostent → CharPtr
  | some hp => if hp.hName.isSome then hp.hName else some (ascii "null")
  | none => some (ascii "null")

def doDns64ReverseLookup (out : Outside) (h : GetHostByAddrHandler) (hpp : Option Hostent) :
    Option Hostent :=
  if hpp.isSome ∨ h.mAddressFamily ≠ Af.inet6 then hpp
  else
    match out.getDns64Prefix h.mNetContext.dnsNetid with
    | none => hpp
    | some nat64 =>
      if ¬nat64.isValid ∨ h.mAddress.take 12 ≠ nat64.addr.take 12 ∨ ¬out.startAgain then hpp
      else
        let found := (androidGethostbyaddrfornetcontext out.lookupAgain (h.mAddress.drop 12) 4
          Af.inet h.mNetContext).2
        found.map fun hp =>
          { hp with
            hAddrtype := Af.inet6
            hLength := 16
            hAddrList := hp.hAddrList.set 0 h.mAddress }

def run (out : Outside) (h : GetHostByAddrHandler) : Except NameFault Outcome := do
  let h := h.fixUp out
  let (rv, hp) := h.lookUp out
  let hp := h.doDns64ReverseLookup out hp
  let reply := hp.elim (.operationFailed none) .hostent
  let name ← (reportedName hp).toStdString
  pure ⟨reply, some (reportDnsEvent out eventGethostbyaddr h.mNetContext rv name [] 0)⟩

end GetHostByAddrHandler

/-! ## The commands -/

/-- The name in an argument, which the handler gets a copy of: `^` stands for none. -/
def nameOf (out : Outside) (arg : CString) : CharPtr :=
  if arg = ascii "^" then none else if out.memory arg then some arg else none

def commandParameterError : Nat := 501
def operationFailed : Nat := 400

/-- The reply to a command with a wrong number of arguments. -/
def invalidNumber (command : String) (argc : Nat) : Outcome :=
  ⟨.message commandParameterError
    (ascii ("Invalid number of arguments to " ++ command ++ ": " ++ toString argc)), none⟩

/-- Run the handler on a thread, or fail if there is none. -/
def tryThreadOrError (out : Outside) (run : Except NameFault Outcome) : Except NameFault Outcome :=
  if out.threadLaunch = 0 then run
  else
    let error := -out.threadLaunch
    pure ⟨.message operationFailed
      (out.strerror error ++ ascii (" (" ++ toString error ++ ")")), none⟩

/-- A handler of one of the three lookup commands. -/
inductive LookupHandler where
  | getaddrinfo (h : GetAddrInfoHandler)
  | gethostbyname (h : GetHostByNameHandler)
  | gethostbyaddr (h : GetHostByAddrHandler)

def LookupHandler.run (out : Outside) : LookupHandler → Except NameFault Outcome
  | .getaddrinfo h => h.run out
  | .gethostbyname h => h.run out
  | .gethostbyaddr h => h.run out

/-- `GetAddrInfoCmd::runCommand` up to `tryThreadOrError`: the handler, or the reply. -/
def getAddrInfoCmd (out : Outside) (uid : Nat) (argv : List CString) :
    Except Outcome LookupHandler :=
  match argv with
  | [_, name, service, flags, family, socktype, protocol, netId] =>
    let hints : Hints := ⟨strtol flags, strtol family, strtol socktype, strtol protocol⟩
    .ok (.getaddrinfo
      { mHost := nameOf out name
        mService := nameOf out service
        mHints := if hints = ⟨-1, -1, -1, -1⟩ then none else some hints
        mNetContext := contextFor out uid netId })
  | _ => .error (invalidNumber "getaddrinfo" argv.length)

/-- `GetHostByNameCmd::runCommand` up to `tryThreadOrError`. -/
def getHostByNameCmd (out : Outside) (uid : Nat) (argv : List CString) :
    Except Outcome LookupHandler :=
  match argv with
  | [_, netId, name, af] =>
    .ok (.gethostbyname
      { mName := nameOf out name
        mAf := strtol af
        mNetContext := contextFor out uid netId })
  | _ => .error (invalidNumber "gethostbyname" argv.length)

/-- `GetHostByAddrCmd::runCommand` up to `tryThreadOrError`. -/
def getHostByAddrCmd (out : Outside) (uid : Nat) (argv : List CString) :
    Except Outcome LookupHandler :=
  match argv with
  | [_, addrStr, addrLen, addrFamily, netId] =>
    match out.inetPton (strtol addrFamily) addrStr with
    | none =>
      .error ⟨.message operationFailed
        (ascii "inet_pton(\"" ++ addrStr ++ ascii "\") failed " ++ out.strerror out.errno),
        none⟩
    | some addr =>
      .ok (.gethostbyaddr
        { mAddress := addr
          mAddressLen := strtol addrLen
          mAddressFamily := strtol addrFamily
          mNetContext := contextFor out uid netId })
  | _ => .error (invalidNumber "gethostbyaddr" argv.length)

inductive Command where
  | getaddrinfo
  | gethostbyname
  | gethostbyaddr

/-- The handler that a command line makes, or the reply to a line that makes none. -/
def newLookupHandler (out : Outside) (uid : Nat) (argv : List CString) :
    Command → Except Outcome LookupHandler
  | .getaddrinfo => getAddrInfoCmd out uid argv
  | .gethostbyname => getHostByNameCmd out uid argv
  | .gethostbyaddr => getHostByAddrCmd out uid argv

/-- A lookup runs its handler, and without one it replies and reports nothing. -/
def runCommand (cmd : Command) (out : Outside) (uid : Nat) (argv : List CString) :
    Except NameFault Outcome :=
  match newLookupHandler out uid argv cmd with
  | .error reply => pure reply
  | .ok h => tryThreadOrError out (h.run out)

/-- The name in a command line with the right number of arguments. -/
def nameArg : Command → List CString → Option CString
  | .getaddrinfo, [_, name, _, _, _, _, _, _] => some name
  | .gethostbyname, [_, _, name, _] => some name
  | _, _ => none

/-! ## Names -/

open GetAddrInfoHandler

theorem isSome_nameOf_iff {out : Outside} {arg : CString} :
    (nameOf out arg).isSome = true ↔ arg ≠ ascii "^" ∧ out.memory arg = true := by
  unfold nameOf
  split
  · simp_all
  · split <;> simp_all

theorem noFault_tryThreadOrError_iff {out : Outside} {run : Except NameFault Outcome} :
    NoFault (tryThreadOrError out run) ↔ out.threadLaunch ≠ 0 ∨ NoFault run := by
  unfold tryThreadOrError
  split
  · simp_all
  · exact iff_of_true (.pure _) (.inl ‹_›)

theorem GetAddrInfoHandler.doDns64Synthesis_noFault (out : Outside) (h : GetAddrInfoHandler)
    (rv : Int) (res : List Addrinfo) : NoFault (h.doDns64Synthesis out rv res) := by
  refine .ite (fun _ => .pure _) fun _ => .ite (fun _ => .pure _) fun _ => ?_
  split
  · exact .pure _
  refine .ite (fun _ => .ite (fun _ => ?_) fun _ => .pure _) fun _ => .pure _
  refine (androidGetaddrinfofornetcontext_noFault _ _ _ _ _).bind fun found => ?_
  refine .ite (fun _ => .pure _) fun _ => ?_
  split <;> exact .pure _

theorem GetAddrInfoHandler.lookUp_noFault (out : Outside) (h : GetAddrInfoHandler) :
    NoFault (h.lookUp out) :=
  .ite (fun _ => androidGetaddrinfofornetcontext_noFault _ _ _ _ _) fun _ => .pure _

variable {name : CString}

section

variable (out : Outside)

theorem GetAddrInfoHandler.finish_noFault (h : GetAddrInfoHandler)
    (hname : h.mHost = some name) (rv : Int) (result : List Addrinfo) :
    NoFault (h.finish out rv result) := by
  unfold finish
  rw [hname]
  exact (NoFault.toStdString name).bind fun _ => .pure _

theorem GetAddrInfoHandler.run_noFault (h : GetAddrInfoHandler)
    (hname : h.mHost = some name) : NoFault (h.run out) := by
  refine (lookUp_noFault out (h.fixUp out)).bind fun _ => ?_
  refine (doDns64Synthesis_noFault out (h.fixUp out) _ _).bind fun _ => ?_
  exact finish_noFault out (h.fixUp out) hname _ _

section

variable (h : GetHostByNameHandler)
include h

theorem GetHostByNameHandler.doDns64Synthesis_noFault
    (hname : h.mName = some name) (rv : Int) (hpp : Option Hostent) :
    NoFault (h.doDns64Synthesis out rv hpp) := by
  refine .ite (fun _ => .pure _) fun _ => ?_
  split
  · exact .pure _
  refine .ite (fun _ => ?_) fun _ => .pure _
  rw [hname]
  refine (androidGethostbynamefornetcontext_noFault _ _ _ _).bind fun _ => ?_
  exact .ite (fun _ => .pure _) fun _ => .pure _

theorem GetHostByNameHandler.lookUp_noFault
    (hname : h.mName = some name) : NoFault (h.lookUp out) := by
  refine .ite (fun _ => ?_) fun _ => .pure _
  rw [hname]
  exact androidGethostbynamefornetcontext_noFault _ _ _ _

theorem GetHostByNameHandler.finish_noFault
    (hname : h.mName = some name) (rv : Int) (hp : Option Hostent) :
    NoFault (h.finish out rv hp) := by
  unfold finish
  rw [hname]
  exact (NoFault.toStdString name).bind fun _ => .pure _

theorem GetHostByNameHandler.run_noFault (hname : h.mName = some name) : NoFault (h.run out) := by
  refine (lookUp_noFault out (h.fixUp out) hname).bind fun _ => ?_
  refine (doDns64Synthesis_noFault out (h.fixUp out) hname _ _).bind fun _ => ?_
  exact finish_noFault out (h.fixUp out) hname _ _

end

end

theorem GetHostByAddrHandler.reportedName_noFault (hp : Option Hostent) :
    NoFault (reportedName hp).toStdString := by
  rcases hp with _ | ⟨hName, _⟩
  · exact .toStdString _
  · cases hName <;> exact .toStdString _

theorem GetHostByAddrHandler.run_noFault (out : Outside) (h : GetHostByAddrHandler) :
    NoFault (h.run out) :=
  .bind (reportedName_noFault _) fun _ => .pure _

theorem run_of_missing_host (out : Outside) (h : GetAddrInfoHandler) (hname : h.mHost = none) :
    h.run out = .error .stdString := by
  obtain ⟨found, hfound⟩ := lookUp_noFault out (h.fixUp out)
  obtain ⟨result, hres⟩ := doDns64Synthesis_noFault out (h.fixUp out)
    found.1 found.2
  have hname : (h.fixUp out).mHost = none := hname
  simp only [run, hfound, bind, Except.bind, hres, finish, hname, CharPtr.toStdString]

theorem run_of_missing_name (out : Outside) (h : GetHostByNameHandler) (hname : h.mName = none) :
    ∃ fault, h.run out = .error fault := by
  have hname : (h.fixUp out).mName = none := hname
  simp only [GetHostByNameHandler.run, bind, Except.bind]
  cases (h.fixUp out).lookUp out with
  | error fault => exact ⟨fault, rfl⟩
  | ok found =>
    dsimp only
    cases (h.fixUp out).doDns64Synthesis out found.1 found.2 with
    | error fault => exact ⟨fault, rfl⟩
    | ok result =>
      refine ⟨.stdString, ?_⟩
      simp only [GetHostByNameHandler.finish, bind, Except.bind, hname, CharPtr.toStdString]

def LookupHandler.hasName : LookupHandler → Bool
  | .getaddrinfo h => h.mHost.isSome
  | .gethostbyname h => h.mName.isSome
  | .gethostbyaddr _ => true

theorem LookupHandler.noFault_run_iff (out : Outside) (h : LookupHandler) :
    NoFault (h.run out) ↔ h.hasName = true := by
  cases h with
  | getaddrinfo h =>
    cases hname : h.mHost with
    | some name => simpa [run, hasName, hname] using h.run_noFault out hname
    | none => simp [run, hasName, hname, NoFault, run_of_missing_host out h hname]
  | gethostbyname h =>
    cases hname : h.mName with
    | some name => simpa [run, hasName, hname] using h.run_noFault out hname
    | none =>
      obtain ⟨fault, hrun⟩ := run_of_missing_name out h hname
      simp [run, hasName, hname, NoFault, hrun]
  | gethostbyaddr h => exact iff_of_true (h.run_noFault out) rfl

theorem hasName_iff {cmd : Command} {out : Outside} {uid : Nat} {argv : List CString}
    {h : LookupHandler} (hmade : newLookupHandler out uid argv cmd = .ok h) :
    h.hasName = true ↔
      ∀ name, nameArg cmd argv = some name → name ≠ ascii "^" ∧ out.memory name = true := by
  cases cmd with
  | getaddrinfo =>
    simp only [newLookupHandler, getAddrInfoCmd] at hmade
    split at hmade
    · cases hmade
      simpa [nameArg, LookupHandler.hasName] using isSome_nameOf_iff
    · cases hmade
  | gethostbyname =>
    simp only [newLookupHandler, getHostByNameCmd] at hmade
    split at hmade
    · cases hmade
      simpa [nameArg, LookupHandler.hasName] using isSome_nameOf_iff
    · cases hmade
  | gethostbyaddr =>
    simp only [newLookupHandler, getHostByAddrCmd] at hmade
    split at hmade
    · split at hmade
      · cases hmade
      · cases hmade
        simp [nameArg, LookupHandler.hasName]
    · cases hmade

theorem nameArg_of_error {cmd : Command} {out : Outside} {uid : Nat} {argv : List CString}
    {reply : Outcome} (hmade : newLookupHandler out uid argv cmd = .error reply) :
    nameArg cmd argv = none := by
  unfold nameArg
  split
  · cases hmade
  · cases hmade
  · rfl

/-- **A command line has no fault** exactly if its thread does not start, or its name is not `^`
and `strdup` can copy it. -/
theorem runCommand_noFault (cmd : Command) (out : Outside) (uid : Nat) (argv : List CString) :
    (∃ outcome, runCommand cmd out uid argv = .ok outcome) ↔ out.threadLaunch ≠ 0 ∨
      ∀ name, nameArg cmd argv = some name → name ≠ ascii "^" ∧ out.memory name = true := by
  unfold runCommand
  cases hmade : newLookupHandler out uid argv cmd with
  | error reply =>
    rw [nameArg_of_error hmade]
    exact iff_of_true ⟨reply, rfl⟩ (.inr fun _ hname => by cases hname)
  | ok h =>
    rw [← hasName_iff hmade, ← h.noFault_run_iff]
    exact noFault_tryThreadOrError_iff

/-- Nothing is found anywhere. -/
def nothing : Resolver :=
  { getPort := fun _ _ => 0
    exploreNull := fun _ _ => (0, [])
    exploreNumericScope := fun _ _ _ => (0, [])
    exploreFqdn := fun _ _ _ _ => (Eai.nodata, [])
    resGetState := true
    gethostbynameReal := fun _ _ _ => (Eai.nodata, ⟨none, [], 0, 0, []⟩)
    gethostbyaddrReal := fun _ _ _ _ => (Eai.nodata, ⟨none, [], 0, 0, []⟩) }

/-- A system without private DNS and NAT64, where nothing is found. -/
def plain : Outside :=
  { getNetworkContext := fun netId uid => ⟨netId, 0, netId, 0, uid, 0⟩
    checkCallingPermission := fun _ => false
    privateDnsStatus := fun _ => (.off, [])
    getDns64Prefix := fun _ => none
    memory := fun _ => true
    threadLaunch := 0
    strerror := fun _ => []
    inetPton := fun _ _ => none
    errno := 0
    start := true
    startAgain := true
    lookup := nothing
    lookupAgain := nothing
    latencyUs := 0
    getnameinfo := fun _ _ => none
    listener := true }

/-- The name `^` crashes the proxy: with `getaddrinfo` for a service, with `gethostbyname` for a
supported family, and for any other. -/
theorem missing_name_crashes :
    runCommand .getaddrinfo plain 10001 [ascii "getaddrinfo", ascii "^", ascii "80", ascii "-1",
      ascii "-1", ascii "-1", ascii "-1", ascii "0"] = .error .stdString ∧
    runCommand .gethostbyname plain 10001
      [ascii "gethostbyname", ascii "0", ascii "^", ascii "2"] = .error .dereference ∧
    runCommand .gethostbyname plain 10001
      [ascii "gethostbyname", ascii "0", ascii "^", ascii "1"] = .error .stdString := by
  decide +kernel

end Netd.DnsProxyListener
