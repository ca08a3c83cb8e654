import Netd.Resolv.DnsTlsQueryMap
import Netd.Kernel.FibRules

/-!
# The configuration of a network

`resolv_cache_info` has the nameservers of a network, the samples that tell how well each of them
answers, and the search domains. `resolvSetNameserversForNet` changes it and
`resolvDeleteCacheForNet` removes it, each in one section under `res_cache_list_lock`. A sample
that a query writes is dropped when the revision is another one by then.
-/

namespace Netd

namespace Errno

def e2big : Int := 7

end Errno

namespace Nameservers

def maxns : Nat := 4

def maxdnsrch : Nat := 6

def maxdnsrchpath : Nat := 256

/-! ## Samples -/

structure ResSample where
  time : Nat
  rtt : Nat
  rcode : Nat

/-- The round-trip time has 16 bits and the rcode 8. -/
def resStatsSetSample (now rcode rtt : Nat) : ResSample := ⟨now, rtt % 2 ^ 16, rcode % 2 ^ 8⟩

/-- `struct res_stats`. A sample is written at `sampleNext`, and nothing there compares it
with the length of the array. -/
structure ResStats where
  samples : Nat → ResSample
  sampleCount : Nat
  sampleNext : Nat

namespace ResStats

/-- What `calloc` gives. -/
def zero : ResStats := ⟨fun _ => ⟨0, 0, 0⟩, 0, 0⟩

/-- `stats->sample_count = stats->sample_next = 0` -/
def clear (stats : ResStats) : ResStats := { stats with sampleCount := 0, sampleNext := 0 }

/-- `_res_cache_add_stats_sample_locked` -/
def addSample (stats : ResStats) (sample : ResSample) (maxSamples : Nat) : ResStats where
  samples := Function.update stats.samples stats.sampleNext sample
  sampleCount := if stats.sampleCount < maxSamples then stats.sampleCount + 1 else stats.sampleCount
  sampleNext :=
    let next := (stats.sampleNext + 1) % 2 ^ 8
    if next ≥ maxSamples then 0 else next

end ResStats

structure ResParams where
  sampleValidity : Fin 65536
  successThreshold : Byte
  minSamples : Byte
  maxSamples : Byte
  baseTimeoutMsec : Int

def resolvSetDefaultParams : ResParams := ⟨1800, 75, 0, 0, 0⟩

/-! ## The record of a network -/

/-- `struct resolv_cache_info`. `nscount` is the length of the two lists, and
`dnsrchOffset` has the offsets before the end mark `-1`. -/
structure CacheInfo where
  nameservers : List String
  nsaddrinfo : List SockaddrStorage
  revisionId : Int
  params : ResParams
  nsstats : Nat → ResStats
  defdname : List Byte
  dnsrchOffset : List Nat

namespace CacheInfo

def create : CacheInfo where
  nameservers := []
  nsaddrinfo := []
  revisionId := 0
  params := ⟨0, 0, 0, 0, 0⟩
  nsstats _ := .zero
  defdname := List.replicate maxdnsrchpath 0
  dnsrchOffset := []

/-- `++cache_info->revision_id`, in 32 bits. -/
def nextRevision (info : CacheInfo) : CacheInfo :=
  { info with revisionId := (info.revisionId + 1).bmod (2 ^ 32) }

/-- `resolv_is_nameservers_equal_locked`: as many, and each of the old ones among the new
ones. -/
def isNameserversEqual (info : CacheInfo) (servers : List String) : Bool :=
  info.nameservers.length == servers.length && info.nameservers.all fun name =>
    servers.contains name

/-- `res_cache_clear_stats_locked`. The loop over the servers clears the first one each
time. -/
def clearStats (info : CacheInfo) : CacheInfo :=
  { info with nsstats := Function.update info.nsstats 0 (info.nsstats 0).clear }

def freeNameservers (info : CacheInfo) : CacheInfo :=
  nextRevision <| clearStats
    { info with
      nameservers := []
      nsaddrinfo := []
      nsstats := fun ns =>
        if ns < info.nameservers.length then (info.nsstats ns).clear else info.nsstats ns }

/-! ### The search domains -/

/-- The bytes after the end of the string stay. -/
def strlcpy (dst src : List Byte) : List Byte :=
  let str := (src.takeWhile (· ≠ 0)).take (dst.length - 1)
  str ++ 0 :: dst.drop (str.length + 1)

/-- The string ends at the first newline. -/
def cutLine (buf : List Byte) : List Byte :=
  match (buf.takeWhile (· ≠ 0)).idxOf? 10 with
  | some i => buf.set i 0
  | none => buf

/-- A space or a tab. -/
def isBlank (c : Byte) : Bool := c == 32 || c == 9

/-- The loop over the search domains from position `cp` on, with the places left for offsets. It
gives the offsets and the buffer with an end after each domain. -/
def splitDomains : Nat → List Byte → Nat → List Nat × List Byte
  | 0, buf, _ => ([], buf)
  | places + 1, buf, cp =>
    let start := cp + ((buf.drop cp).takeWhile isBlank).length
    if buf.getD start 0 = 0 then ([], buf)
    else
      let stop := start + ((buf.drop start).takeWhile fun c => !isBlank c && c ≠ 0).length
      let (offsets, buf) :=
        if isBlank (buf.getD stop 0) then splitDomains places (buf.set stop 0) (stop + 1)
        else splitDomains places buf stop
      (start :: offsets, buf)

/-- The search domains of `resolv_set_nameservers_for_net`. -/
def setDomains (info : CacheInfo) (domains : List Byte) : CacheInfo :=
  let (offsets, buf) := splitDomains maxdnsrch (cutLine (strlcpy info.defdname domains)) 0
  { info with defdname := buf, dnsrchOffset := offsets }

/-- What `resolv_set_nameservers_for_net` does with the record it has found or created, and the
numbers of the parsed addresses that it stores and of those that it frees. -/
def setNameserversOwning (info : CacheInfo) (servers : List String)
    (nsaddrinfo : List SockaddrStorage) (domains : List Byte) (params : Option ResParams) :
    CacheInfo × List Nat × List Nat :=
  let oldMaxSamples := info.params.maxSamples
  let info := { info with params := params.getD resolvSetDefaultParams }
  if !info.isNameserversEqual servers then
    let info := nextRevision <| clearStats
      { info.freeNameservers with nsaddrinfo := nsaddrinfo, nameservers := servers }
    (info.setDomains domains, List.range servers.length, [])
  else
    let info :=
      if info.params.maxSamples ≠ oldMaxSamples then info.clearStats.nextRevision else info
    (info.setDomains domains, [], List.range servers.length)

/-- What `resolv_set_nameservers_for_net` does with the record it has found or created. -/
def setNameservers (info : CacheInfo) (servers : List String) (nsaddrinfo : List SockaddrStorage)
    (domains : List Byte) (params : Option ResParams) : CacheInfo :=
  (info.setNameserversOwning servers nsaddrinfo domains params).1

end CacheInfo

/-! ## The records of all networks -/

/-- The records by netid: the list at `res_cache_list`. -/
abbrev Infos := OrdMap Nat CacheInfo

/-- The result, the records, and what becomes of the parsed addresses. -/
structure SetResult where
  ret : Int
  infos : Infos
  stored : List Nat
  freed : List Nat

/-- `resolv_set_nameservers_for_net`, with whether a new record can be allocated. -/
def resolvSetNameserversForNet (alloc : Bool)
    (getaddrinfoNumeric : String → Option SockaddrStorage) (infos : Infos) (netid : Nat)
    (servers : List String) (domains : List Byte) (params : Option ResParams) : SetResult :=
  if servers.length > maxns then ⟨Errno.e2big, infos, [], []⟩
  else
    match servers.mapM getaddrinfoNumeric with
    | none =>
      ⟨Errno.einval, infos, [],
        List.range (servers.takeWhile fun name => (getaddrinfoNumeric name).isSome).length⟩
    | some nsaddrinfo =>
      if (infos.find? netid).isNone ∧ alloc = false then ⟨0, infos, [], []⟩
      else
        let (info, stored, freed) := ((infos.find? netid).getD .create).setNameserversOwning servers
          nsaddrinfo domains params
        ⟨0, infos.insert netid info, stored, freed⟩

def resolvDeleteCacheForNet (infos : Infos) (netid : Nat) : Infos := infos.erase netid

/-- The addresses that `_resolv_populate_res_for_net` leaves in `statp`. -/
def populateNsaddrs (infos : Infos) (netid : Nat) (nsaddrs : List SockaddrStorage) :
    List SockaddrStorage :=
  match infos.find? netid with
  | some info => info.nsaddrinfo.take maxns
  | none => nsaddrs

/-- The revision. Without a record the parameters stay as they are. -/
def resolvCacheGetResolverStats (infos : Infos) (netid : Nat) (params : ResParams) :
    Int × ResParams :=
  match infos.find? netid with
  | some info => (info.revisionId, info.params)
  | none => (-1, params)

/-- The record that takes a sample. -/
def sampleTarget (infos : Infos) (netid : Nat) (revisionId : Int) (maxSamples : Nat) :
    Option CacheInfo :=
  if maxSamples = 0 then none
  else (infos.find? netid).filter fun info => info.revisionId = revisionId

def resolvCacheAddResolverStatsSample (infos : Infos) (netid : Nat) (revisionId : Int) (ns : Nat)
    (sample : ResSample) (maxSamples : Nat) : Infos :=
  match sampleTarget infos netid revisionId maxSamples with
  | some info =>
    infos.insert netid
      { info with
        nsstats := Function.update info.nsstats ns ((info.nsstats ns).addSample sample maxSamples) }
  | none => infos

end Nameservers

end Netd
