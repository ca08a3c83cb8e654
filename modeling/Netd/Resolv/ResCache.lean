import Netd.Resolv.DnsPacket
import Netd.Resolv.ResSend

/-!
# The DNS cache

`res_cache.cpp` keeps, for each network, the answers to recent queries. The entries of a cache are
blocks of memory with two kinds of links: the collision chains of a hash table (`hlink`), and a
circular list from the most to the least recently used entry (`mru_next`, `mru_prev`). A pointer
that is followed to a block that is not in `mem` has no result, and neither has a loop that sees
more blocks than there are. A pointer of a collision chain is found through the place where it is
stored (`Slot`).

A lookup that finds a request for its hash (`pending_requests`) waits. What it does when it goes on
is a step of its own. Times are `time_t` values of 64 bits, and their sums wrap around.
-/

namespace Netd.ResCache

open ResSend (CacheStatus)

def configMaxEntries : Nat := 640

abbrev TimeT := BitVec 64

/-- A cache entry. A link of the MRU list that is `none` points to the head, a part of the cache. -/
structure Entry where
  hash : BitVec 32
  hlink : Option Nat
  mruPrev : Option Nat
  mruNext : Option Nat
  query : List Byte
  answer : List Byte
  expires : TimeT
  id : Int

/-- `struct pending_req_info`, with the call that makes the request. -/
structure PendingReqInfo where
  hash : BitVec 32
  owner : Nat
  deriving DecidableEq

/-- `struct resolv_cache` and the blocks of its entries. -/
structure Cache where
  maxEntries : Nat
  numEntries : Int
  /-- The links of `mru_list`. -/
  mruPrev : Option Nat
  mruNext : Option Nat
  lastId : Int
  /-- The first entry of each collision chain. -/
  entries : Nat → Option Nat
  pendingRequests : List PendingReqInfo
  mem : OrdMap Nat Entry
  missed : Nat

/-- The flags of a query that the cache looks at. -/
structure Flags where
  /-- `ANDROID_RESOLV_NO_CACHE_STORE` -/
  noCacheStore : Bool
  /-- `ANDROID_RESOLV_NO_CACHE_LOOKUP` -/
  noCacheLookup : Bool

/-! ## Entries -/

def entryHash (query : List Byte) : BitVec 32 := (DnsPacket.init query).hashQuery

/-- A search key for a query, if it can be cached. -/
def entryInitKey (query : List Byte) : Option Entry :=
  let e : Entry := ⟨entryHash query, none, none, none, query, [], 0, 0⟩
  if (DnsPacket.init query).checkQuery then some e else none

/-- `entry_alloc`, without the allocation. -/
def entryAlloc (init : Entry) (answer : List Byte) : Entry :=
  ⟨init.hash, none, none, none, init.query, answer, 0, 0⟩

/-- `entry_equals`, of two entries that are or are not the same block. -/
def entryEquals (same : Bool) (e₁ e₂ : Entry) : Bool :=
  if e₁.query.length ≠ e₂.query.length then false
  else DnsPacket.isEqualQuery same (DnsPacket.init e₁.query) (DnsPacket.init e₂.query)

/-! ## The time to live of an answer -/

/-- A record that `ns_parserr` gives. -/
structure NsRr where
  rrType : Nat
  ttl : BitVec 32
  rdata : List Byte

/-- What `ns_initparse` and `ns_parserr` make of a message. -/
structure NsMsg where
  an : List (Option NsRr)
  ns : List (Option NsRr)

/-- The parser of the C library: `ns_initparse`, and `dn_skipname` on some bytes. -/
structure NsParser where
  nsInitparse : List Byte → Option NsMsg
  dnSkipname : List Byte → Option Nat

def nsTSoa : Nat := 6

def nsGet32 : List Byte → BitVec 32
  | a :: b :: c :: d :: _ => .ofNat 32 (((a.val * 256 + b.val) * 256 + c.val) * 256 + d.val)
  | _ => 0

/-- The body of the loop of `answer_getNegativeTTL`, with the number of the record. -/
def negativeTTL (parser : NsParser) (result : BitVec 32) : Option NsRr × Nat → BitVec 32
  | (some rr, n) =>
    if rr.rrType = nsTSoa then
      match parser.dnSkipname rr.rdata with
      | none => result
      | some len =>
        let rdata := rr.rdata.drop len
        match parser.dnSkipname rdata with
        | none => result
        | some len =>
          let rdata := rdata.drop len
          if rdata.length ≠ 5 * 4 then result
          else
            let ttl := nsGet32 (rdata.drop (4 * 4))
            let recResult := if ttl < rr.ttl then ttl else rr.ttl
            if n = 0 ∨ recResult < result then recResult else result
    else result
  | (none, _) => result

def answerGetNegativeTTL (parser : NsParser) (handle : NsMsg) : BitVec 32 :=
  handle.ns.zipIdx.foldl (negativeTTL parser) 0

def answerGetTTL (parser : NsParser) (answer : List Byte) : BitVec 32 :=
  match parser.nsInitparse answer with
  | none => 0
  | some handle =>
    if handle.an = [] then answerGetNegativeTTL parser handle
    else
      handle.an.zipIdx.foldl (fun result rr =>
        match rr with
        | (some rr, n) => if n = 0 ∨ rr.ttl < result then rr.ttl else result
        | (none, _) => result) 0

/-! ## Links -/

/-- Where a pointer of a collision chain is stored. -/
inductive Slot where
  | head (index : Nat)
  | hlink (node : Nat)
  deriving DecidableEq

namespace Cache

def create : Cache := ⟨configMaxEntries, 0, none, none, 0, fun _ => none, [], .empty, 0⟩

/-- Follow a pointer to an entry and change it. -/
def modify (c : Cache) (a : Nat) (f : Entry → Entry) : Option Cache :=
  (c.mem.find? a).map fun e => { c with mem := c.mem.insert a (f e) }

def read (c : Cache) : Slot → Option (Option Nat)
  | .head index => some (c.entries index)
  | .hlink node => (c.mem.find? node).map Entry.hlink

def write (c : Cache) (v : Option Nat) : Slot → Option Cache
  | .head index => some { c with entries := Function.update c.entries index v }
  | .hlink node => c.modify node fun e => { e with hlink := v }

def setMruNext (c : Cache) (v : Option Nat) : Option Nat → Option Cache
  | none => some { c with mruNext := v }
  | some a => c.modify a fun e => { e with mruNext := v }

def setMruPrev (c : Cache) (v : Option Nat) : Option Nat → Option Cache
  | none => some { c with mruPrev := v }
  | some a => c.modify a fun e => { e with mruPrev := v }

def entryMruRemove (c : Cache) (a : Nat) : Option Cache := do
  let e ← c.mem.find? a
  let c ← c.setMruNext e.mruNext e.mruPrev
  let e ← c.mem.find? a
  c.setMruPrev e.mruPrev e.mruNext

/-- `entry_mru_add`, at the head of the list -/
def entryMruAdd (c : Cache) (a : Nat) : Option Cache := do
  let first := c.mruNext
  let c ← c.modify a fun e => { e with mruNext := first }
  let c ← c.modify a fun e => { e with mruPrev := none }
  let c ← c.setMruNext (some a) none
  c.setMruPrev (some a) first

/-! ## The hash table -/

/-- The loop of `_cache_lookup_p`. `keyPtr` is where the key is, if it is an entry. -/
def lookupFrom (c : Cache) (key : Entry) (keyPtr : Option Nat) : Nat → Slot → Option Slot
  | 0, _ => none
  | fuel + 1, pnode => do
      match ← c.read pnode with
      | none => some pnode
      | some a =>
        let node ← c.mem.find? a
        if node.hash = key.hash ∧ entryEquals (keyPtr = some a) node key = true then some pnode
        else c.lookupFrom key keyPtr fuel (.hlink a)

def lookupP (c : Cache) (key : Entry) (keyPtr : Option Nat) : Option Slot :=
  c.lookupFrom key keyPtr (c.mem.entries.length + 1) (.head (key.hash.toNat % c.maxEntries))

/-- `_cache_add_p`. The entry is the block `a`. -/
def addP (c : Cache) (lookup : Slot) (a : Nat) : Option Cache := do
  let c ← c.write (some a) lookup
  let c := { c with lastId := c.lastId + 1 }
  let c ← c.modify a fun e => { e with id := c.lastId }
  let c ← c.entryMruAdd a
  some { c with numEntries := c.numEntries + 1 }

def removeP (c : Cache) (lookup : Slot) : Option Cache := do
  match ← c.read lookup with
  | none => none
  | some a =>
    let c ← c.entryMruRemove a
    let e ← c.mem.find? a
    let c ← c.write e.hlink lookup
    some { c with mem := c.mem.erase a, numEntries := c.numEntries - 1 }

/-- The entry that a link of the MRU list points to. The head of the list has no hash and
no query. -/
def mruEntry (c : Cache) : Option Nat → Option Entry
  | none => some ⟨0, none, c.mruPrev, c.mruNext, [], [], 0, 0⟩
  | some a => c.mem.find? a

def removeOldest (c : Cache) : Option Cache := do
  let oldest ← c.mruEntry c.mruPrev
  let lookup ← c.lookupP oldest c.mruPrev
  match ← c.read lookup with
  | none => some { c with missed := c.missed + 1 }
  | some _ => c.removeP lookup

def removeExpiredFrom (now : TimeT) : Nat → Option Nat → Cache → Option Cache
  | _, none, c => some c
  | 0, some _, _ => none
  | fuel + 1, some a, c => do
      let e ← c.mem.find? a
      if now.toInt ≥ e.expires.toInt then
        let lookup ← c.lookupP e (some a)
        match ← c.read lookup with
        | none => some { c with missed := c.missed + 1 }
        | some _ =>
          let next := e.mruNext
          let c ← c.removeP lookup
          removeExpiredFrom now fuel next c
      else removeExpiredFrom now fuel e.mruNext c

def removeExpired (c : Cache) (now : TimeT) : Option Cache :=
  removeExpiredFrom now (c.mem.entries.length + 1) c.mruNext c

/-- The inner loop of `cache_flush_locked`: free the entries of a chain. -/
def flushChain (c : Cache) (index : Nat) (fuel : Nat) : Option Cache :=
  match c.entries index, fuel with
  | none, _ => some c
  | some _, 0 => none
  | some node, fuel + 1 => do
      let e ← c.mem.find? node
      let c ← c.write e.hlink (.head index)
      flushChain { c with mem := c.mem.erase node } index fuel

/-- The outer loop of `cache_flush_locked`, over the given chains. -/
def flushChains (c : Cache) (indices : List Nat) : Option Cache :=
  indices.foldlM (fun c nn => c.flushChain nn (c.mem.entries.length + 1)) c

def flushPendingRequests (c : Cache) : Cache := { c with pendingRequests := [] }

/-- `cache_flush_locked` on the cache of a network. -/
def flush (c : Cache) : Option Cache := do
  let c ← c.flushChains (List.range c.maxEntries)
  let c := c.flushPendingRequests
  some { c with mruPrev := none, mruNext := none, numEntries := 0, lastId := 0 }

/-! ## Pending requests -/

/-- `_cache_notify_waiting_tid_locked`: the first request with the hash is removed. -/
def notify (c : Cache) (key : Entry) : Cache :=
  { c with pendingRequests := c.pendingRequests.eraseP fun ri => ri.hash = key.hash }

/-- `_cache_check_pending_request_locked`, up to the wait. `some` is the request to wait for, else
the caller's is added. -/
def checkPendingRequest (c : Cache) (key : Entry) (caller : Nat) (alloc : Bool) :
    Option PendingReqInfo × Cache :=
  match c.pendingRequests.find? fun ri => ri.hash = key.hash with
  | some ri => (some ri, c)
  | none =>
    (none, if alloc then
      { c with pendingRequests := c.pendingRequests ++ [⟨key.hash, caller⟩] } else c)

/-! ## Lookups and additions -/

/-- What `_resolv_cache_lookup` returns: the status, the length and the bytes it copies. -/
structure LookupResult where
  status : CacheStatus
  answerlen : Option Int
  written : List Byte
  deriving DecidableEq

/-- A lookup that returns without an answer. -/
def LookupResult.miss (status : CacheStatus) : LookupResult := ⟨status, none, []⟩

/-- The end of `_resolv_cache_lookup`, for the entry that `lookup` has. -/
def takeAnswer (c : Cache) (lookup : Slot) (answersize : Int) (now : TimeT) :
    Option (LookupResult × Cache) := do
  match ← c.read lookup with
  | none => some (.miss .notfound, c)
  | some a =>
    let e ← c.mem.find? a
    if now.toInt ≥ e.expires.toInt then
      let c ← c.removeP lookup
      some (.miss .notfound, c)
    else if (e.answer.length : Int) > answersize then
      some (⟨.unsupported, some e.answer.length, []⟩, c)
    else
      let result : LookupResult := ⟨.found, some e.answer.length, e.answer⟩
      if c.mruNext ≠ some a then
        let c ← c.entryMruRemove a
        let c ← c.entryMruAdd a
        some (result, c)
      else some (result, c)

/-- What the first part of a lookup leads to. -/
inductive LookupOutcome where
  | returned (result : LookupResult)
  | waits (request : PendingReqInfo)

/-- `_resolv_cache_lookup` on a cache, up to the wait. -/
def lookup (c : Cache) (key : Entry) (answersize : Int) (flags : Flags) (caller : Nat)
    (alloc : Bool) (now : TimeT) : Option (LookupOutcome × Cache) := do
  let slot ← c.lookupP key none
  match ← c.read slot with
  | some _ =>
    let (result, c) ← c.takeAnswer slot answersize now
    some (.returned result, c)
  | none =>
    if flags.noCacheStore then some (.returned (.miss .skip), c)
    else
      match c.checkPendingRequest key caller alloc with
      | (none, c) => some (.returned (.miss .notfound), c)
      | (some request, c) => some (.waits request, c)

/-- `_resolv_cache_lookup` after the wait. -/
def lookupAgain (c : Cache) (key : Entry) (answersize : Int) (now : TimeT) :
    Option (LookupResult × Cache) := do
  let slot ← c.lookupP key none
  c.takeAnswer slot answersize now

/-- The part of `_resolv_cache_add` that makes room in a full cache. -/
def makeRoom (c : Cache) (now : TimeT) : Option Cache := do
  let c ← c.removeExpired now
  if c.numEntries ≥ c.maxEntries then c.removeOldest else some c

/-- The part of `_resolv_cache_add` that allocates and adds the entry. `calloc` gives `block` unless
it is in use. -/
def store (c : Cache) (lookup : Slot) (key : Entry) (answer : List Byte) (ttl : BitVec 32)
    (block : Option Nat) (now : TimeT) : Option Cache :=
  if ttl > 0 then
    match block with
    | none => some c
    | some a =>
      if c.mem.contains a then some c
      else
        let e := { entryAlloc key answer with expires := ttl.setWidth 64 + now }
        { c with mem := c.mem.insert a e }.addP lookup a
  else some c

/-- `_resolv_cache_add` before the waiting threads are notified. `now` and `now'` are the times of
`_cache_remove_expired` and of the addition. -/
def add (parser : NsParser) (c : Cache) (key : Entry) (answer : List Byte) (block : Option Nat)
    (now now' : TimeT) : Option Cache := do
  let slot ← c.lookupP key none
  match ← c.read slot with
  | some _ => some c
  | none =>
    if c.numEntries ≥ c.maxEntries then
      let c ← c.makeRoom now
      let slot ← c.lookupP key none
      match ← c.read slot with
      | some _ => some c
      | none => c.store slot key answer (answerGetTTL parser answer) block now'
    else c.store slot key answer (answerGetTTL parser answer) block now'

end Cache

/-! ## The caches of all networks -/

/-- A thread that waits in `_resolv_cache_lookup`, and the request it waits for. -/
structure Waiter where
  netid : Nat
  key : Entry
  answersize : Int
  request : PendingReqInfo

/-- The caches by network, and the threads that wait. -/
structure System where
  caches : OrdMap Nat Cache
  waiting : List Waiter

namespace System

/-- No network has a cache yet. -/
def init : System := ⟨.empty, []⟩

/-- `get_res_cache_for_net_locked`, if the memory can be allocated. -/
def getResCacheForNet (s : System) (netid : Nat) : System :=
  match s.caches.find? netid with
  | some _ => s
  | none => { s with caches := s.caches.insert netid .create }

/-- `cache_flush_locked` on the cache of a network. -/
def flush (s : System) (netid : Nat) : Option System :=
  match s.caches.find? netid with
  | none => some s
  | some c => do
      let c ← c.flush
      some { s with caches := s.caches.insert netid c }

def resolvDeleteCacheForNet (s : System) (netid : Nat) : Option System :=
  match s.caches.find? netid with
  | none => some s
  | some c => do
      let _ ← c.flush
      some { s with caches := s.caches.erase netid }

/-- `_resolv_cache_lookup`, up to the wait. There is no result yet if it waits. -/
def resolvCacheLookup (s : System) (netid : Nat) (query : List Byte) (answersize : Int)
    (flags : Flags) (caller : Nat) (alloc : Bool) (now : TimeT) :
    Option (Option Cache.LookupResult × System) :=
  if flags.noCacheLookup then some (some (.miss .skip), s)
  else
    match entryInitKey query with
    | none => some (some (.miss .unsupported), s)
    | some key =>
      match s.caches.find? netid with
      | none => some (some (.miss .unsupported), s)
      | some c => do
          let (outcome, c) ← c.lookup key answersize flags caller alloc now
          let s := { s with caches := s.caches.insert netid c }
          match outcome with
          | .returned result => some (some result, s)
          | .waits request =>
            let w : Waiter := ⟨netid, key, answersize, request⟩
            some (none, { s with waiting := s.waiting ++ [w] })

/-- `_resolv_cache_lookup` after the wait of thread number `i`, whatever ended it. -/
def wake (s : System) (i : Nat) (now : TimeT) : Option (Option Cache.LookupResult × System) :=
  match s.waiting[i]? with
  | none => some (none, s)
  | some w =>
    let s := { s with waiting := s.waiting.eraseIdx i }
    match s.caches.find? w.netid with
    | none => some (some (.miss .notfound), s)
    | some c => do
        let (result, c) ← c.lookupAgain w.key w.answersize now
        some (some result, { s with caches := s.caches.insert w.netid c })

def resolvCacheAdd (parser : NsParser) (s : System) (netid : Nat) (query answer : List Byte)
    (block : Option Nat) (now now' : TimeT) : Option System :=
  match entryInitKey query with
  | none => some s
  | some key =>
    match s.caches.find? netid with
    | none => some s
    | some c => do
        let c ← c.add parser key answer block now now'
        some { s with caches := s.caches.insert netid (c.notify key) }

def resolvCacheQueryFailed (s : System) (netid : Nat) (query : List Byte) (flags : Flags) :
    System :=
  if flags.noCacheStore || flags.noCacheLookup then s
  else
    match entryInitKey query with
    | none => s
    | some key =>
      match s.caches.find? netid with
      | none => s
      | some c => { s with caches := s.caches.insert netid (c.notify key) }

end System

/-- A section under `res_cache_list_lock`. -/
inductive Action where
  | create (netid : Nat)
  | flush (netid : Nat)
  | delete (netid : Nat)
  | lookup (netid : Nat) (query : List Byte) (answersize : Int) (flags : Flags) (caller : Nat)
      (alloc : Bool) (now : TimeT)
  | wake (i : Nat) (now : TimeT)
  | add (netid : Nat) (query answer : List Byte) (block : Option Nat) (now now' : TimeT)
  | queryFailed (netid : Nat) (query : List Byte) (flags : Flags)

/-- What an action returns, if it is a lookup that returns, and what it leads to. -/
def perform (parser : NsParser) (a : Action) (s : System) :
    Option (Option Cache.LookupResult × System) :=
  match a with
  | .create netid => some (none, s.getResCacheForNet netid)
  | .flush netid => (s.flush netid).map (none, ·)
  | .delete netid => (s.resolvDeleteCacheForNet netid).map (none, ·)
  | .lookup netid query answersize flags caller alloc now =>
    s.resolvCacheLookup netid query answersize flags caller alloc now
  | .wake i now => s.wake i now
  | .add netid query answer block now now' =>
    (s.resolvCacheAdd parser netid query answer block now now').map (none, ·)
  | .queryFailed netid query flags => some (none, s.resolvCacheQueryFailed netid query flags)

def step (parser : NsParser) (a : Action) (s : System) : Option System :=
  (perform parser a s).map Prod.snd

end Netd.ResCache
