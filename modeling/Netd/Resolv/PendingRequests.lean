import Netd.Resolv.CacheAnswers
import Netd.Resolv.Cleartext

/-!
# Pending requests

A lookup that finds neither an answer nor a request for its hash leaves a record of its own request
(`pending_req_info`), and later lookups with the same hash wait for it. Here any number of calls of
`res_nsend` run at once. Each section under `res_cache_list_lock` is one step. A record that is
removed is broadcast to those who wait for it.
-/

namespace Netd

open List Option ResSend ResCache System Cache OrdMap

open Function (update update_of_ne update_self)

namespace ResSend

/-! ## Every way after a miss notifies the cache -/

/-- The events that notify the threads that wait. -/
def Event.settles : Event → Bool
  | .cacheQueryFailed => true
  | .cacheAdd _ => true
  | _ => false

variable {env : Env} {statp : ResState} {cacheStatus : CacheStatus} {s : Sending}

theorem sendToServers_settles (env : Env) (statp : ResState) (query : Query) (s : Sending) :
    ∃ e ∈ (sendToServers env statp .notfound query s).2.trace, e.settles = true := by
  obtain ⟨retryTimes, hret⟩ := sendToServers_returned env statp .notfound query s
  generalize sendToServers env statp .notfound query s = sent at hret ⊢
  obtain ⟨result, s'⟩ := sent
  cases hret with
  | answer _ _ _ _ _ hcached => exact ⟨_, hcached rfl, rfl⟩
  | error _ _ _ hfail => exact ⟨_, hfail, rfl⟩

/-! ## The lookup is the first event -/

theorem emits_extends (revision : Int) (n : Nat) (pre : List Event) :
    Emits revision n fun t => pre <+: t where
  quiet h _ := h.trans (prefix_append ..)
  tls _ h := h.trans (prefix_append ..)
  contact h _ := h.trans (prefix_append ..)
  sample _ _ _ h _ _ := h.trans (prefix_append ..)

/-- After a lookup that found nothing, every way through `res_nsend` calls `_resolv_cache_add` or
`_resolv_cache_query_failed`. -/
theorem resNsend_settles (env : Env) (statp : ResState) (query : Query) (rcode : Nat)
    (hsize : hfixedsz ≤ query.anssiz) (hmiss : env.cacheLookup.1 = .notfound) :
    ∃ todo, (resNsend env statp query rcode).2.trace = .cacheLookup .notfound :: todo ∧
      ∃ e ∈ todo, e.settles = true := by
  have hnot : ¬ query.anssiz < hfixedsz := not_lt.mpr hsize
  have hres : [.cacheLookup .notfound] <+: (resNsend env statp query rcode).2.trace ∧
      ∃ e ∈ (resNsend env statp query rcode).2.trace, e.settles = true := by
    simp only [resNsend, if_neg hnot, hmiss, reduceCtorEq, if_false]
    split
    · exact ⟨⟨[.populate, .cacheQueryFailed], rfl⟩, .cacheQueryFailed, by simp [Sending.add], rfl⟩
    refine ⟨?_, sendToServers_settles _ _ query _⟩
    obtain ⟨retryTimes, hret⟩ := sendToServers_returned ..
    apply hret.emits (emits_extends _ _ _)
    exact ⟨[.populate], rfl⟩
  obtain ⟨⟨todo, htodo⟩, e, he, hsets⟩ := hres
  refine ⟨todo, htodo.symm, e, ?_, hsets⟩
  rw [← htodo] at he
  rcases mem_append.mp he with hfirst | hrest
  · rw [mem_singleton.mp hfirst] at hsets
    cases hsets
  · exact hrest

end ResSend

namespace PendingRequests

open ResCache (Cache PendingReqInfo Flags NsParser TimeT System entryInitKey)
open ResSend (Event Env ResState)

/-! ## Concurrent calls -/

/-- Before its lookup, in the wait, or after it with some events to go. -/
inductive Phase where
  | start
  | waiting (request : PendingReqInfo) (signalled : Bool)
  | running (todo : List Event)

/-- A call of `res_nsend` that has not returned. -/
structure Sender where
  statp : ResState
  query : List Byte
  anssiz : Nat
  flags : Flags
  noRetry : Bool
  rcode : Nat
  phase : Phase

/-- The caches, and the calls by number. Calls are numbered in the order they come. -/
structure State where
  caches : OrdMap Nat Cache
  calls : Nat → Option Sender
  next : Nat

def init : State := ⟨.empty, fun _ => none, 0⟩

def Sender.events (call : Sender) (r : Cache.LookupResult) (env : Env) : List Event :=
  (resNsend { env with cacheLookup := (r.status, r.answerlen.getD 0) } call.statp
    ⟨call.query.length, call.anssiz, call.noRetry⟩ call.rcode).2.trace.drop 1

def Sender.signal (netid : Nat) (requests : List PendingReqInfo) (call : Sender) : Sender :=
  match call.phase with
  | .waiting ri _ =>
    if call.statp.netid = netid ∧ ri ∈ requests then { call with phase := .waiting ri true }
    else call
  | _ => call

/-- `pthread_cond_broadcast` on the requests of a network. -/
def broadcast (netid : Nat) (requests : List PendingReqInfo) (calls : Nat → Option Sender) :
    Nat → Option Sender := fun id => (calls id).map (Sender.signal netid requests)

def requests (caches : OrdMap Nat Cache) (netid : Nat) : List PendingReqInfo :=
  match caches.find? netid with
  | none => []
  | some c => c.pendingRequests

/-- The request that `_cache_notify_waiting_tid_locked` removes. -/
def notified (caches : OrdMap Nat Cache) (netid : Nat) (query : List Byte) : List PendingReqInfo :=
  match entryInitKey query with
  | none => []
  | some key => ((requests caches netid).find? fun ri => ri.hash = key.hash).toList

/-- `flags & (ANDROID_RESOLV_NO_CACHE_STORE | ANDROID_RESOLV_NO_CACHE_LOOKUP)` -/
def noCache (flags : Flags) : Bool := flags.noCacheStore || flags.noCacheLookup

inductive Action where
  | create (netid : Nat)
  | delete (netid : Nat)
  | enter (statp : ResState) (query : List Byte) (anssiz : Nat) (flags : Flags) (noRetry : Bool)
      (rcode : Nat)
  | lookup (id : Nat) (alloc : Bool) (now : TimeT) (env : Env)
  | wake (id : Nat) (now : TimeT) (env : Env)
  | event (id : Nat) (answer : List Byte) (block : Option Nat) (now now' : TimeT)
  | leave (id : Nat)

/-- The call that an action is a step of. -/
def Action.caller : Action → Option Nat
  | .lookup id _ _ _ => some id
  | .wake id _ _ => some id
  | .event id _ _ _ _ => some id
  | .leave id => some id
  | _ => none

def State.goto (s : State) (id : Nat) (call : Sender) (phase : Phase) : Nat → Option Sender :=
  update s.calls id (some { call with phase := phase })

def performEvent (parser : NsParser) (s : State) (id : Nat) (call : Sender) (e : Event)
    (todo : List Event) (answer : List Byte) (block : Option Nat) (now now' : TimeT) :
    Option State :=
  let calls := s.goto id call (.running todo)
  match e with
  | .cacheAdd _ => do
      let sys ← resolvCacheAdd parser ⟨s.caches, []⟩ call.statp.netid call.query answer block
        now now'
      some ⟨sys.caches,
        broadcast call.statp.netid (notified s.caches call.statp.netid call.query) calls, s.next⟩
  | .cacheQueryFailed =>
    let sys := resolvCacheQueryFailed ⟨s.caches, []⟩ call.statp.netid call.query call.flags
    let removed := if noCache call.flags then []
      else notified s.caches call.statp.netid call.query
    some ⟨sys.caches, broadcast call.statp.netid removed calls, s.next⟩
  | _ => some { s with calls := calls }

def step (parser : NsParser) (a : Action) (s : State) : Option State :=
  match a with
  | .create netid =>
    some { s with caches := (getResCacheForNet ⟨s.caches, []⟩ netid).caches }
  | .delete netid => do
      let sys ← resolvDeleteCacheForNet ⟨s.caches, []⟩ netid
      some ⟨sys.caches, broadcast netid (requests s.caches netid) s.calls, s.next⟩
  | .enter statp query anssiz flags noRetry rcode =>
    -- An answer buffer that is too small is refused before the lookup.
    let phase := if anssiz < hfixedsz then Phase.running [] else .start
    let call : Sender := ⟨statp, query, anssiz, flags, noRetry, rcode, phase⟩
    some ⟨s.caches, update s.calls s.next (some call), s.next + 1⟩
  | .lookup id alloc now env =>
    match s.calls id with
    | some call =>
      match call.phase with
      | .start =>
        match resolvCacheLookup ⟨s.caches, []⟩ call.statp.netid call.query call.anssiz
            call.flags id alloc now with
        | some (some r, sys) =>
          some ⟨sys.caches, s.goto id call (.running (call.events r env)), s.next⟩
        | some (none, sys) =>
          match sys.waiting with
          | w :: _ => some ⟨sys.caches, s.goto id call (.waiting w.request false), s.next⟩
          | [] => none
        | none => none
      | _ => none
    | none => none
  | .wake id now env =>
    match s.calls id with
    | some call =>
      match call.phase, entryInitKey call.query with
      | .waiting ri _, some key =>
        match wake ⟨s.caches, [⟨call.statp.netid, key, call.anssiz, ri⟩]⟩ 0 now with
        | some (some r, sys) =>
          some ⟨sys.caches, s.goto id call (.running (call.events r env)), s.next⟩
        | _ => none
      | _, _ => none
    | none => none
  | .event id answer block now now' =>
    match s.calls id with
    | some call =>
      match call.phase with
      | .running (e :: todo) => performEvent parser s id call e todo answer block now now'
      | _ => none
    | none => none
  | .leave id =>
    match s.calls id with
    | some call =>
      match call.phase with
      | .running [] => some { s with calls := update s.calls id none }
      | _ => none
    | none => none

/-! ## The requests of a network -/

variable {parser : NsParser} {caches : OrdMap Nat Cache} {n : Nat}

theorem requests_insert (caches : OrdMap Nat Cache) (n : Nat) (c : Cache) (m : Nat) :
    requests (caches.insert n c) m = if m = n then c.pendingRequests else requests caches m := by
  by_cases hm : m = n <;> simp [requests, find?_insert, hm]

variable {query : List Byte} {caches' : OrdMap Nat Cache} {i netid : Nat} {c : Cache}
  {key : ResCache.Entry} {todo : List Event}

theorem requests_of_find? (h : caches.find? n = some c) :
    requests caches n = c.pendingRequests := by simp [requests, h]

theorem requests_insert_same {c' : Cache} (h : caches.find? n = some c)
    (hpending : c'.pendingRequests = c.pendingRequests) :
    requests (caches.insert n c') = requests caches := by
  funext m
  rw [requests_insert]
  split
  · next heq => rw [heq, hpending, requests_of_find? h]
  · rfl

def AllSound (caches : OrdMap Nat Cache) : Prop := ∀ n c, caches.find? n = some c → c.Sound

theorem AllSound.insert (h : AllSound caches) (hc : c.Sound) : AllSound (caches.insert n c) :=
  forall_insert h hc

/-- The network's requests without the one for the hash of the query. -/
def Notifies (caches caches' : OrdMap Nat Cache) (netid : Nat) (query : List Byte) : Prop :=
  ∀ m, requests caches' m = if m = netid then
    match entryInitKey query with
    | none => requests caches m
    | some key => (requests caches m).eraseP fun ri => ri.hash = key.hash
    else requests caches m

theorem notifies_refl (h : entryInitKey query = none) : Notifies caches caches n query := by
  intro m
  rw [h]
  split <;> rfl

theorem notifies_of_none (h : caches.find? n = none) : Notifies caches caches n query := by
  intro m
  split
  · rename_i heq
    have hnil : requests caches m = [] := by simp [requests, heq, h]
    rw [hnil]
    split <;> rfl
  · rfl

theorem notifies_insert {c' : Cache} (hkey : entryInitKey query = some key)
    (hc : caches.find? n = some c) (hpending : c'.pendingRequests = c.pendingRequests) :
    Notifies caches (caches.insert n (c'.notify key)) n query := by
  intro m
  rw [requests_insert, hkey]
  split
  · next heq => rw [heq, requests_of_find? hc, ← hpending]; rfl
  · rfl

theorem add_notifies (parser : NsParser) (h : AllSound caches) (netid : Nat)
    (query answer : List Byte) (block : Option Nat) (now now' : TimeT) :
    ∃ sys, resolvCacheAdd parser ⟨caches, []⟩ netid query answer block now now' = some sys ∧
      AllSound sys.caches ∧ Notifies caches sys.caches netid query := by
  unfold resolvCacheAdd
  cases hkey : entryInitKey query with
  | none => exact ⟨_, rfl, h, notifies_refl hkey⟩
  | some key =>
    cases hc : caches.find? netid with
    | none => exact ⟨⟨caches, []⟩, by simp, h, notifies_of_none hc⟩
    | some c =>
      have hsound := h netid c hc
      obtain ⟨chain, mru, hshape⟩ := hsound.shape
      obtain ⟨c', chain', mru', hadd, hshape', hgrows, -⟩ :=
        add_spec hshape (isKey_of_entryInitKey hkey).1 parser answer block now now'
      have hsound' : c'.Sound := ⟨hgrows.maxEntries.trans hsound.maxEntries, chain', mru', hshape'⟩
      exact ⟨⟨caches.insert netid (c'.notify key), []⟩, by simp [hadd],
        h.insert (hsound'.notify key), notifies_insert hkey hc hgrows.pendingRequests⟩

theorem queryFailed_notifies (h : AllSound caches) (netid : Nat) (query : List Byte)
    {flags : Flags} (hflags : noCache flags = false) :
    AllSound (resolvCacheQueryFailed ⟨caches, []⟩ netid query flags).caches ∧
      Notifies caches (resolvCacheQueryFailed ⟨caches, []⟩ netid query flags).caches netid
        query := by
  have hflags' : (flags.noCacheStore || flags.noCacheLookup) = false := hflags
  simp only [resolvCacheQueryFailed, hflags']
  cases hkey : entryInitKey query with
  | none => exact ⟨h, notifies_refl hkey⟩
  | some key =>
    cases hc : caches.find? netid with
    | none => exact ⟨h, notifies_of_none hc⟩
    | some c => exact ⟨h.insert ((h netid c hc).notify key), notifies_insert hkey hc rfl⟩

inductive Looks (caches : OrdMap Nat Cache) (netid : Nat) (query : List Byte) (flags : Flags)
    (id : Nat) : Option Cache.LookupResult → System → Prop where
  | returned {r : Cache.LookupResult} {sys : System} :
      requests sys.caches = requests caches →
      Looks caches netid query flags id (some r) sys
  | requested {key : ResCache.Entry} {sys : System} : entryInitKey query = some key →
      noCache flags = false → (∀ ri ∈ requests caches netid, ri.hash ≠ key.hash) →
      (∀ m, requests sys.caches m =
        if m = netid then requests caches netid ++ [⟨key.hash, id⟩] else requests caches m) →
      Looks caches netid query flags id (some (.miss .notfound)) sys
  | waits {key : ResCache.Entry} {ri : PendingReqInfo} {sys : System} {w : ResCache.Waiter} :
      entryInitKey query = some key → ri ∈ requests caches netid →
      requests sys.caches = requests caches → sys.waiting = [w] → w.request = ri →
      Looks caches netid query flags id none sys

section

variable (h : AllSound caches)
include h

theorem lookup_looks (netid : Nat) (query : List Byte) (answersize : Int)
    (flags : Flags) (id : Nat) (alloc : Bool) (now : TimeT) :
    ∃ r sys, resolvCacheLookup ⟨caches, []⟩ netid query answersize flags id alloc now =
        some (r, sys) ∧ AllSound sys.caches ∧ Looks caches netid query flags id r sys := by
  unfold resolvCacheLookup
  split
  · exact ⟨_, _, rfl, h, .returned rfl⟩
  rename_i hlookupFlag
  cases hkey : entryInitKey query with
  | none => exact ⟨_, _, rfl, h, .returned rfl⟩
  | some key =>
    cases hc : caches.find? netid with
    | none => exact ⟨some (.miss .unsupported), ⟨caches, []⟩, by simp, h, .returned rfl⟩
    | some c =>
      have hsound := h netid c hc
      obtain ⟨chain, mru, hshape⟩ := hsound.shape
      obtain ⟨outcome, c', chain', mru', hlook, hshape', hfew, -, hpends, -⟩ :=
        lookup_spec hshape key answersize flags id alloc now
      have hsound' : c'.Sound := ⟨hfew.maxEntries.trans hsound.maxEntries, chain', mru', hshape'⟩
      generalize hpending : c'.pendingRequests = pending at hpends
      cases hpends with
      | answered r =>
        exact ⟨some r, ⟨caches.insert netid c', []⟩, by simp [hlook],
          h.insert hsound', .returned (requests_insert_same hc hpending)⟩
      | requested hstore hfresh =>
        refine ⟨some (.miss .notfound), ⟨caches.insert netid c', []⟩,
          by simp [hlook], h.insert hsound', .requested hkey ?_ ?_ fun m => ?_⟩
        · simp [noCache, hstore, hlookupFlag]
        · rwa [requests_of_find? hc]
        · rw [requests_insert, hpending, requests_of_find? hc]
      | @waits ri hri =>
        refine ⟨none, ⟨caches.insert netid c', [⟨netid, key, answersize, ri⟩]⟩,
          by simp [hlook], h.insert hsound',
          .waits hkey ?_ (requests_insert_same hc hpending) rfl rfl⟩
        rwa [requests_of_find? hc]

theorem wake_requests (w : ResCache.Waiter) (now : TimeT) :
    ∃ r sys, wake ⟨caches, [w]⟩ 0 now = some (some r, sys) ∧ AllSound sys.caches ∧
      requests sys.caches = requests caches := by
  simp only [wake, List.getElem?_cons_zero]
  cases hc : caches.find? w.netid with
  | none => exact ⟨_, _, rfl, h, rfl⟩
  | some c =>
    have hsound := h w.netid c hc
    obtain ⟨chain, mru, hshape⟩ := hsound.shape
    obtain ⟨r, c', chain', mru', hlook, hshape', hshrinks, -⟩ :=
      lookupAgain_spec hshape w.key w.answersize now
    have hsound' : c'.Sound := ⟨hshrinks.maxEntries.trans hsound.maxEntries, chain', mru', hshape'⟩
    exact ⟨r, ⟨caches.insert w.netid c', []⟩, by simp [hlook], h.insert hsound',
      requests_insert_same hc hshrinks.pendingRequests⟩

theorem delete_requests (netid : Nat) :
    ∃ sys, resolvDeleteCacheForNet ⟨caches, []⟩ netid = some sys ∧ AllSound sys.caches ∧
      ∀ m, requests sys.caches m = if m = netid then [] else requests caches m := by
  unfold resolvDeleteCacheForNet
  cases hc : caches.find? netid with
  | none =>
    refine ⟨⟨caches, []⟩, by simp, h, fun m => ?_⟩
    split
    · next heq => simp [requests, heq, hc]
    · rfl
  | some c =>
    have hsound := h netid c hc
    obtain ⟨chain, mru, hshape⟩ := hsound.shape
    obtain ⟨c', hc', -⟩ := flush_spec hshape.table hsound.pos
    refine ⟨⟨caches.erase netid, []⟩, by simp [hc'],
      fun m d hd => h m d (find?_of_erase hd).2, fun m => ?_⟩
    by_cases hm : m = netid <;> simp [requests, find?_erase, hm]

theorem create_requests (netid : Nat) : AllSound (getResCacheForNet ⟨caches, []⟩ netid).caches ∧
      requests (getResCacheForNet ⟨caches, []⟩ netid).caches = requests caches := by
  unfold getResCacheForNet
  cases hc : caches.find? netid with
  | some c => simpa using h
  | none =>
    refine ⟨h.insert sound_create, ?_⟩
    funext m
    rw [requests_insert]
    split
    · next heq => simp [requests, heq, hc, create]
    · rfl

end

/-! ## The invariant -/

/-- The request was made by a call that has not returned and still has to notify the cache. -/
def Performing (calls : Nat → Option Sender) (n : Nat) (ri : PendingReqInfo) : Prop :=
  ∃ call todo key, calls ri.owner = some call ∧ call.phase = .running todo ∧
    call.statp.netid = n ∧ entryInitKey call.query = some key ∧ key.hash = ri.hash ∧
    noCache call.flags = false ∧ ∃ e ∈ todo, e.settles = true

structure Inv (s : State) : Prop where
  sound : AllSound s.caches
  distinct : ∀ n, ((requests s.caches n).map PendingReqInfo.hash).Nodup
  owned : ∀ n, ∀ ri ∈ requests s.caches n, Performing s.calls n ri
  /-- A call that waits and has not been signalled waits for a request that is there. -/
  waiting : ∀ {id call ri b}, s.calls id = some call → call.phase = .waiting ri b →
    (entryInitKey call.query).isSome ∧ (b = false → ri ∈ requests s.caches call.statp.netid)
  sized : ∀ {id call}, s.calls id = some call → call.phase = .start → hfixedsz ≤ call.anssiz
  fresh : ∀ id, s.next ≤ id → s.calls id = none

variable {s s' : State} {calls : Nat → Option Sender} {ri : PendingReqInfo} {id : Nat}
  {call : Sender}

theorem Performing.update (h : Performing calls n ri) (hne : ri.owner ≠ id)
    (x : Option Sender) : Performing (update calls id x) n ri := by
  obtain ⟨call, todo, key, hcall, hrest⟩ := h
  exact ⟨call, todo, key, by rwa [update_of_ne hne], hrest⟩

/-- What is known of the call that made the request. -/
theorem Performing.of_call (h : Performing calls n ri) (hcall : calls ri.owner = some call) :
    ∃ todo key, call.phase = .running todo ∧ call.statp.netid = n ∧
      entryInitKey call.query = some key ∧ key.hash = ri.hash ∧ noCache call.flags = false ∧
      ∃ e ∈ todo, e.settles = true := by
  obtain ⟨owner, todo, key, hown, hrest⟩ := h
  rw [hcall] at hown
  cases hown
  exact ⟨todo, key, hrest⟩

theorem Performing.owner_ne (h : Performing calls n ri) (hcall : calls id = some call)
    (hphase : ∀ todo, call.phase ≠ .running todo) : ri.owner ≠ id := by
  rintro rfl
  obtain ⟨todo, key, hrunning, -⟩ := h.of_call hcall
  exact hphase todo hrunning

/-- A broadcast changes nothing but whether a call that waits is signalled. -/
theorem signal_cases (call : Sender) (netid : Nat) (l : List PendingReqInfo) :
    call.signal netid l = call ∧
        (∀ ri b, call.phase = .waiting ri b → call.statp.netid = netid → ri ∉ l) ∨
      ∃ ri b, call.phase = .waiting ri b ∧
        call.signal netid l = { call with phase := .waiting ri true } := by
  unfold Sender.signal
  split
  · rename_i ri b hphase
    split
    · exact .inr ⟨ri, b, hphase, rfl⟩
    rename_i hnot
    refine .inl ⟨rfl, fun r b' hr hnetid hmem => hnot ⟨hnetid, ?_⟩⟩
    rw [hphase] at hr
    cases hr
    exact hmem
  · rename_i hother
    refine .inl ⟨rfl, fun r b hr => ?_⟩
    exact absurd hr (hother r b)

theorem Performing.broadcast (h : Performing calls n ri) (netid : Nat)
    (l : List PendingReqInfo) : Performing (broadcast netid l calls) n ri := by
  obtain ⟨call, todo, key, hcall, hphase, hrest⟩ := h
  refine ⟨call, todo, key, ?_, hphase, hrest⟩
  simp [PendingRequests.broadcast, hcall, Sender.signal, hphase]

/-- What is left of the requests of a network once those of a broadcast are gone. -/
structure Removes (old new : Nat → List PendingReqInfo) (netid : Nat)
    (removed : List PendingReqInfo) : Prop where
  sub : ∀ m, (new m).Sublist (old m)
  kept : ∀ m, ∀ ri ∈ old m, (m = netid → ri ∉ removed) → ri ∈ new m

/-- A step that removes some requests and broadcasts them. -/
theorem Inv.remove (h : Inv s) (hsound : AllSound caches') {removed : List PendingReqInfo}
    (hremoves : Removes (requests s.caches) (requests caches') netid removed)
    (howned : ∀ n, ∀ ri ∈ requests caches' n, Performing calls n ri)
    (hwait : ∀ {id call ri b}, calls id = some call → call.phase = .waiting ri b →
      s.calls id = some call)
    (hstart : ∀ {id call}, calls id = some call → call.phase = .start → s.calls id = some call)
    (hfresh : ∀ id, s.next ≤ id → calls id = none) :
    Inv ⟨caches', broadcast netid removed calls, s.next⟩ where
  sound := hsound
  distinct n := (h.distinct n).sublist ((hremoves.sub n).map _)
  owned n ri hri := (howned n ri hri).broadcast netid removed
  waiting {id call' r b} hcall' hphase := by
    obtain ⟨call, hcall, rfl⟩ := map_eq_some_iff.mp hcall'
    rcases signal_cases call netid removed with ⟨hsame, hkept⟩ | ⟨ri, b', hold, hsignal⟩
    · rw [hsame] at hphase ⊢
      obtain ⟨hkey, hmem⟩ := h.waiting (hwait hcall hphase) hphase
      refine ⟨hkey, fun hb => hremoves.kept _ r (hmem hb) fun heq => ?_⟩
      exact hkept r b hphase heq
    · rw [hsignal] at hphase ⊢
      cases hphase
      exact ⟨(h.waiting (hwait hcall hold) hold).1, fun hb => by cases hb⟩
  sized {id call'} hcall' hphase := by
    obtain ⟨call, hcall, rfl⟩ := map_eq_some_iff.mp hcall'
    rcases signal_cases call netid removed with ⟨hsame, -⟩ | ⟨ri, b', -, hsignal⟩
    · rw [hsame] at hphase ⊢
      exact h.sized (hstart hcall hphase) hphase
    · rw [hsignal] at hphase
      cases hphase
  fresh id hid := by simp [broadcast, hfresh id hid]

theorem removes_nil {old new : Nat → List PendingReqInfo} (h : new = old) (netid : Nat) :
    Removes old new netid [] := by
  subst h
  exact ⟨fun m => List.Sublist.refl _, fun m ri hri _ => hri⟩

theorem eraseP_cases {α : Type*} (p : α → Bool) (l : List α) : l.find? p = none ∧ l.eraseP p = l ∨
      ∃ as x bs, l.find? p = some x ∧ l = as ++ x :: bs ∧ l.eraseP p = as ++ bs := by
  rcases exists_or_eq_self_of_eraseP p l with hsame | ⟨x, as, bs, hno, hx, hsplit, herase⟩
  · exact .inl ⟨List.find?_eq_none.mpr (eraseP_eq_self_iff.mp hsame), hsame⟩
  · refine .inr ⟨as, x, bs, List.find?_eq_some_iff_append.mpr ⟨hx, as, bs, hsplit, ?_⟩, hsplit,
      herase⟩
    simpa using hno

section

variable (h : Notifies caches caches' netid query)
include h

theorem Notifies.eq_eraseP (hkey : entryInitKey query = some key) :
    requests caches' netid = (requests caches netid).eraseP fun ri => ri.hash = key.hash := by
  have hnetid := h netid
  simpa [hkey] using hnetid

theorem Notifies.eq_of_ne {m : Nat}
    (hm : m ≠ netid ∨ entryInitKey query = none) : requests caches' m = requests caches m := by
  have hnetid := h m
  rcases hm with hm | hkey
  · rwa [if_neg hm] at hnetid
  · simpa [hkey] using hnetid

theorem Notifies.removes :
    Removes (requests caches) (requests caches') netid (notified caches netid query) := by
  refine ⟨fun m => ?_, fun m ri hri hkept => ?_⟩
  · by_cases hm : m = netid
    · subst hm
      cases hkey : entryInitKey query with
      | none => rw [h.eq_of_ne (.inr hkey)]
      | some key =>
        rw [h.eq_eraseP hkey]
        exact eraseP_sublist
    · rw [h.eq_of_ne (.inl hm)]
  · by_cases hm : m = netid
    · subst hm
      cases hkey : entryInitKey query with
      | none => rwa [h.eq_of_ne (.inr hkey)]
      | some key =>
        have hnot := hkept rfl
        simp only [notified, hkey, mem_toList] at hnot
        rw [h.eq_eraseP hkey]
        rcases eraseP_cases (fun ri => ri.hash = key.hash) (requests caches m) with
          ⟨-, herase⟩ | ⟨as, x, bs, hfind, hsplit, herase⟩
        · rwa [herase]
        · rw [herase]
          rw [hfind] at hnot
          rw [hsplit] at hri
          simp only [mem_append, mem_cons] at hri ⊢
          tauto
    · rwa [h.eq_of_ne (.inl hm)]

theorem Notifies.hash_ne (hdistinct : ((requests caches netid).map PendingReqInfo.hash).Nodup)
    (hkey : entryInitKey query = some key) (hri : ri ∈ requests caches' netid) :
    ri.hash ≠ key.hash := by
  rw [h.eq_eraseP hkey] at hri
  intro heq
  rcases eraseP_cases (fun ri => ri.hash = key.hash) (requests caches netid) with
    ⟨hfind, herase⟩ | ⟨as, x, bs, hfind, hsplit, herase⟩
  · rw [herase] at hri
    have hnot := List.find?_eq_none.mp hfind ri hri
    simp [heq] at hnot
  · have hxhash : x.hash = key.hash := by simpa using List.find?_some hfind
    rw [herase] at hri
    rw [hsplit, map_append, map_cons, nodup_middle, nodup_cons, ← map_append] at hdistinct
    exact hdistinct.1 (mem_map.mpr ⟨ri, hri, heq.trans hxhash.symm⟩)

end

/-! ## Steps -/

theorem inv_init : Inv init where
  sound n c hc := by cases hc
  distinct n := nodup_nil
  owned n ri hri := by cases hri
  waiting hcall := by cases hcall
  sized hcall := by cases hcall
  fresh id _ := rfl

theorem update_cases {x : Option Sender} {c : Sender} (h : update calls id x i = some c) :
    i = id ∧ x = some c ∨ i ≠ id ∧ calls i = some c := by
  by_cases hid : i = id
  · rw [hid, update_self] at h
    exact .inl ⟨hid, h⟩
  · rw [update_of_ne hid] at h
    exact .inr ⟨hid, h⟩

theorem goto_cases {phase : Phase} {c : Sender} (h : s.goto id call phase i = some c) :
    i = id ∧ c = { call with phase := phase } ∨ i ≠ id ∧ s.calls i = some c := by
  rcases update_cases h with ⟨hid, hc⟩ | hother
  · exact .inl ⟨hid, (Option.some.inj hc).symm⟩
  · exact .inr hother

theorem Inv.fresh_goto (h : Inv s) (hcall : s.calls id = some call) (phase : Phase)
    (hi : s.next ≤ i) : s.goto id call phase i = none := by
  have hid : i ≠ id := by
    rintro rfl
    rw [h.fresh i hi] at hcall
    cases hcall
  rw [State.goto, update_of_ne hid]
  exact h.fresh i hi

/-- A call goes on, and the requests stay as they are. -/
theorem Inv.goto (h : Inv s) (hcall : s.calls id = some call) (hsound : AllSound caches')
    (hreqs : requests caches' = requests s.caches) {phase : Phase}
    (hown : ∀ n, ∀ ri ∈ requests s.caches n, Performing (s.goto id call phase) n ri)
    (hwait : ∀ ri b, phase = .waiting ri b → (entryInitKey call.query).isSome ∧
      (b = false → ri ∈ requests s.caches call.statp.netid)) (hstart : phase ≠ .start) :
    Inv ⟨caches', s.goto id call phase, s.next⟩ where
  sound := hsound
  distinct n := by
    rw [hreqs]
    exact h.distinct n
  owned n ri hri := by
    rw [hreqs] at hri
    exact hown n ri hri
  waiting {i c ri b} hi hphase := by
    rw [hreqs]
    rcases goto_cases hi with ⟨-, rfl⟩ | ⟨-, hi⟩
    · exact hwait ri b hphase
    · exact h.waiting hi hphase
  sized {i c} hi hphase := by
    rcases goto_cases hi with ⟨-, rfl⟩ | ⟨-, hi⟩
    · exact absurd hphase hstart
    · exact h.sized hi hphase
  fresh i hi := h.fresh_goto hcall phase hi

theorem events_settle (hsize : hfixedsz ≤ call.anssiz) (env : Env) :
    ∃ e ∈ call.events (.miss .notfound) env, e.settles = true := by
  obtain ⟨todo, htrace, hsets⟩ := resNsend_settles
    { env with cacheLookup := (.notfound, 0) } call.statp
    ⟨call.query.length, call.anssiz, call.noRetry⟩ call.rcode hsize rfl
  have htodo : call.events (.miss .notfound) env = todo := by
    exact (congrArg (List.drop 1) htrace).trans rfl
  rwa [htodo]

section

variable (h : Inv s)
include h

theorem Inv.lookup (parser : NsParser) (hcall : s.calls id = some call)
    (hphase : call.phase = .start) (alloc : Bool) (now : TimeT) (env : Env) :
    ∃ s', step parser (.lookup id alloc now env) s = some s' ∧ Inv s' := by
  obtain ⟨r, sys, hlook, hsound, hlooks⟩ :=
    lookup_looks h.sound call.statp.netid call.query call.anssiz call.flags id alloc now
  have hother : ∀ n, ∀ ri ∈ requests s.caches n, ri.owner ≠ id := fun n ri hri =>
    (h.owned n ri hri).owner_ne hcall (by simp [hphase])
  cases hlooks with
  | @returned r sys hreqs =>
    refine ⟨⟨sys.caches, s.goto id call (.running (call.events r env)), s.next⟩,
      by simp only [step, hcall, hphase, hlook],
      h.goto hcall hsound hreqs (fun n ri hri => ?_) (by simp) (by simp)⟩
    exact (h.owned n ri hri).update (hother n ri hri) _
  | @requested key sys hkey hflags hnew hreqs =>
    refine ⟨⟨sys.caches, s.goto id call (.running (call.events (.miss .notfound) env)), s.next⟩,
      by simp only [step, hcall, hphase, hlook], hsound, fun n => ?_,
      fun n ri hri => ?_, fun {i c ri b} hi hwait => ?_, fun {i c} hi hstart => ?_,
      fun i hi => h.fresh_goto hcall _ hi⟩
    · -- The new request is the only one with its hash.
      rw [hreqs n]
      split
      · rw [map_append, nodup_append]
        refine ⟨h.distinct _, by simp, fun x hx y hy heq => ?_⟩
        obtain ⟨ri, hri, rfl⟩ := mem_map.mp hx
        have hy' : y = key.hash := by simpa using hy
        exact hnew ri hri (heq.trans hy')
      · exact h.distinct n
    · rw [hreqs n] at hri
      have hcases : ri ∈ requests s.caches n ∨ n = call.statp.netid ∧ ri = ⟨key.hash, id⟩ := by
        split at hri
        · rename_i heq
          rcases mem_append.mp hri with hold | hown
          · exact .inl (heq ▸ hold)
          · exact .inr ⟨heq, mem_singleton.mp hown⟩
        · exact .inl hri
      rcases hcases with hold | ⟨rfl, rfl⟩
      · exact (h.owned n ri hold).update (hother n ri hold) _
      exact ⟨{ call with phase := .running (call.events (.miss .notfound) env) }, _, key,
        update_self .., rfl, rfl, hkey, rfl, hflags,
        events_settle (h.sized hcall hphase) env⟩
    · rcases goto_cases hi with ⟨-, rfl⟩ | ⟨-, hi⟩
      · cases hwait
      obtain ⟨hk, hmem⟩ := h.waiting hi hwait
      refine ⟨hk, fun hb => ?_⟩
      rw [hreqs]
      split
      · next heq => exact mem_append_left _ (heq ▸ hmem hb)
      · exact hmem hb
    · rcases goto_cases hi with ⟨-, rfl⟩ | ⟨-, hi⟩
      · cases hstart
      · exact h.sized hi hstart
  | @waits key ri sys w hkey hri hreqs hwaiting hreq =>
    refine ⟨⟨sys.caches, s.goto id call (.waiting w.request false), s.next⟩,
      by simp only [step, hcall, hphase, hlook, hwaiting],
      h.goto hcall hsound hreqs (fun n r hr => ?_) (fun r b hr => ?_) (by simp)⟩
    · exact (h.owned n r hr).update (hother n r hr) _
    · cases hr
      exact ⟨by simp [hkey], fun _ => hreq ▸ hri⟩

theorem Inv.wake (parser : NsParser) (hcall : s.calls id = some call) {b : Bool}
    (hphase : call.phase = .waiting ri b) (now : TimeT) (env : Env) :
    ∃ s', step parser (.wake id now env) s = some s' ∧ Inv s' := by
  obtain ⟨key, hkey⟩ := isSome_iff_exists.mp (h.waiting hcall hphase).1
  obtain ⟨r, sys, hwake, hsound, hreqs⟩ :=
    wake_requests h.sound ⟨call.statp.netid, key, call.anssiz, ri⟩ now
  refine ⟨⟨sys.caches, s.goto id call (.running (call.events r env)), s.next⟩,
    by simp only [step, hcall, hphase, hkey, hwake],
    h.goto hcall hsound hreqs (fun n r hr => ?_) (by simp) (by simp)⟩
  exact (h.owned n r hr).update ((h.owned n r hr).owner_ne hcall (by simp [hphase])) _

theorem Inv.skip (hcall : s.calls id = some call) {e : Event}
    (hphase : call.phase = .running (e :: todo)) (he : e.settles = false) :
    Inv { s with calls := s.goto id call (.running todo) } := by
  refine h.goto hcall h.sound rfl (fun n ri hri => ?_) (by simp) (by simp)
  by_cases hown : ri.owner = id
  · obtain ⟨todo', key, hrunning, hnetid, hkey, hhash, hflags, d, hd, hsets⟩ :=
      (h.owned n ri hri).of_call (hown ▸ hcall)
    rw [hphase] at hrunning
    cases hrunning
    refine ⟨{ call with phase := .running todo }, todo, key, ?_, rfl, hnetid, hkey, hhash, hflags,
      d, ?_, hsets⟩
    · rw [State.goto, hown, update_self]
    · refine (mem_cons.mp hd).resolve_left ?_
      rintro rfl
      rw [he] at hsets
      cases hsets
  · exact (h.owned n ri hri).update hown _

/-- An event that notifies the cache, or would if the call had left a request. -/
theorem Inv.settle (hcall : s.calls id = some call) (todo : List Event)
    (hsound : AllSound caches') {removed : List PendingReqInfo}
    (hremoves : Removes (requests s.caches) (requests caches') call.statp.netid removed)
    (hown : ∀ key, entryInitKey call.query = some key → noCache call.flags = false →
      ∀ ri ∈ requests caches' call.statp.netid, ri.hash ≠ key.hash) :
    Inv ⟨caches', broadcast call.statp.netid removed (s.goto id call (.running todo)), s.next⟩ := by
  refine h.remove hsound hremoves (fun n ri hri => ?_) (fun {i c r b} hi hwait => ?_)
    (fun {i c} hi hstart => ?_) fun i hi => ?_
  · have hperforming := h.owned n ri ((hremoves.sub n).subset hri)
    refine hperforming.update ?_ _
    -- A request of this call would have the hash that was removed.
    intro howner
    obtain ⟨todo', key, -, rfl, hkey, hhash, hflags, -⟩ := hperforming.of_call (howner ▸ hcall)
    exact hown key hkey hflags ri hri hhash.symm
  · rcases goto_cases hi with ⟨-, rfl⟩ | ⟨-, hi⟩
    · cases hwait
    · exact hi
  · rcases goto_cases hi with ⟨-, rfl⟩ | ⟨-, hi⟩
    · cases hstart
    · exact hi
  · exact h.fresh_goto hcall _ hi

/-- An event of a call after its lookup. -/
theorem Inv.event (parser : NsParser) (hcall : s.calls id = some call) {e : Event}
    (hphase : call.phase = .running (e :: todo)) (answer : List Byte) (block : Option Nat)
    (now now' : TimeT) :
    ∃ s', step parser (.event id answer block now now') s = some s' ∧ Inv s' := by
  have hstep : step parser (.event id answer block now now') s =
      performEvent parser s id call e todo answer block now now' := by
    simp only [step, hcall, hphase]
  rw [hstep]
  cases e with
  | cacheAdd resplen =>
    obtain ⟨sys, hadd, hsound, hnotifies⟩ :=
      add_notifies parser h.sound call.statp.netid call.query answer block now now'
    refine ⟨_, by simp only [performEvent, hadd, bind_eq_bind, bind_some],
      h.settle hcall todo hsound hnotifies.removes fun key hkey _ ri hri => ?_⟩
    exact hnotifies.hash_ne (h.distinct _) hkey hri
  | cacheQueryFailed =>
    refine ⟨_, rfl, ?_⟩
    cases hflags : noCache call.flags with
    | false =>
      obtain ⟨hsound, hnotifies⟩ := queryFailed_notifies h.sound call.statp.netid call.query hflags
      refine h.settle hcall todo hsound hnotifies.removes fun key hkey _ ri hri => ?_
      exact hnotifies.hash_ne (h.distinct _) hkey hri
    | true =>
      have hsame : (resolvCacheQueryFailed ⟨s.caches, []⟩ call.statp.netid call.query
          call.flags).caches = s.caches := by
        have hflags' : (call.flags.noCacheStore || call.flags.noCacheLookup) = true := hflags
        simp [resolvCacheQueryFailed, hflags']
      have hsound : AllSound (resolvCacheQueryFailed ⟨s.caches, []⟩ call.statp.netid
          call.query call.flags).caches := by
        rw [hsame]
        exact h.sound
      refine h.settle hcall todo hsound (removes_nil (by rw [hsame]) _) fun key _ hno => ?_
      rw [hflags] at hno
      cases hno
  | cacheLookup status | populate | resTlsSend c | sendVc ns | sendDg ns
  | addSample revisionId ns now rcode delay | resNclose => exact ⟨_, rfl, h.skip hcall hphase rfl⟩

theorem Inv.leave (parser : NsParser) (hcall : s.calls id = some call)
    (hphase : call.phase = .running []) : ∃ s', step parser (.leave id) s = some s' ∧ Inv s' := by
  refine ⟨{ s with calls := update s.calls id none },
    by simp only [step, hcall, hphase], h.sound, h.distinct, fun n ri hri => ?_,
    fun {i c r b} hi hwait => ?_, fun {i c} hi hstart => ?_, fun i hi => ?_⟩
  · refine (h.owned n ri hri).update ?_ _
    intro hown
    obtain ⟨todo, key, hrunning, -, -, -, -, e, he, -⟩ := (h.owned n ri hri).of_call (hown ▸ hcall)
    rw [hphase] at hrunning
    cases hrunning
    cases he
  · rcases update_cases hi with ⟨-, hc⟩ | ⟨-, hi⟩
    · cases hc
    · exact h.waiting hi hwait
  · rcases update_cases hi with ⟨-, hc⟩ | ⟨-, hi⟩
    · cases hc
    · exact h.sized hi hstart
  · show update s.calls id none i = none
    by_cases hid : i = id
    · rw [hid, update_self]
    · rw [update_of_ne hid]
      exact h.fresh i hi

theorem Inv.enter (statp : ResState) (query : List Byte) (anssiz : Nat) (flags : Flags)
    (noRetry : Bool) (rcode : Nat) :
    ∃ s', step parser (.enter statp query anssiz flags noRetry rcode) s = some s' ∧ Inv s' := by
  refine ⟨_, rfl, h.sound, h.distinct, fun n ri hri => ?_, fun {i c r b} hi hwait => ?_,
    fun {i c} hi hstart => ?_, fun i hi => ?_⟩
  · refine (h.owned n ri hri).update ?_ _
    intro hown
    obtain ⟨owner, todo, key, howner, -⟩ := h.owned n ri hri
    rw [hown, h.fresh s.next (le_refl _)] at howner
    cases howner
  · rcases update_cases hi with ⟨-, hc⟩ | ⟨-, hi⟩
    · cases hc
      split at hwait <;> cases hwait
    · exact h.waiting hi hwait
  · rcases update_cases hi with ⟨-, hc⟩ | ⟨-, hi⟩
    · cases hc
      split at hstart
      · cases hstart
      · next hsize => exact not_lt.mp hsize
    · exact h.sized hi hstart
  · have hi' : s.next + 1 ≤ i := hi
    show update s.calls s.next _ i = none
    rw [update_of_ne (by omega)]
    exact h.fresh i (by omega)

theorem Inv.delete (netid : Nat) : ∃ s', step parser (.delete netid) s = some s' ∧ Inv s' := by
  obtain ⟨sys, hdel, hsound, hreqs⟩ := delete_requests h.sound netid
  refine ⟨⟨sys.caches, broadcast netid (requests s.caches netid) s.calls, s.next⟩,
    by simp only [step, hdel, bind_eq_bind, bind_some],
    h.remove hsound ⟨fun m => ?_, fun m ri hri hkept => ?_⟩ (fun n ri hri => ?_)
      (fun hi _ => hi) (fun hi _ => hi) h.fresh⟩
  · rw [hreqs m]
    split
    · exact nil_sublist _
    · exact List.Sublist.refl _
  · rw [hreqs m]
    split
    · next heq => exact absurd (heq ▸ hri) (hkept heq)
    · exact hri
  · rw [hreqs n] at hri
    split at hri
    · cases hri
    · exact h.owned n ri hri

theorem Inv.create (netid : Nat) : ∃ s', step parser (.create netid) s = some s' ∧ Inv s' := by
  obtain ⟨hsound, hreqs⟩ := create_requests h.sound netid
  refine ⟨_, rfl, hsound, fun n => ?_, fun n ri hri => ?_, fun hi hwait => ?_, h.sized, h.fresh⟩
  · rw [hreqs]
    exact h.distinct n
  · rw [hreqs] at hri
    exact h.owned n ri hri
  · rw [hreqs]
    exact h.waiting hi hwait

theorem Inv.step {a : Action} (hstep : step parser a s = some s') : Inv s' := by
  have hres : ∀ {t : State}, PendingRequests.step parser a s = some t ∧ Inv t → Inv s' := by
    rintro t ⟨ht, hinv⟩
    rw [hstep] at ht
    cases ht
    exact hinv
  cases a with
  | create netid => exact hres (h.create netid).choose_spec
  | delete netid => exact hres (h.delete netid).choose_spec
  | enter statp query anssiz flags noRetry rcode =>
    exact hres (h.enter statp query anssiz flags noRetry rcode).choose_spec
  | lookup id alloc now env =>
    cases hcall : s.calls id with
    | none => simp [PendingRequests.step, hcall] at hstep
    | some call =>
      cases hphase : call.phase with
      | start => exact hres (h.lookup parser hcall hphase alloc now env).choose_spec
      | waiting ri b | running todo => simp [PendingRequests.step, hcall, hphase] at hstep
  | wake id now env =>
    cases hcall : s.calls id with
    | none => simp [PendingRequests.step, hcall] at hstep
    | some call =>
      cases hphase : call.phase with
      | start => simp [PendingRequests.step, hcall, hphase] at hstep
      | waiting ri b => exact hres (h.wake parser hcall hphase now env).choose_spec
      | running todo => simp [PendingRequests.step, hcall, hphase] at hstep
  | event id answer block now now' =>
    cases hcall : s.calls id with
    | none => simp [PendingRequests.step, hcall] at hstep
    | some call =>
      cases hphase : call.phase with
      | start | waiting ri b => simp [PendingRequests.step, hcall, hphase] at hstep
      | running todo =>
        cases todo with
        | nil => simp [PendingRequests.step, hcall, hphase] at hstep
        | cons e todo =>
          exact hres (h.event parser hcall hphase answer block now now').choose_spec
  | leave id =>
    cases hcall : s.calls id with
    | none => simp [PendingRequests.step, hcall] at hstep
    | some call =>
      cases hphase : call.phase with
      | start | waiting ri b => simp [PendingRequests.step, hcall, hphase] at hstep
      | running todo =>
        cases todo with
        | nil => exact hres (h.leave parser hcall hphase).choose_spec
        | cons e todo => simp [PendingRequests.step, hcall, hphase] at hstep

theorem Inv.progress (hcall : s.calls id = some call) :
    ∃ a s', a.caller = some id ∧ PendingRequests.step parser a s = some s' := by
  cases hphase : call.phase with
  | start =>
    obtain ⟨s', hs', -⟩ := h.lookup parser hcall hphase true 0 (truncating .off)
    exact ⟨_, s', rfl, hs'⟩
  | waiting ri b =>
    obtain ⟨s', hs', -⟩ := h.wake parser hcall hphase 0 (truncating .off)
    exact ⟨_, s', rfl, hs'⟩
  | running todo =>
    cases todo with
    | nil =>
      obtain ⟨s', hs', -⟩ := h.leave parser hcall hphase
      exact ⟨_, s', rfl, hs'⟩
    | cons e todo =>
      obtain ⟨s', hs', -⟩ := h.event parser hcall hphase [] none 0 0
      exact ⟨_, s', rfl, hs'⟩

end

/-- In every interleaving of calls of `res_nsend` with the creation and deletion of caches: a cache
has at most one request for each hash; a request belongs to a call that still notifies the cache
with that query; a call that waits unsignalled waits for such a request; and every call can go
on. -/
theorem no_orphaned_request {h : List Action}
    (hrun : Lts.Run (step parser) (fun _ _ => True) init h s) :
    (∀ n c, s.caches.find? n = some c →
      (c.pendingRequests.map PendingReqInfo.hash).Nodup ∧
      ∀ ri ∈ c.pendingRequests, Performing s.calls n ri) ∧
    (∀ id call ri, s.calls id = some call → call.phase = .waiting ri false →
      Performing s.calls call.statp.netid ri) ∧
    (∀ id call, s.calls id = some call → ∃ a s', a.caller = some id ∧ step parser a s = some s') ∧
    ∀ (env : Env) (statp : ResState) (query : ResSend.Query) (rcode : Nat),
      hfixedsz ≤ query.anssiz → env.cacheLookup.1 = .notfound →
      ∃ todo, (resNsend env statp query rcode).2.trace = .cacheLookup .notfound :: todo ∧
        ∃ e ∈ todo, e.settles = true := by
  have hinv : Inv s := Lts.Run.invariant (I := fun _ s => Inv s) inv_init
    (fun hs _ hstep => hs.step hstep) hrun
  refine ⟨fun n c hc => ?_, fun id call ri hcall hphase => ?_, fun id call hcall => ?_,
    resNsend_settles⟩
  · have hreqs := requests_of_find? hc
    have hdistinct := hinv.distinct n
    have howned := hinv.owned n
    rw [hreqs] at hdistinct howned
    exact ⟨hdistinct, howned⟩
  · exact hinv.owned _ ri ((hinv.waiting hcall hphase).2 rfl)
  · exact hinv.progress hcall

/-- A second call with the same query waits for the request of the first one. -/
theorem no_orphaned_request_two_calls :
    ∃ s call ri, Lts.Run (step sampleParser) (fun _ _ => True) init
        [.lookup 1 true 1000 (truncating .off),
          .enter freshState (sampleQuery 9) 512 ⟨false, false⟩ false 0,
          .lookup 0 true 1000 (truncating .off),
          .enter freshState (sampleQuery 7) 512 ⟨false, false⟩ false 0,
          .create 100] s ∧
      s.calls 1 = some call ∧ call.phase = .waiting ri false ∧ ri.owner = 0 ∧
      Performing s.calls call.statp.netid ri := by
  let as : List Action :=
    [.create 100, .enter freshState (sampleQuery 7) 512 ⟨false, false⟩ false 0,
      .lookup 0 true 1000 (truncating .off),
      .enter freshState (sampleQuery 9) 512 ⟨false, false⟩ false 0,
      .lookup 1 true 1000 (truncating .off)]
  have hwaits : ((Lts.exec (step sampleParser) (fun _ _ => True) as init).bind fun s =>
      (s.calls 1).bind fun call =>
        match call.phase with
        | .waiting ri false => some ri.owner
        | _ => none) = some 0 := by decide +kernel
  obtain ⟨s, hs, hcalls⟩ := bind_eq_some_iff.mp hwaits
  obtain ⟨call, hcall, hphase⟩ := bind_eq_some_iff.mp hcalls
  have hrun := Lts.Run.start.exec as hs
  split at hphase
  · rename_i ri hri
    exact ⟨s, call, ri, hrun, hcall, hri, Option.some.inj hphase,
      (no_orphaned_request hrun).2.1 1 call ri hcall hri⟩
  · cases hphase

end PendingRequests

end Netd
