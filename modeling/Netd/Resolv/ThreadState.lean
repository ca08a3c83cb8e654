import Netd.Resolv.Nameservers
import Netd.Resolv.ResSend

/-!
# The resolver state of a thread

A thread has one `res_state`, which every lookup on it uses again. A lookup puts its network
context into the state (`resSetnetcontext`), and takes the servers and the search domains of its
network from the shared configuration (`resolvPopulateResForNet`). Of the past of a thread it
sees the following.

* Both flags of the context are only ever set.
* A network without a configuration leaves the servers and the search list of an earlier lookup in
  place.
* The search list is a list of pointers into `defdname`. Taking the domains of a network writes
  no end, so the pointers of a longer list stay and point into the new domains.
* If a server rejects a query with EDNS0, `RES_F_EDNS0ERR` is set in `_flags` and stays, and queries
  with EDNS0 that fail are then sent again without it. The other flags are those of the socket.
-/

namespace Netd.ThreadState

open Nameservers List ResSend Option

/-- What `res_vinit` reads of the host: the host name, and the options in `RES_OPTIONS`. -/
structure Host where
  /-- The result of `gethostname`, if it succeeds. -/
  hostname : Option (List Byte)
  rotate : Bool
  edns0 : Bool
  /-- `attempts`, or `RES_DFLRETRY`. -/
  retry : Nat

/-- The fields of `android_net_context` that are read. -/
structure NetContext where
  dnsNetid : Nat
  dnsMark : Nat
  /-- `NET_CONTEXT_FLAG_USE_LOCAL_NAMESERVERS` -/
  useLocalNameservers : Bool
  /-- `NET_CONTEXT_FLAG_USE_EDNS` -/
  useEdns : Bool

/-- `struct __res_state`: what `res_nsend` reads, `RES_USE_EDNS0` and `RES_USE_DNSSEC`, and the
search list, as offsets in `defdname`. -/
structure ResState extends ResSend.ResState where
  useEdns0 : Bool
  useDnssec : Bool
  defdname : List Byte
  dnsrch : List (Option Nat)
  /-- `RES_F_EDNS0ERR` -/
  edns0Error : Bool

/-! ## The first lookup of a thread -/

def dot : Byte := 46

def hostDomain (host : Host) : List Byte :=
  match host.hostname with
  | some name => (name.dropWhile (· ≠ dot)).drop 1
  | none => []

/-- The loop of `res_vinit` over the parents of the default domain, which has `dots` dots
left, from offset `cp` on. -/
def parentDomains (defdname : List Byte) : Nat → Nat → Nat → List Nat
  | 0, _, _ => []
  | places + 1, cp, dots =>
    if dots < 2 then []
    else
      let parent := cp + ((defdname.drop cp).takeWhile (· ≠ dot)).length + 1
      parent :: parentDomains defdname places parent (dots - 1)

/-- A list of pointers with null pointers after it, in the `MAXDNSRCH + 1` places. -/
def padded (offsets : List Nat) : List (Option Nat) :=
  offsets.map some ++ List.replicate (maxdnsrch + 1 - offsets.length) none

/-- `res_ninit`, on the zeroed memory of a new thread. -/
def resNinit (host : Host) : ResState where
  netid := 0
  mark := 0
  useVc := false
  stayOpen := false
  rotate := host.rotate
  blast := false
  retry := host.retry
  useLocalNameserver := false
  -- `INADDR_ANY`, port 53
  nsaddrs := [.inet ⟨13568, 0⟩]
  useEdns0 := host.edns0
  useDnssec := false
  defdname := hostDomain host ++ List.replicate (maxdnsrchpath - (hostDomain host).length) 0
  dnsrch := padded (0 :: parentDomains (hostDomain host) 2 0 ((hostDomain host).count dot))
  edns0Error := false

def resGetState (host : Host) (thread : Option ResState) : ResState := thread.getD (resNinit host)

/-! ## What a lookup changes -/

def resSetnetcontext (ctx : NetContext) (st : ResState) : ResState :=
  let st := { st with netid := ctx.dnsNetid, mark := ctx.dnsMark }
  let st := if ctx.useEdns then { st with useEdns0 := true, useDnssec := true } else st
  if ctx.useLocalNameservers then { st with useLocalNameserver := true } else st

def copiedOffsets (info : CacheInfo) : List Nat := info.dnsrchOffset.take maxdnsrch

def resolvPopulateResForNet (infos : Infos) (st : ResState) : ResState :=
  match infos.find? st.netid with
  | some info =>
    { st with
      nsaddrs := populateNsaddrs infos st.netid st.nsaddrs
      defdname := info.defdname
      dnsrch := (copiedOffsets info).map some ++ st.dnsrch.drop (copiedOffsets info).length }
  | none => st

/-- After it has set the context, a lookup takes the configuration, which may have changed,
`res_nsend` may rotate the servers, and a server may reject EDNS0. -/
inductive Change where
  | populate (infos : Infos)
  | rotate
  | rejectEdns0

def Change.apply : Change → ResState → ResState
  | .populate infos, st => resolvPopulateResForNet infos st
  | .rotate, st => { st with toResState := rotated st.toResState }
  | .rejectEdns0, st => { st with edns0Error := true }

def Change.rejects : Change → Bool
  | .rejectEdns0 => true
  | _ => false

structure Lookup where
  ctx : NetContext
  changes : List Change

def Lookup.run (host : Host) (thread : Option ResState) (l : Lookup) : ResState :=
  l.changes.foldl (fun st change => change.apply st)
    (resSetnetcontext l.ctx (resGetState host thread))

def threadAfter (host : Host) (past : List Lookup) : Option ResState :=
  past.foldl (fun thread l => some (l.run host thread)) none

/-- The state that a lookup uses: its context is set and its network's configuration
taken. -/
def stateFor (host : Host) (infos : Infos) (ctx : NetContext) (past : List Lookup) : ResState :=
  resolvPopulateResForNet infos (resSetnetcontext ctx (resGetState host (threadAfter host past)))

/-! ## What a state has an influence on -/

def cString (buf : List Byte) (offset : Nat) : List Byte := (buf.drop offset).takeWhile (· ≠ 0)

/-- The domains that `res_nsearch` goes through: up to the null pointer. -/
def searchList (st : ResState) : List (List Byte) :=
  ((st.dnsrch.takeWhile Option.isSome).filterMap id).map (cString st.defdname)

/-- What decides on what is sent and to whom. -/
structure Influence where
  /-- The nameservers and their number, the netid, the mark, the options that `res_nsend`
  reads, and `use_local_nameserver`. -/
  statp : ResSend.ResState
  searchList : List (List Byte)
  useEdns0 : Bool
  useDnssec : Bool
  edns0Error : Bool

def influence (st : ResState) : Influence :=
  ⟨st.toResState, searchList st, st.useEdns0, st.useDnssec, st.edns0Error⟩

/-! ## What the past leaves -/

/-- The options of `res_nsend`, which nothing changes after `res_ninit`. -/
def sendOptions (statp : ResSend.ResState) : Bool × Bool × Bool × Bool × Nat :=
  (statp.useVc, statp.stayOpen, statp.rotate, statp.blast, statp.retry)

/-- The state of a thread on which EDNS and the local nameservers have been asked for or not, EDNS0
has been rejected or not, and no lookup has taken more than `k` search domains. -/
structure Leaves (host : Host) (edns localNameservers rejected : Bool) (k : Nat) (st : ResState) :
    Prop where
  options : sendOptions st.toResState = sendOptions (resNinit host).toResState
  useLocalNameserver : st.useLocalNameserver = localNameservers
  useEdns0 : st.useEdns0 = (host.edns0 || edns)
  useDnssec : st.useDnssec = edns
  dnsrch : st.dnsrch.drop k = (resNinit host).dnsrch.drop k
  edns0Error : st.edns0Error = rejected

variable {host : Host} {edns localNameservers rejected : Bool} {k : Nat} {st : ResState}

section Setnetcontext

variable (ctx : NetContext) (st : ResState)

@[simp] theorem resSetnetcontext_netid : (resSetnetcontext ctx st).netid = ctx.dnsNetid := by
  simp only [resSetnetcontext]
  split <;> split <;> rfl

@[simp] theorem resSetnetcontext_mark : (resSetnetcontext ctx st).mark = ctx.dnsMark := by
  simp only [resSetnetcontext]
  split <;> split <;> rfl

@[simp] theorem resSetnetcontext_options :
    sendOptions (resSetnetcontext ctx st).toResState = sendOptions st.toResState := by
  simp only [resSetnetcontext]
  split <;> split <;> rfl

@[simp] theorem resSetnetcontext_dnsrch : (resSetnetcontext ctx st).dnsrch = st.dnsrch := by
  simp only [resSetnetcontext]
  split <;> split <;> rfl

@[simp] theorem resSetnetcontext_edns0Error :
    (resSetnetcontext ctx st).edns0Error = st.edns0Error := by
  simp only [resSetnetcontext]
  split <;> split <;> rfl

@[simp] theorem resSetnetcontext_useLocalNameserver : (resSetnetcontext ctx st).useLocalNameserver =
      (st.useLocalNameserver || ctx.useLocalNameservers) := by
  simp only [resSetnetcontext]
  split <;> split <;> simp [*]

@[simp] theorem resSetnetcontext_useEdns0 :
    (resSetnetcontext ctx st).useEdns0 = (st.useEdns0 || ctx.useEdns) := by
  simp only [resSetnetcontext]
  split <;> split <;> simp [*]

@[simp] theorem resSetnetcontext_useDnssec :
    (resSetnetcontext ctx st).useDnssec = (st.useDnssec || ctx.useEdns) := by
  simp only [resSetnetcontext]
  split <;> split <;> simp [*]

end Setnetcontext

/-- A flag of the context is added to those before. -/
theorem Leaves.resSetnetcontext (h : Leaves host edns localNameservers rejected k st)
    (ctx : NetContext) :
    Leaves host (edns || ctx.useEdns) (localNameservers || ctx.useLocalNameservers) rejected k
      (resSetnetcontext ctx st) where
  options := by simp [h.options]
  useLocalNameserver := by simp [h.useLocalNameserver]
  useEdns0 := by simp [h.useEdns0, Bool.or_assoc]
  useDnssec := by simp [h.useDnssec]
  dnsrch := by simp [h.dnsrch]
  edns0Error := by simp [h.edns0Error]

/-- Every configuration that the lookup takes has at most `k` search domains. -/
def Change.AtMost (netid k : Nat) : Change → Prop
  | .populate infos => ∀ info ∈ infos.find? netid, (copiedOffsets info).length ≤ k
  | _ => True

section

variable (statp : ResSend.ResState)

theorem rotated_options : sendOptions (rotated statp) = sendOptions statp := by
  rw [rotated]
  split <;> rfl

theorem rotated_useLocalNameserver :
    (rotated statp).useLocalNameserver = statp.useLocalNameserver := by
  rw [rotated]
  split <;> rfl

theorem rotated_netid : (rotated statp).netid = statp.netid := by
  rw [rotated]
  split <;> rfl

end

theorem Change.apply_netid (change : Change) (st : ResState) :
    (change.apply st).netid = st.netid := by
  cases change with
  | populate infos =>
    simp only [Change.apply, resolvPopulateResForNet]
    split <;> rfl
  | rotate => exact rotated_netid st.toResState
  | rejectEdns0 => rfl

theorem drop_overwrite {α : Type*} (new old : List α) (h : new.length ≤ k) :
    (new ++ old.drop new.length).drop k = old.drop k := by
  rw [drop_append, drop_of_length_le h, nil_append, drop_drop]
  congr 1
  omega

theorem Leaves.change (h : Leaves host edns localNameservers rejected k st) {change : Change}
    (hmost : change.AtMost st.netid k) :
    Leaves host edns localNameservers (rejected || change.rejects) k (change.apply st) := by
  cases change with
  | populate infos =>
    simp only [Change.apply, Change.rejects, Bool.or_false, resolvPopulateResForNet]
    split
    · rename_i info hinfo
      have hlen : ((copiedOffsets info).map some).length ≤ k := by
        simpa using hmost info hinfo
      have hdrop := drop_overwrite ((copiedOffsets info).map some) st.dnsrch hlen
      rw [length_map] at hdrop
      exact ⟨h.options, h.useLocalNameserver, h.useEdns0, h.useDnssec, hdrop.trans h.dnsrch,
        h.edns0Error⟩
    · exact h
  | rotate =>
    exact ⟨(rotated_options st.toResState).trans h.options,
      (rotated_useLocalNameserver st.toResState).trans h.useLocalNameserver, h.useEdns0,
      h.useDnssec, h.dnsrch, h.edns0Error.trans (Bool.or_false _).symm⟩
  | rejectEdns0 =>
    exact ⟨h.options, h.useLocalNameserver, h.useEdns0, h.useDnssec, h.dnsrch,
      (Bool.or_true _).symm⟩

theorem Leaves.changes (h : Leaves host edns localNameservers rejected k st) {netid : Nat}
    (hnetid : st.netid = netid) {changes : List Change}
    (hmost : ∀ change ∈ changes, change.AtMost netid k) :
    Leaves host edns localNameservers (rejected || changes.any Change.rejects) k
      (changes.foldl (fun st change => change.apply st) st) := by
  induction changes generalizing st rejected with
  | nil => simpa using h
  | cons change changes ih =>
    have hfirst : change.AtMost st.netid k := hnetid ▸ hmost change mem_cons_self
    have hrest := ih (h.change hfirst) ((change.apply_netid st).trans hnetid)
      (fun c hc => hmost c (mem_cons_of_mem _ hc))
    simpa [Bool.or_assoc] using hrest

/-- No configuration that the lookup has taken has more than `k` search domains. -/
def Lookup.AtMost (k : Nat) (l : Lookup) : Prop :=
  ∀ change ∈ l.changes, change.AtMost l.ctx.dnsNetid k

theorem Leaves.run {thread : Option ResState}
    (h : Leaves host edns localNameservers rejected k (resGetState host thread)) {l : Lookup}
    (hmost : l.AtMost k) :
    Leaves host (edns || l.ctx.useEdns) (localNameservers || l.ctx.useLocalNameservers)
      (rejected || l.changes.any Change.rejects) k (l.run host thread) :=
  (h.resSetnetcontext l.ctx).changes (resSetnetcontext_netid _ _) hmost

def askedEdns (past : List Lookup) : Bool := past.any fun l => l.ctx.useEdns

def askedLocal (past : List Lookup) : Bool := past.any fun l => l.ctx.useLocalNameservers

def metRejection (past : List Lookup) : Bool := past.any fun l => l.changes.any Change.rejects

theorem leaves_foldl (past : List Lookup) (thread : Option ResState)
    (h : Leaves host edns localNameservers rejected k (resGetState host thread))
    (hmost : ∀ l ∈ past, l.AtMost k) :
    Leaves host (edns || askedEdns past) (localNameservers || askedLocal past)
      (rejected || metRejection past) k
      (resGetState host (past.foldl (fun thread l => some (l.run host thread)) thread)) := by
  induction past generalizing thread edns localNameservers rejected with
  | nil => simpa [askedEdns, askedLocal, metRejection] using h
  | cons l past ih =>
    have hrun := h.run (hmost l mem_cons_self)
    have hrest := ih (some (l.run host thread)) hrun
      (fun l' hl' => hmost l' (mem_cons_of_mem _ hl'))
    simpa [askedEdns, askedLocal, metRejection, Bool.or_assoc] using hrest

theorem leaves_threadAfter (host : Host) {past : List Lookup} (hmost : ∀ l ∈ past, l.AtMost k) :
    Leaves host (askedEdns past) (askedLocal past) (metRejection past) k
      (resGetState host (threadAfter host past)) := by
  have h := leaves_foldl past none (⟨rfl, rfl, (Bool.or_false _).symm, rfl, rfl, rfl⟩ :
    Leaves host false false false k (resNinit host)) hmost
  exact h

/-! ## Lookups on a thread with a past -/

/-- The influence of a state that has taken the configuration of its network. -/
def configured (host : Host) (info : CacheInfo) (netid mark : Nat)
    (edns localNameservers rejected : Bool) : Influence where
  statp :=
    { (resNinit host).toResState with
      netid := netid
      mark := mark
      nsaddrs := info.nsaddrinfo.take maxns
      useLocalNameserver := localNameservers }
  searchList :=
    ((((copiedOffsets info).map some ++
      (resNinit host).dnsrch.drop (copiedOffsets info).length).takeWhile Option.isSome).filterMap
        id).map (cString info.defdname)
  useEdns0 := host.edns0 || edns
  useDnssec := edns
  edns0Error := rejected

theorem statp_eq {statp statp' : ResSend.ResState} (h : sendOptions statp = sendOptions statp') :
    statp = { statp' with
      netid := statp.netid
      mark := statp.mark
      nsaddrs := statp.nsaddrs
      useLocalNameserver := statp.useLocalNameserver } := by
  obtain ⟨netid, mark, useVc, stayOpen, rotate, blast, retry, localNameserver, nsaddrs⟩ := statp
  obtain ⟨rfl, rfl, rfl, rfl, rfl⟩ := h
  rfl

theorem influence_populate {info : CacheInfo} {infos : Infos}
    (h : Leaves host edns localNameservers rejected (copiedOffsets info).length st)
    (hinfo : infos.find? st.netid = some info) :
    influence (resolvPopulateResForNet infos st) =
      configured host info st.netid st.mark edns localNameservers rejected := by
  rw [resolvPopulateResForNet, hinfo]
  simp only [influence, configured, Influence.mk.injEq]
  refine ⟨?_, ?_, h.useEdns0, h.useDnssec, h.edns0Error⟩
  · rw [statp_eq h.options, h.useLocalNameserver, populateNsaddrs, hinfo]
  · rw [searchList, h.dnsrch]

/-- A configuration with one server and the search domains of a string. -/
def sampleInfos (netid : Nat) (domains : List Byte) : Infos :=
  (resolvSetNameserversForNet true (fun _ => some (.inet ⟨13568, 16908480⟩)) .empty netid
    ["192.0.2.1"] domains none).infos

def sampleHost : Host := ⟨some [110, 101, 116, 100], false, false, 2⟩

def twoDomains : List Byte := [97, 32, 98]

def oneDomain : List Byte := [99, 111, 114, 112]

end Netd.ThreadState
