import Netd.Resolv.Nameservers
import Netd.Resolv.Cleartext

/-!
# Whose samples are stored

Any number of calls of `res_nsend` run at once, together with changes of the nameservers and
deletions of networks. A call takes the servers of its network in one section under the lock, the
revision of the samples in a later one, and writes each sample in another one.

The revision grows with every change of the servers.
-/

namespace Netd.SampleCredits

open Nameservers List Option ResSend CacheInfo OrdMap Trace
open ResSend (Event Env ResState Query CacheStatus AtServer rotated opening)

/-! ## Concurrent calls -/

/-- How far a call of `res_nsend` has come. -/
inductive Phase where
  /-- Before its lookup in the cache. -/
  | start
  /-- After a lookup that makes it take the servers of the network. -/
  | missed (status : CacheStatus)
  /-- Before it reads the revision. -/
  | ready (status : CacheStatus)
  /-- With the events to go, and `max_samples` as it was read. -/
  | running (maxSamples : Byte) (todo : List Event)

/-- A call of `res_nsend` that has not returned, with the last server it has sent to. -/
structure Nsend where
  statp : ResState
  query : Query
  rcode : Nat
  phase : Phase
  contacted : Option SockaddrStorage

/-- A sample that was stored: where, for which server, and the servers at that time. -/
structure Credit where
  netid : Nat
  ns : Nat
  contacted : Option SockaddrStorage
  nsaddrinfo : List SockaddrStorage
  deriving DecidableEq

structure State where
  infos : Infos
  calls : OrdMap Nat Nsend
  stored : List Credit

def init : State := ⟨.empty, .empty, []⟩

inductive Action where
  | set (netid : Nat) (servers : List String) (domains : List Byte) (params : Option ResParams)
  | delete (netid : Nat)
  | enter (id : Nat) (statp : ResState) (query : Query) (rcode : Nat)
  | lookup (id : Nat) (status : CacheStatus)
  | populate (id : Nat)
  | readStats (id : Nat) (env : Env) (params : ResParams)
  | event (id : Nat)
  | leave (id : Nat)

/-- The servers are known. Without any the call fails at once. -/
def afterServers (statp : ResState) (status : CacheStatus) : Phase :=
  if statp.nsaddrs = [] then .running 0 [.cacheQueryFailed] else .ready status

/-- The outside of a call that has found its servers and the revision. -/
def envAfter (env : Env) (statp : ResState) (status : CacheStatus) (revisionId : Int) : Env :=
  { env with
    cacheLookup := (status, env.cacheLookup.2)
    populate := fun _ => statp.nsaddrs
    stats := Function.update env.stats 0 (revisionId, (env.stats 0).2) }

def eventsAfter (call : Nsend) (env : Env) (status : CacheStatus) (revisionId : Int) : List Event :=
  (resNsend (envAfter env call.statp status revisionId) call.statp call.query
    call.rcode).2.trace.drop (if status = .unsupported then 1 else 2)

def Nsend.serverOf (call : Nsend) : Event → Option SockaddrStorage
  | .sendVc ns => (rotated call.statp).nsaddrs[ns]?
  | .sendDg ns => (rotated call.statp).nsaddrs[ns]?
  | _ => call.contacted

def performEvent (s : State) (call : Nsend) (maxSamples : Byte) : Event → Infos × List Credit
  | .addSample revisionId ns now rcode delay =>
    let netid := call.statp.netid
    (resolvCacheAddResolverStatsSample s.infos netid revisionId ns
      (resStatsSetSample now rcode delay) maxSamples,
      match sampleTarget s.infos netid revisionId maxSamples with
      | some info => ⟨netid, ns, call.contacted, info.nsaddrinfo⟩ :: s.stored
      | none => s.stored)
  | _ => (s.infos, s.stored)

def State.put (s : State) (id : Nat) (call : Nsend) : State :=
  { s with calls := s.calls.insert id call }

def step (getaddrinfoNumeric : String → Option SockaddrStorage) (a : Action) (s : State) :
    Option State :=
  match a with
  | .set netid servers domains params =>
    some { s with
      infos := (resolvSetNameserversForNet true getaddrinfoNumeric s.infos netid servers domains
        params).infos }
  | .delete netid => some { s with infos := resolvDeleteCacheForNet s.infos netid }
  | .enter id statp query rcode =>
    -- An answer buffer that is too small is refused before the lookup.
    let phase := if query.anssiz < hfixedsz then Phase.running 0 [] else .start
    if s.calls.contains id then none else some (s.put id ⟨statp, query, rcode, phase, none⟩)
  | .lookup id status =>
    match s.calls.find? id with
    | some call =>
      match call.phase with
      | .start =>
        let phase := match status with
          | .found => .running 0 []
          | .unsupported => afterServers call.statp .unsupported
          | status => .missed status
        some (s.put id { call with phase := phase })
      | _ => none
    | none => none
  | .populate id =>
    match s.calls.find? id with
    | some call =>
      match call.phase with
      | .missed status =>
        let nsaddrs := populateNsaddrs s.infos call.statp.netid call.statp.nsaddrs
        let statp := { call.statp with nsaddrs := nsaddrs }
        some (s.put id { call with statp := statp, phase := afterServers statp status })
      | _ => none
    | none => none
  | .readStats id env params =>
    match s.calls.find? id with
    | some call =>
      match call.phase with
      | .ready status =>
        let (revisionId, params) := resolvCacheGetResolverStats s.infos call.statp.netid params
        some (s.put id { call with
          phase := .running params.maxSamples (eventsAfter call env status revisionId) })
      | _ => none
    | none => none
  | .event id =>
    match s.calls.find? id with
    | some call =>
      match call.phase with
      | .running maxSamples (e :: todo) =>
        let (infos, stored) := performEvent s call maxSamples e
        let call := { call with
          phase := .running maxSamples todo, contacted := call.serverOf e }
        some ⟨infos, s.calls.insert id call, stored⟩
      | _ => none
    | none => none
  | .leave id =>
    match s.calls.find? id with
    | some call =>
      match call.phase with
      | .running _ [] => some { s with calls := s.calls.erase id }
      | _ => none
    | none => none

/-! ## Where samples are written -/

/-- What precedes an event of a call that has read a revision. -/
def Fits (revision : Int) (n : Nat) (pre : List Event) : Event → Prop
  | .addSample revisionId ns _ _ _ => revisionId = revision ∧ ns < n ∧ AtServer ns pre
  | _ => True

variable {revision : Int} {e : Event} {infos : Infos} {ns : Nat} {status : CacheStatus}
  {todo : List Event} {pre : List Event}

theorem fits_quiet {n : Nat} (he : e.isQuiet = true) : Fits revision n pre e := by
  cases e with
  | addSample _ _ _ _ _ => cases he
  | _ => trivial

theorem fits_contact {n : Nat} (he : e.contacts ns = true) : Fits revision n pre e := by
  cases e with
  | addSample _ _ _ _ _ => cases he
  | _ => trivial

theorem emits_fits (revision : Int) (n : Nat) (pre : List Event) :
    ResSend.Emits revision n fun t => pre <+: t ∧ Trace.Each (Fits revision n) t where
  quiet h he := ⟨h.1.trans (prefix_append _ _), h.2.snoc (fits_quiet he)⟩
  tls _ h := ⟨h.1.trans (prefix_append _ _), h.2.snoc trivial⟩
  contact h he := ⟨h.1.trans (prefix_append _ _), h.2.snoc (fits_contact he)⟩
  sample _ _ _ h hns hlast := ⟨h.1.trans (prefix_append _ _), h.2.snoc ⟨rfl, hns, hlast⟩⟩

theorem not_atServer_snoc {t : List Event} (he : e.isQuiet = true) : ¬ AtServer ns (t ++ [e]) := by
  intro hat
  have hcontacts := of_ends_snoc hat
  cases e with
  | sendVc _ | sendDg _ => cases he
  | _ => cases hcontacts

section

variable (status : CacheStatus)

theorem not_atServer_opening (ns : Nat) : ¬ AtServer ns (opening status) := by
  rw [opening]
  split
  · exact not_atServer_snoc (t := []) rfl
  · exact not_atServer_snoc (t := [.cacheLookup status]) rfl

theorem each_fits_opening (revision : Int) (n : Nat) :
    Trace.Each (Fits revision n) (opening status) := by
  have hlook : Trace.Each (Fits revision n) ([] ++ [.cacheLookup status]) := each_nil.snoc trivial
  rw [opening]
  split
  · exact hlook
  · exact hlook.snoc trivial

theorem length_opening : (opening status).length = if status = .unsupported then 1 else 2 := by
  rw [opening]
  split
  · rfl
  · rfl

end

/-- The events after the revision was read: each sample has it and comes right after a query to its
server. -/
theorem eventsAfter_fits (call : Nsend) (env : Env) (revisionId : Int)
    (hsize : ¬ call.query.anssiz < hfixedsz) (hfound : status ≠ .found)
    (hservers : call.statp.nsaddrs ≠ []) :
    Trace.Each (Fits revisionId (rotated call.statp).nsaddrs.length)
      (opening status ++ eventsAfter call env status revisionId) := by
  have hsame : populated (envAfter env call.statp status revisionId) call.statp =
      call.statp := by
    rw [populated]
    split <;> rfl
  have hsend := resNsend_of_miss (envAfter env call.statp status revisionId) call.statp
    call.query call.rcode hsize hfound
  rw [hsame, if_neg hservers] at hsend
  have hrev : ((envAfter env call.statp status revisionId).stats 0).1 = revisionId := by
    simp [envAfter]
  have hemits := emits_fits revisionId (rotated call.statp).nsaddrs.length (opening status)
  rw [← hrev] at hemits
  obtain ⟨retryTimes, hret⟩ := sendToServers_returned
    (envAfter env call.statp status revisionId) call.statp
    (envAfter env call.statp status revisionId).cacheLookup.1 call.query
    (opened (envAfter env call.statp status revisionId) call.statp call.query call.rcode)
  have hfits := hret.emits hemits ⟨prefix_rfl, each_fits_opening _ _ _⟩
  rw [hrev, ← hsend] at hfits
  obtain ⟨⟨todo, htodo⟩, hfits⟩ := hfits
  rw [eventsAfter, ← length_opening status, ← htodo, drop_left, htodo]
  exact hfits

/-! ## The servers of a network and their revision -/

def servers (infos : Infos) (netid : Nat) : Option (Int × List SockaddrStorage) :=
  (infos.find? netid).map fun info => (info.revisionId, info.nsaddrinfo)

theorem servers_insert (infos : Infos) (n : Nat) (info : CacheInfo) (m : Nat) :
    servers (infos.insert n info) m =
      if m = n then some (info.revisionId, info.nsaddrinfo) else servers infos m := by
  rw [servers, find?_insert]
  split
  · rfl
  · rfl

theorem servers_delete (infos : Infos) (n m : Nat) :
    servers (resolvDeleteCacheForNet infos n) m = if m = n then none else servers infos m := by
  rw [servers, resolvDeleteCacheForNet, find?_erase]
  split
  · rfl
  · rfl

/-- A sample leaves the servers and the revision as they are. -/
theorem servers_addSample (infos : Infos) (netid : Nat) (revisionId : Int) (ns : Nat)
    (sample : ResSample) (maxSamples m : Nat) :
    servers (resolvCacheAddResolverStatsSample infos netid revisionId ns sample maxSamples) m =
      servers infos m := by
  rw [resolvCacheAddResolverStatsSample]
  split
  · rename_i info htarget
    have hfind : infos.find? netid = some info := by
      rw [sampleTarget] at htarget
      split at htarget
      · cases htarget
      · exact (filter_eq_some_iff.mp htarget).1
    rw [servers_insert]
    split
    · next heq => rw [heq, servers, hfind, map_some]
    · rfl
  · rfl

theorem nextRevision_revisionId (info : CacheInfo) (hnonneg : 0 ≤ info.revisionId)
    (hlt : info.revisionId + 1 < 2 ^ 31) : info.nextRevision.revisionId = info.revisionId + 1 := by
  simp only [nextRevision, Int.bmod]
  omega

/-- A change of the configuration keeps the servers and the revision, or the revision
grows. -/
theorem setNameservers_revision (info : CacheInfo) (hnonneg : 0 ≤ info.revisionId)
    (hlt : info.revisionId + 2 < 2 ^ 31) (names : List String)
    (nsaddrinfo : List SockaddrStorage) (domains : List Byte) (params : Option ResParams) :
    ((info.setNameservers names nsaddrinfo domains params).revisionId = info.revisionId ∧
      (info.setNameservers names nsaddrinfo domains params).nsaddrinfo = info.nsaddrinfo) ∨
    info.revisionId < (info.setNameservers names nsaddrinfo domains params).revisionId := by
  let given := { info with params := params.getD resolvSetDefaultParams }
  have hnext : info.revisionId + 1 < 2 ^ 31 := by omega
  have hfreed : given.freeNameservers.revisionId = info.revisionId + 1 :=
    nextRevision_revisionId _ hnonneg hnext
  simp only [setNameservers, setNameserversOwning, setDomains]
  split
  · right
    -- freeing the old servers counts once, and setting the new ones once more
    have hset := nextRevision_revisionId
      (clearStats { given.freeNameservers with
        nsaddrinfo := nsaddrinfo, nameservers := names })
      (by rw [clearStats, hfreed]; omega) (by rw [clearStats, hfreed]; omega)
    rw [hset, clearStats, hfreed]
    omega
  · split
    · right
      have hcleared := nextRevision_revisionId given.clearStats hnonneg hnext
      rw [hcleared]
      exact Int.lt_succ _
    · exact .inl ⟨rfl, rfl⟩

/-- What the servers of a network become when it is configured. -/
theorem servers_set (getaddrinfoNumeric : String → Option SockaddrStorage) {netid : Nat}
    (hnonneg : ∀ info ∈ infos.find? netid, 0 ≤ info.revisionId)
    (hlt : ∀ info ∈ infos.find? netid, info.revisionId + 2 < 2 ^ 31) (names : List String)
    (domains : List Byte) (params : Option ResParams) (m : Nat) :
    let infos' :=
      (resolvSetNameserversForNet true getaddrinfoNumeric infos netid names domains params).infos
    servers infos' m = servers infos m ∨
    ∃ revision list, servers infos' m = some (revision, list) ∧ 0 ≤ revision ∧
      ∀ old, servers infos m = some old → old.1 < revision := by
  intro infos'
  simp only [infos', resolvSetNameserversForNet]
  split
  · exact .inl rfl
  split
  · exact .inl rfl
  rename_i nsaddrinfo _
  rw [if_neg (by simp)]
  have hset (info : CacheInfo) : (info.setNameserversOwning names nsaddrinfo domains params).1 =
    info.setNameservers names nsaddrinfo domains params := rfl
  simp only [servers_insert, hset]
  by_cases hm : m = netid
  · subst hm
    simp only [if_true]
    cases hfind : infos.find? m with
    | none =>
      right
      refine ⟨_, _, rfl, ?_, ?_⟩
      · rcases setNameservers_revision .create (by decide) (by decide) names
          nsaddrinfo domains params with ⟨hsame, -⟩ | hgrown
        · rw [getD_none, hsame]
          decide
        · exact hgrown.le
      · intro old hold
        rw [servers, hfind] at hold
        cases hold
    | some info =>
      rw [getD_some]
      have hinfo : servers infos m = some (info.revisionId, info.nsaddrinfo) := by
        rw [servers, hfind, map_some]
      have hbound := hnonneg info hfind
      rcases setNameservers_revision info hbound (hlt info hfind) names nsaddrinfo domains
        params with ⟨hrev, hsame⟩ | hgrown
      · left
        rw [hrev, hsame, hinfo]
      · right
        refine ⟨_, _, rfl, hbound.trans hgrown.le, ?_⟩
        intro old hold
        rw [hinfo] at hold
        cases hold
        exact hgrown
  · left
    rw [if_neg hm]

/-! ## The invariant -/

def isSample : Event → Bool
  | .addSample _ _ _ _ _ => true
  | _ => false

/-- Samples with this revision are dropped, or the servers they are about are the current
ones. -/
def Guarded (current : Option (Int × List SockaddrStorage)) (revision : Int)
    (nsaddrs : List SockaddrStorage) : Prop :=
  match current with
  | none => revision = -1
  | some (revisionId, list) => revision ≤ revisionId ∧ (revision = revisionId → nsaddrs = list)

/-- A call that still has samples to write. -/
structure Tracks (infos : Infos) (call : Nsend) (revision : Int) (done todo : List Event) :
    Prop where
  fits : Trace.Each (Fits revision (rotated call.statp).nsaddrs.length) (done ++ todo)
  contacted : ∀ ns, AtServer ns done → call.contacted = (rotated call.statp).nsaddrs[ns]?
  guarded : Guarded (servers infos call.statp.netid) revision (rotated call.statp).nsaddrs

def Phased (infos : Infos) (call : Nsend) : Prop :=
  match call.phase with
  | .start => ¬ call.query.anssiz < hfixedsz
  | .missed status => ¬ call.query.anssiz < hfixedsz ∧ status ≠ .found
  | .ready status =>
    ¬ call.query.anssiz < hfixedsz ∧ status ≠ .found ∧ call.statp.nsaddrs ≠ []
  | .running _ todo =>
    (∃ e ∈ todo, isSample e = true) → ∃ revision done, Tracks infos call revision done todo

/-- A stored sample was measured against the server it is stored for. -/
def Credit.Right (c : Credit) : Prop :=
  ∃ server, c.contacted = some server ∧ c.nsaddrinfo[c.ns]? = some server

structure Inv (s : State) : Prop where
  nonneg : ∀ n current, servers s.infos n = some current → 0 ≤ current.1
  phased : ∀ id call, s.calls.find? id = some call → Phased s.infos call
  credited : ∀ c ∈ s.stored, c.Right

/-- The condition on the steps. -/
def Careful (s : State) : Action → Prop
  | .set netid _ _ _ => ∀ info ∈ s.infos.find? netid, info.revisionId + 2 < 2 ^ 31
  | .delete netid => ∀ entry ∈ s.calls.entries, entry.2.statp.netid = netid →
      match entry.2.phase with
      | .running _ todo => ∀ e ∈ todo, isSample e = false
      | _ => True
  | .readStats id _ _ => ∀ call ∈ s.calls.find? id, ∀ info ∈ s.infos.find? call.statp.netid,
      (rotated call.statp).nsaddrs = info.nsaddrinfo
  | _ => True

instance Careful.decidable (s : State) (a : Action) : Decidable (Careful s a) :=
  match a with
  | .set netid _ _ _ => inferInstanceAs
      (Decidable (∀ info ∈ s.infos.find? netid, info.revisionId + 2 < 2 ^ 31))
  | .delete netid =>
    have (entry : Nat × Nsend) : Decidable (match entry.2.phase with
        | .running _ todo => ∀ e ∈ todo, isSample e = false
        | _ => True) :=
      match entry.2.phase with
      | .running _ todo => inferInstanceAs (Decidable (∀ e ∈ todo, isSample e = false))
      | .start => .isTrue trivial
      | .missed _ => .isTrue trivial
      | .ready _ => .isTrue trivial
    inferInstanceAs (Decidable (∀ entry ∈ s.calls.entries, entry.2.statp.netid = netid → _))
  | .readStats id _ _ => inferInstanceAs (Decidable (∀ call ∈ s.calls.find? id,
      ∀ info ∈ s.infos.find? call.statp.netid, (rotated call.statp).nsaddrs = info.nsaddrinfo))
  | .enter _ _ _ _ => .isTrue trivial
  | .lookup _ _ => .isTrue trivial
  | .populate _ => .isTrue trivial
  | .event _ => .isTrue trivial
  | .leave _ => .isTrue trivial

theorem inv_init : Inv init where
  nonneg n current h := by cases h
  phased id call h := by cases h
  credited c h := by cases h

variable {getaddrinfoNumeric : String → Option SockaddrStorage} {s s' : State} {id : Nat}
  {call : Nsend} {done : List Event} {revisionId : Int}

theorem phased_afterServers (call : Nsend) (statp : ResState) (status : CacheStatus)
    (hsize : ¬ call.query.anssiz < hfixedsz) (hfound : status ≠ .found) :
    Phased infos { call with statp := statp, phase := afterServers statp status } := by
  rw [afterServers]
  split
  · rintro ⟨e, he, hsample⟩
    rw [mem_singleton.mp he] at hsample
    cases hsample
  · next hservers => exact ⟨hsize, hfound, hservers⟩

theorem Inv.put (h : Inv s) (hcall : Phased s.infos call) : Inv (s.put id call) where
  nonneg := h.nonneg
  phased := forall_insert h.phased hcall
  credited := h.credited

section

variable (hcall : s.calls.find? id = some call)
include hcall

theorem Inv.lookup (h : Inv s) (hphase : call.phase = .start) (status : CacheStatus) :
    Inv (s.put id { call with
      phase := match status with
        | .found => .running 0 []
        | .unsupported => afterServers call.statp .unsupported
        | status => .missed status }) := by
  have hsize := h.phased id call hcall
  simp only [Phased, hphase] at hsize
  apply h.put
  cases status with
  | found =>
    rintro ⟨e, he, -⟩
    cases he
  | unsupported => exact phased_afterServers call call.statp .unsupported hsize (by decide)
  | notfound | skip => exact ⟨hsize, by decide⟩

theorem Inv.populate (h : Inv s) (hphase : call.phase = .missed status) (statp : ResState) :
    Inv (s.put id { call with statp := statp, phase := afterServers statp status }) := by
  have hmiss := h.phased id call hcall
  simp only [Phased, hphase] at hmiss
  exact h.put (phased_afterServers call statp status hmiss.1 hmiss.2)

/-- The call reads the revision while its servers are the current ones. -/
theorem Inv.readStats (h : Inv s)
    (hphase : call.phase = .ready status) (hcurrent : ∀ info ∈ s.infos.find? call.statp.netid,
      (rotated call.statp).nsaddrs = info.nsaddrinfo) (env : Env) (params : ResParams)
    (maxSamples : Byte) :
    Inv (s.put id { call with
      phase := .running maxSamples (eventsAfter call env status
        (resolvCacheGetResolverStats s.infos call.statp.netid params).1) }) := by
  have hready := h.phased id call hcall
  simp only [Phased, hphase] at hready
  obtain ⟨hsize, hfound, hservers⟩ := hready
  refine h.put fun _ => ⟨_, opening status, eventsAfter_fits call env _ hsize hfound hservers,
    fun ns hat => absurd hat (not_atServer_opening status ns), ?_⟩
  simp only [servers, resolvCacheGetResolverStats]
  cases hfind : s.infos.find? call.statp.netid with
  | none => rfl
  | some info => exact ⟨le_rfl, fun _ => hcurrent info hfind⟩

end

/-- A change of the records that keeps the guard of a call with samples to write. -/
theorem Phased.mono {infos' : Infos} (h : Phased infos call)
    (hguard : ∀ maxSamples todo, call.phase = .running maxSamples todo →
      (∃ e ∈ todo, isSample e = true) → ∀ revision nsaddrs,
      Guarded (servers infos call.statp.netid) revision nsaddrs →
        Guarded (servers infos' call.statp.netid) revision nsaddrs) : Phased infos' call := by
  unfold Phased at h ⊢
  split
  · next hphase => simpa only [hphase] using h
  · next hphase => simpa only [hphase] using h
  · next hphase => simpa only [hphase] using h
  rename_i maxSamples todo hphase
  simp only [hphase] at h
  intro hsample
  obtain ⟨revision, done, htracks⟩ := h hsample
  exact ⟨revision, done, htracks.fits, htracks.contacted,
    hguard maxSamples todo hphase hsample _ _ htracks.guarded⟩

/-- A later revision takes no sample of an earlier one. -/
theorem Guarded.grow {current : Option (Int × List SockaddrStorage)}
    {nsaddrs : List SockaddrStorage} (h : Guarded current revision nsaddrs)
    (hnonneg : 0 ≤ revisionId) (hgrown : ∀ old, current = some old → old.1 < revisionId)
    (list : List SockaddrStorage) : Guarded (some (revisionId, list)) revision nsaddrs := by
  have hlt : revision < revisionId := by
    cases current with
    | none =>
      have hnone : revision = -1 := h
      omega
    | some old => exact lt_of_le_of_lt h.1 (hgrown old rfl)
  exact ⟨hlt.le, fun heq => absurd heq hlt.ne⟩

theorem Inv.set (h : Inv s) (netid : Nat) (names : List String) (domains : List Byte)
    (params : Option ResParams) (hlt : ∀ info ∈ s.infos.find? netid, info.revisionId + 2 < 2 ^ 31) :
    Inv { s with
      infos := (resolvSetNameserversForNet true getaddrinfoNumeric s.infos netid names domains
        params).infos } := by
  have hnonneg : ∀ info ∈ s.infos.find? netid, 0 ≤ info.revisionId := by
    intro info hinfo
    exact h.nonneg netid (info.revisionId, info.nsaddrinfo)
      (by rw [servers, mem_def.mp hinfo, map_some])
  have hset := servers_set getaddrinfoNumeric hnonneg hlt names domains params
  constructor
  · intro n current hcurrent
    rcases hset n with hsame | ⟨revision, list, hnew, hpos, -⟩
    · exact h.nonneg n current (hsame ▸ hcurrent)
    rw [hnew] at hcurrent
    cases hcurrent
    exact hpos
  · intro id call hcall
    refine (h.phased id call hcall).mono fun _ _ _ _ revision nsaddrs hguarded => ?_
    rcases hset call.statp.netid with hsame | ⟨revisionId, list, hnew, hpos, hgrown⟩
    · rwa [hsame]
    · rw [hnew]
      exact hguarded.grow hpos hgrown list
  · exact h.credited

theorem Inv.delete (h : Inv s) (netid : Nat) (hcare : Careful s (.delete netid)) :
    Inv { s with infos := resolvDeleteCacheForNet s.infos netid } := by
  constructor
  · intro n current hcurrent
    rw [servers_delete] at hcurrent
    split at hcurrent
    · cases hcurrent
    · exact h.nonneg n current hcurrent
  · intro id call hcall
    refine (h.phased id call hcall).mono fun maxSamples todo hphase hsample _ _ hguarded => ?_
    rw [servers_delete]
    split
    · rename_i hnetid
      have hdone := hcare (id, call) (find?_eq_some.mp hcall) hnetid
      simp only [hphase] at hdone
      obtain ⟨e, he, hsample⟩ := hsample
      rw [hdone e he] at hsample
      cases hsample
    · exact hguarded
  · exact h.credited

/-- A sample that is not dropped comes from a query to the server with that number of the current
list. -/
theorem Tracks.right {now rcode delay : Nat}
    (h : Tracks infos call revision done (.addSample revisionId ns now rcode delay :: todo))
    {maxSamples : Nat} {info : CacheInfo}
    (htarget : sampleTarget infos call.statp.netid revisionId maxSamples = some info) :
    Credit.Right ⟨call.statp.netid, ns, call.contacted, info.nsaddrinfo⟩ := by
  obtain ⟨hrev, hns, hat⟩ := h.fits done _ todo rfl
  have hfind : infos.find? call.statp.netid = some info ∧ info.revisionId = revisionId := by
    rw [sampleTarget] at htarget
    split at htarget
    · cases htarget
    · simpa using filter_eq_some_iff.mp htarget
  have hguarded := h.guarded
  rw [servers, hfind.1] at hguarded
  have hlist : (rotated call.statp).nsaddrs = info.nsaddrinfo :=
    hguarded.2 (by rw [← hrev, hfind.2])
  refine ⟨(rotated call.statp).nsaddrs[ns], ?_, ?_⟩
  · rw [h.contacted ns hat, List.getElem?_eq_getElem hns]
  · show info.nsaddrinfo[ns]? = _
    rw [← hlist, List.getElem?_eq_getElem hns]

theorem servers_performEvent (s : State) (call : Nsend) (maxSamples : Byte) (e : Event) (m : Nat) :
    servers (performEvent s call maxSamples e).1 m = servers s.infos m := by
  cases e with
  | addSample revisionId ns now rcode delay => exact servers_addSample _ _ _ _ _ _ _
  | _ => rfl

theorem serverOf_contacted (h : Tracks infos call revision done (e :: todo)) (ns : Nat)
    (hat : AtServer ns (done ++ [e])) : call.serverOf e = (rotated call.statp).nsaddrs[ns]? := by
  have hcontacts := of_ends_snoc hat
  cases e with
  | sendVc m | sendDg m => rw [Nsend.serverOf, of_decide_eq_true hcontacts]
  | _ => cases hcontacts

theorem Inv.event (h : Inv s) (hcall : s.calls.find? id = some call) {maxSamples : Byte}
    (hphase : call.phase = .running maxSamples (e :: todo)) :
    Inv ⟨(performEvent s call maxSamples e).1, s.calls.insert id { call with
        phase := .running maxSamples todo, contacted := call.serverOf e },
      (performEvent s call maxSamples e).2⟩ := by
  have hphased := h.phased id call hcall
  simp only [Phased, hphase] at hphased
  constructor
  · intro n current hcurrent
    rw [servers_performEvent] at hcurrent
    exact h.nonneg n current hcurrent
  · intro i c hc
    rw [find?_insert] at hc
    split at hc
    · cases hc
      rintro ⟨d, hd, hsample⟩
      obtain ⟨revision, done, htracks⟩ := hphased ⟨d, mem_cons_of_mem _ hd, hsample⟩
      refine ⟨revision, done ++ [e], ?_, serverOf_contacted htracks, ?_⟩
      · simpa using htracks.fits
      · rw [servers_performEvent]
        exact htracks.guarded
    · refine (h.phased i c hc).mono fun _ _ _ _ revision nsaddrs hguarded => ?_
      rwa [servers_performEvent]
  · intro c hc
    cases e with
    | addSample revisionId ns now rcode delay =>
      simp only [performEvent] at hc
      split at hc
      · rename_i info htarget
        rcases mem_cons.mp hc with rfl | hold
        · obtain ⟨revision, done, htracks⟩ := hphased ⟨_, mem_cons_self, rfl⟩
          exact htracks.right htarget
        · exact h.credited c hold
      · exact h.credited c hc
    | _ => exact h.credited c hc

theorem Inv.leave (h : Inv s) (id : Nat) : Inv { s with calls := s.calls.erase id } where
  nonneg := h.nonneg
  phased i c hc := h.phased i c (find?_of_erase hc).2
  credited := h.credited

theorem Inv.step {a : Action} (h : Inv s) (hcare : Careful s a)
    (hstep : step getaddrinfoNumeric a s = some s') : Inv s' := by
  cases a with
  | set netid names domains params =>
    cases hstep
    exact h.set netid names domains params hcare
  | delete netid =>
    cases hstep
    exact h.delete netid hcare
  | enter id statp query rcode =>
    simp only [SampleCredits.step] at hstep
    split at hstep
    · cases hstep
    cases hstep
    apply h.put
    by_cases hsize : query.anssiz < hfixedsz
    · simp [Phased, hsize]
    · simp only [if_neg hsize]
      exact hsize
  | lookup id status =>
    simp only [SampleCredits.step] at hstep
    split at hstep
    · rename_i call hcall
      split at hstep
      · rename_i hphase
        cases hstep
        exact h.lookup hcall hphase status
      · cases hstep
    · cases hstep
  | populate id =>
    simp only [SampleCredits.step] at hstep
    split at hstep
    · rename_i call hcall
      split at hstep
      · rename_i status hphase
        cases hstep
        exact h.populate hcall hphase _
      · cases hstep
    · cases hstep
  | readStats id env params =>
    simp only [SampleCredits.step] at hstep
    split at hstep
    · rename_i call hcall
      split at hstep
      · rename_i status hphase
        cases hstep
        exact h.readStats hcall hphase (hcare call hcall) env params _
      · cases hstep
    · cases hstep
  | event id =>
    simp only [SampleCredits.step] at hstep
    split at hstep
    · rename_i call hcall
      split at hstep
      · rename_i maxSamples e todo hphase
        cases hstep
        exact h.event hcall hphase
      · cases hstep
    · cases hstep
  | leave id =>
    simp only [SampleCredits.step] at hstep
    split at hstep
    · split at hstep
      · cases hstep
        exact h.leave id
      · cases hstep
    · cases hstep

/-- In every careful interleaving of calls of `res_nsend` with changes of the nameservers and
deletions of networks, a sample stored for the `ns`-th server was measured against the `ns`-th of
the current list. -/
theorem sample_of_contacted {h : List Action}
    (hrun : Lts.Run (step getaddrinfoNumeric) Careful init h s) :
    ∀ c ∈ s.stored, ∃ server, c.contacted = some server ∧ c.nsaddrinfo[c.ns]? = some server := by
  have hinv : Inv s := Lts.Run.invariant (I := fun _ s => Inv s) inv_init
    (fun hs hcare hstep => hs.step hcare hstep) hrun
  exact hinv.credited

/-! ## A network that is configured again -/

/-- Two servers. -/
def sampleNumeric (name : String) : Option SockaddrStorage :=
  if name = "192.0.2.1" then some (.inet ⟨13568, 16908480⟩)
  else if name = "192.0.2.2" then some (.inet ⟨13568, 33685696⟩)
  else none

def sampleParams : ResParams := ⟨1800, 25, 8, 64, 0⟩

/-- A call on network 100 up to its first datagram, with `192.0.2.1` as the server. -/
def firstDatagram : List Action :=
  [.set 100 ["192.0.2.1"] [] (some sampleParams), .enter 7 freshState ⟨30, 512, false⟩ 0,
    .lookup 7 .notfound,
    .populate 7,
    .readStats 7 (truncating .off) sampleParams,
    .event 7,
    .event 7]

theorem sample_of_contacted_datagram :
    ∃ h s, Lts.Run (step sampleNumeric) Careful init h s ∧ s.stored.length = 1 ∧
      ∀ c ∈ s.stored, ∃ server, c.contacted = some server ∧ c.nsaddrinfo[c.ns]? = some server :=
  ⟨_, Lts.run_of_mem_and (firstDatagram ++ [.event 7]) (by decide +kernel) sample_of_contacted⟩

/-- The network is deleted and configured anew between the datagram and its sample, which is stored
for the new server. -/
theorem sample_of_deleted_network : ∃ h s, Lts.Run (step sampleNumeric) (fun _ _ => True) init h s ∧
      ∃ c ∈ s.stored, c.contacted = sampleNumeric "192.0.2.1" ∧
        c.nsaddrinfo[c.ns]? = sampleNumeric "192.0.2.2" :=
  ⟨_, Lts.run_of_mem (firstDatagram ++
    [.delete 100, .set 100 ["192.0.2.2"] [] (some sampleParams), .event 7]) (by decide +kernel)⟩

end Netd.SampleCredits
