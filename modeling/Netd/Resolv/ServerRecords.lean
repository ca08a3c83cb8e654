import Netd.Resolv.ResStats
import Netd.Resolv.SampleCredits

/-!
# The records of the networks over time

Changes of the nameservers, deletions of networks and additions of samples, in any order. What
holds of a new record and is kept by a change and by a sample holds of every record
(`Reached.records`).
-/

namespace Netd.Nameservers

open List Function CacheInfo OrdMap SampleCredits False

section

variable (parse : String → Option SockaddrStorage)
  (okSet : CacheInfo → List String → List Byte → Option ResParams → Prop)
  (okAdd : CacheInfo → Nat → Prop) (okDelete : Prop)

/-- The records, and those that queries have read. Samples are added with the revision and the
maximum that were read, and the calls meet the conditions. -/
inductive Sampled : Infos → List (Nat × CacheInfo) → Prop where
  | start : Sampled .empty []
  | set {infos rs} (alloc : Bool) (netid : Nat) (servers : List String) (domains : List Byte)
      (params : Option ResParams) (h : Sampled infos rs)
      (hok : okSet ((infos.find? netid).getD .create) servers domains params) :
      Sampled (resolvSetNameserversForNet alloc parse infos netid servers domains params).infos rs
  | delete {infos rs} (netid : Nat) (h : Sampled infos rs) (hok : okDelete) :
      Sampled (resolvDeleteCacheForNet infos netid) rs
  | read {infos rs netid info} (h : Sampled infos rs) (hfind : infos.find? netid = some info) :
      Sampled infos ((netid, info) :: rs)
  | add {infos rs netid old} (ns : Nat) (sample : ResSample) (h : Sampled infos rs)
      (hread : (netid, old) ∈ rs) (hok : okAdd old ns) :
      Sampled (resolvCacheAddResolverStatsSample infos netid old.revisionId ns sample
        old.params.maxSamples.val) rs

/-- Any calls. -/
abbrev Reached : Infos → List (Nat × CacheInfo) → Prop :=
  Sampled parse (fun _ _ _ _ => True) (fun _ _ => True) True

end

variable {parse : String → Option SockaddrStorage}
  {okSet : CacheInfo → List String → List Byte → Option ResParams → Prop}
  {okAdd : CacheInfo → Nat → Prop} {okDelete : Prop}
  {infos : Infos} {rs : List (Nat × CacheInfo)} {info info' : CacheInfo} {servers : List String}
  {domains : List Byte} {nsaddrinfo : List SockaddrStorage} {params : Option ResParams}
  {netid n : Nat}

/-- What a new record has and every call keeps holds of all records, and of those that were
read. -/
theorem Sampled.records {P : CacheInfo → Prop} (hcreate : P .create)
    (hset : ∀ {info servers nsaddrinfo domains params}, P info →
      okSet info servers domains params → servers.mapM parse = some nsaddrinfo →
      P (info.setNameservers servers nsaddrinfo domains params))
    (hadd : ∀ {info old ns sample}, P info → P old → okAdd old ns →
      P { info with
        nsstats := update info.nsstats ns
          ((info.nsstats ns).addSample sample old.params.maxSamples.val) })
    (h : Sampled parse okSet okAdd okDelete infos rs) :
    (∀ n info, infos.find? n = some info → P info) ∧ ∀ r ∈ rs, P r.2 := by
  induction h with
  | start => simp
  | @set infos rs alloc netid servers domains params _ hok ih =>
    refine ⟨?_, ih.2⟩
    simp only [resolvSetNameserversForNet]
    split
    · exact ih.1
    split
    · exact ih.1
    next hparsed =>
    split
    · exact ih.1
    refine forall_insert ih.1 (hset ?_ hok hparsed)
    cases hfind : infos.find? netid with
    | none => exact hcreate
    | some info => exact ih.1 netid info hfind
  | delete netid _ _ ih =>
    exact ⟨fun n info hfind => ih.1 n info (find?_of_erase hfind).2, ih.2⟩
  | read _ hfind ih =>
    refine ⟨ih.1, fun r hr => ?_⟩
    rcases mem_cons.mp hr with rfl | hr
    · exact ih.1 _ _ hfind
    · exact ih.2 r hr
  | @add infos rs netid old ns sample _ hread hok ih =>
    refine ⟨?_, ih.2⟩
    simp only [resolvCacheAddResolverStatsSample, sampleTarget]
    split
    · next info htarget =>
      split at htarget
      · cases htarget
      have hfind := (Option.filter_eq_some_iff.mp htarget).1
      exact forall_insert ih.1 (hadd (ih.1 netid info hfind) (ih.2 _ hread) hok)
    · exact ih.1

/-! ## The servers -/

/-- What a change does to a record. -/
theorem setNameservers_cases (h : info.setNameservers servers nsaddrinfo domains params = info') :
    info'.params = params.getD resolvSetDefaultParams ∧
    (info.isNameserversEqual servers = false ∧ info'.nameservers = servers ∧
        info'.nsaddrinfo = nsaddrinfo ∧
        info'.revisionId = info.nextRevision.nextRevision.revisionId ∧
        (∀ ns, info'.nsstats ns = if ns < max 1 info.nameservers.length then
          (info.nsstats ns).clear else info.nsstats ns) ∨
      info.isNameserversEqual servers = true ∧ info'.nameservers = info.nameservers ∧
        info'.nsaddrinfo = info.nsaddrinfo ∧
        (info'.params.maxSamples ≠ info.params.maxSamples ∧
            info'.revisionId = info.nextRevision.revisionId ∧
            (∀ ns, info'.nsstats ns = if ns < 1 then (info.nsstats ns).clear
              else info.nsstats ns) ∨
          info'.params.maxSamples = info.params.maxSamples ∧
            info'.revisionId = info.revisionId ∧ info'.nsstats = info.nsstats)) := by
  subst h
  have hequal : isNameserversEqual
      { info with params := params.getD resolvSetDefaultParams } servers =
      info.isNameserversEqual servers := rfl
  simp only [setNameservers, setNameserversOwning, setDomains, hequal]
  cases info.isNameserversEqual servers with
  | false =>
    simp only [Bool.not_false, if_true]
    refine ⟨rfl, .inl ⟨trivial, rfl, rfl, rfl, fun ns => ?_⟩⟩
    by_cases hns : ns = 0
    · simp only [hns, nextRevision, clearStats, freeNameservers, update_self]
      split <;> simp <;> rfl
    · simp [hns, nextRevision, clearStats, freeNameservers]
  | true =>
    simp only [Bool.not_true, Bool.false_eq_true, if_false]
    split
    · rename_i hmax
      refine ⟨rfl, .inr ⟨trivial, rfl, rfl, .inl ⟨hmax, rfl, fun ns => ?_⟩⟩⟩
      by_cases hns : ns = 0 <;> simp [hns, nextRevision, clearStats]
    · rename_i hmax
      exact ⟨rfl, .inr ⟨trivial, rfl, rfl, .inr ⟨not_not.mp hmax, rfl, rfl⟩⟩⟩

theorem Sampled.parsed (h : Sampled parse okSet okAdd okDelete infos rs) :
    ∀ n info, infos.find? n = some info → info.nameservers.mapM parse = some info.nsaddrinfo := by
  refine (h.records (P := fun info => info.nameservers.mapM parse = some info.nsaddrinfo) rfl
    (fun hinfo _ hparsed => ?_) fun hinfo _ _ => hinfo).1
  rcases (setNameservers_cases rfl).2 with ⟨-, hnames, haddrs, -⟩ | ⟨-, hnames, haddrs, -⟩
  · rw [hnames, haddrs, hparsed]
  · rw [hnames, haddrs, hinfo]

/-- The servers are those asked for, with their addresses, and each parsed address is stored or
freed once. -/
structure SetResult.Requested (r : SetResult) (parse : String → Option SockaddrStorage)
    (netid : Nat) (servers : List String) : Prop where
  names : ∀ name, name ∈ ((r.infos.find? netid).getD .create).nameservers ↔ name ∈ servers
  parsed : ((r.infos.find? netid).getD .create).nameservers.mapM parse =
    some ((r.infos.find? netid).getD .create).nsaddrinfo
  owned : r.stored ++ r.freed = range servers.length
  stored : ∀ nsaddrinfo, servers.mapM parse = some nsaddrinfo → ∀ i ∈ r.stored,
    ((r.infos.find? netid).getD .create).nsaddrinfo[i]? = nsaddrinfo[i]?

theorem parsed_getD (h : ∀ n info, infos.find? n = some info →
    info.nameservers.mapM parse = some info.nsaddrinfo) (netid : Nat) :
    ((infos.find? netid).getD .create).nameservers.mapM parse =
      some ((infos.find? netid).getD .create).nsaddrinfo := by
  cases hfind : infos.find? netid with
  | none => rfl
  | some info => exact h netid info hfind

/-- A parser that takes every text for an address. -/
def sampleAddr (name : String) : Option SockaddrStorage := some (.inet ⟨53, name.length⟩)

/-- The conversion to `uint8_t`. -/
def toByte (x : Int) : Byte := ⟨(x % 256).toNat, by omega⟩

/-- The four or five parameters of `ResolverController::setResolverConfiguration`. -/
def resParams : List Int → Option ResParams
  | validity :: threshold :: min :: max :: timeout =>
    if timeout.length > 1 then none
    else some ⟨⟨(validity % 65536).toNat, by omega⟩, toByte threshold, toByte min, toByte max,
      timeout.headD 0⟩
  | _ => none

/-- What `ResolverController::setResolverConfiguration` passes on. -/
def setResolverConfiguration (servers : List String) (domains : List (List Byte))
    (params : List Int) : Option (List String × List Byte × ResParams) :=
  (resParams params).map fun resParams =>
    (servers.take maxns, [32].intercalate (domains.take maxdnsrch), resParams)

/-- The controller makes the call, with a number of samples that meets `ok`. -/
def Configured (ok : Byte → Prop) (servers : List String) (domains : List Byte)
    (params : Option ResParams) : Prop :=
  ∃ servers' domains' params' resParams, params = some resParams ∧ ok resParams.maxSamples ∧
    setResolverConfiguration servers' domains' params' = some (servers, domains, resParams)

/-- The samples of a server are counted and written inside the array. -/
def ResStats.Inside (stats : ResStats) : Prop :=
  stats.sampleCount ≤ maxnssamples ∧ stats.sampleNext < maxnssamples

theorem ResStats.Inside.addSample {stats : ResStats} (h : stats.Inside) (sample : ResSample)
    {m : Nat} (hm : m ≤ maxnssamples) : (stats.addSample sample m).Inside := by
  simp only [Inside, ResStats.addSample, maxnssamples] at *
  split <;> split <;> omega

theorem setNameservers_inside (h : ∀ ns, (info.nsstats ns).Inside) (ns : Nat) :
    ((info.setNameservers servers nsaddrinfo domains params).nsstats ns).Inside := by
  have hclear : (info.nsstats ns).clear.Inside := ⟨Nat.zero_le _, Nat.zero_lt_succ _⟩
  rcases (setNameservers_cases rfl).2 with
    ⟨-, -, -, -, hstats⟩ | ⟨-, -, -, ⟨-, -, hstats⟩ | ⟨-, -, hstats⟩⟩
  · rw [hstats]
    split
    · exact hclear
    · exact h ns
  · rw [hstats]
    split
    · exact hclear
    · exact h ns
  · rw [hstats]
    exact h ns

/-- **Samples are written and read inside the array** in every run whose configurations have maxima
of at most `MAXNSSAMPLES`, and a query reads no other maximum. -/
theorem samples_inside
    (h : Sampled parse (fun _ => Configured (·.val ≤ maxnssamples)) (fun _ _ => True) True infos rs)
    (hfind : infos.find? netid = some info) :
    info.params.maxSamples.val ≤ maxnssamples ∧ ∀ ns,
      (info.nsstats ns).sampleNext < maxnssamples ∧
      (info.nsstats ns).sampleCount ≤ maxnssamples ∧ (info.nsstats ns).newest < maxnssamples := by
  have hinside : info.params.maxSamples.val ≤ maxnssamples ∧ ∀ ns, (info.nsstats ns).Inside := by
    refine (h.records (P := fun info => info.params.maxSamples.val ≤ maxnssamples ∧
      ∀ ns, (info.nsstats ns).Inside) ⟨Nat.zero_le _, fun _ => ⟨Nat.zero_le _,
      Nat.zero_lt_succ _⟩⟩ ?_ ?_).1 netid info hfind
    · rintro info servers nsaddrinfo domains params hinfo ⟨-, -, -, p, rfl, hmax, -⟩ _
      exact ⟨(setNameservers_cases rfl).1 ▸ hmax, setNameservers_inside hinfo.2⟩
    · rintro info old ns sample ⟨hmax, hstats⟩ hold -
      refine ⟨hmax, fun ns' => ?_⟩
      by_cases hns : ns' = ns
      · simpa [hns] using (hstats ns).addSample sample hold.1
      · simpa [hns] using hstats ns'
  refine ⟨hinside.1, fun ns => ?_⟩
  obtain ⟨hcount, hnext⟩ := hinside.2 ns
  refine ⟨hnext, hcount, ?_⟩
  rw [ResStats.newest]
  split <;> omega

/-- One server, with room for `m` samples. -/
def oneServer (infos : Infos) (m : Byte) : Infos :=
  (resolvSetNameserversForNet true sampleAddr infos 100 ["::1"] []
    (some ⟨1800, 75, 0, m, 0⟩)).infos

theorem isSome_oneServer (m : Byte) : ((oneServer .empty m).find? 100).isSome := by
  have hall : ∀ m, ((oneServer .empty m).find? 100).isSome = true := by decide +kernel
  exact hall m

/-- The record that a query reads, and `n` samples with what was read. -/
def readServer (m : Byte) : CacheInfo := ((oneServer .empty m).find? 100).get (isSome_oneServer m)

def addSamples (m : Byte) : Nat → Infos
  | 0 => oneServer .empty m
  | n + 1 => resolvCacheAddResolverStatsSample (addSamples m n) 100 (readServer m).revisionId 0
      ⟨0, 0, 0⟩ (readServer m).params.maxSamples.val

theorem sampled_addSamples {m : Byte} (hadd : okAdd (readServer m) 0)
    (hset : okSet .create ["::1"] [] (some ⟨1800, 75, 0, m, 0⟩)) (n : Nat) :
    Sampled sampleAddr okSet okAdd okDelete (addSamples m n) [(100, readServer m)] := by
  induction n with
  | zero => exact .read (.set true 100 _ [] _ .start hset) (Option.some_get _).symm
  | succ n ih => exact .add 0 _ ih mem_cons_self hadd

theorem configured_one {ok : Byte → Prop} {m : Byte} (hok : ok m) :
    Configured ok ["::1"] [] (some ⟨1800, 75, 0, m, 0⟩) := by
  refine ⟨["::1"], [], [1800, 75, 0, m.val], _, rfl, hok, ?_⟩
  have hbyte : toByte m.val = m := Fin.ext (by simp [toByte]; omega)
  simp only [setResolverConfiguration, resParams, hbyte]
  rfl

theorem samples_inside_three : ∃ info, (addSamples 64 3).find? 100 = some info ∧
      (info.nsstats 0).sampleCount = 3 ∧ (info.nsstats 0).sampleNext < maxnssamples := by
  have hthree : ((addSamples 64 3).find? 100).map (fun info => (info.nsstats 0).sampleCount) =
      some 3 := by decide +kernel
  obtain ⟨info, hfind, hcount⟩ := Option.map_eq_some_iff.mp hthree
  exact ⟨info, hfind, hcount, ((samples_inside
    (sampled_addSamples trivial (configured_one (by decide)) 3) hfind).2 0).1⟩

/-- With room for 65 samples the last one is written behind the array. -/
theorem sample_outside :
    ∃ infos old info, Sampled sampleAddr (fun _ => Configured fun _ => True) (fun _ _ => True) True
        infos [(100, old)] ∧ infos.find? 100 = some info ∧ info.revisionId = old.revisionId ∧
      old.params.maxSamples.val = 65 ∧ (info.nsstats 0).sampleNext = maxnssamples := by
  have hfull : ((addSamples 65 64).find? 100).map (fun info =>
      (info.revisionId, (info.nsstats 0).sampleNext)) =
        some ((readServer 65).revisionId, maxnssamples) := by decide +kernel
  obtain ⟨info, hfind, heq⟩ := Option.map_eq_some_iff.mp hfull
  simp only [Prod.mk.injEq] at heq
  exact ⟨_, readServer 65, info, sampled_addSamples trivial (configured_one trivial) 64, hfind,
    heq.1, by decide +kernel, heq.2⟩

/-! ## The number of samples -/

/-- The maximum stays while several servers stay, and the revision does not overflow. -/
def CacheInfo.Keeps (info : CacheInfo) (servers : List String) (_ : List Byte)
    (params : Option ResParams) : Prop :=
  (info.isNameserversEqual servers = true → servers.length ≤ 1 ∨
    (params.getD resolvSetDefaultParams).maxSamples = info.params.maxSamples) ∧
  info.revisionId + 2 < 2 ^ 31

/-- A sample is for one of the servers that were read. -/
def CacheInfo.HasServer (old : CacheInfo) (ns : Nat) : Prop := ns < old.nameservers.length

/-- There are at most as many samples as the maximum, and none but those of the servers. -/
structure CacheInfo.Within (info : CacheInfo) : Prop where
  count : ∀ ns, (info.nsstats ns).sampleCount ≤ info.params.maxSamples.val
  other : ∀ ns, info.nameservers.length ≤ ns → (info.nsstats ns).sampleCount = 0
  revision : 0 ≤ info.revisionId

/-- A new revision, or the same maximum and servers. -/
def CacheInfo.Since (info info' : CacheInfo) : Prop :=
  info.revisionId < info'.revisionId ∨ info.revisionId = info'.revisionId ∧
    info.params.maxSamples = info'.params.maxSamples ∧ info.nameservers = info'.nameservers

/-- A change that clears the samples of all servers. -/
theorem CacheInfo.Within.cleared (h : info.Within) (hlen : info.nameservers.length ≤ n)
    (hlt : info.revisionId < info'.revisionId) (hstats : ∀ ns, info'.nsstats ns =
      if ns < n then (info.nsstats ns).clear else info.nsstats ns) :
    info'.Within ∧ info.Since info' ∧ ∀ ns, (info'.nsstats ns).sampleCount = 0 := by
  have hzero : ∀ ns, (info'.nsstats ns).sampleCount = 0 := by
    intro ns
    rw [hstats]
    split
    · rfl
    · exact h.other ns (by omega)
  exact ⟨⟨fun ns => hzero ns ▸ Nat.zero_le _, fun ns _ => hzero ns, h.revision.trans hlt.le⟩,
    .inl hlt, hzero⟩

theorem CacheInfo.Within.set (h : info.Within) (hkeeps : info.Keeps servers domains params)
    (hset : info.setNameservers servers nsaddrinfo domains params = info') :
    info'.Within ∧ info.Since info' ∧ ((∀ ns, (info'.nsstats ns).sampleCount = 0) ∨
      info'.params.maxSamples = info.params.maxSamples ∧ info'.nameservers = info.nameservers) := by
  have hnonneg := h.revision
  have hlt := hkeeps.2
  have hnext := nextRevision_revisionId info hnonneg (by omega)
  have hnext2 := nextRevision_revisionId info.nextRevision (by omega) (by omega)
  obtain ⟨hparams, ⟨-, -, -, hrev, hstats⟩ | ⟨hequal, hnames, -, hsame⟩⟩ :=
    setNameservers_cases hset
  · obtain ⟨hwith, hsince, hzero⟩ := h.cleared (le_max_right 1 _) (by omega) hstats
    exact ⟨hwith, hsince, .inl hzero⟩
  obtain ⟨hmax, hrev, hstats⟩ | ⟨hmax, hrev, hstats⟩ := hsame
  · -- the samples of the first server are cleared, and there is no other one
    have hone := (hkeeps.1 hequal).resolve_right (hparams ▸ hmax)
    simp only [isNameserversEqual, Bool.and_eq_true, beq_iff_eq] at hequal
    obtain ⟨hwith, hsince, hzero⟩ := h.cleared (hequal.1.trans_le hone) (by omega) hstats
    exact ⟨hwith, hsince, .inl hzero⟩
  · refine ⟨⟨?_, ?_, hrev ▸ hnonneg⟩, .inr ⟨hrev.symm, hmax.symm, hnames.symm⟩, .inr ⟨hmax, hnames⟩⟩
    · rw [hstats, hmax]
      exact h.count
    · rw [hstats, hnames]
      exact h.other

theorem CacheInfo.Within.addSample (h : info.Within) {ns : Nat} (hns : ns < info.nameservers.length)
    (sample : ResSample) :
    CacheInfo.Within { info with
      nsstats := update info.nsstats ns
        ((info.nsstats ns).addSample sample info.params.maxSamples.val) } := by
  refine ⟨fun ns' => ?_, fun ns' hns' => ?_, h.revision⟩
  · by_cases heq : ns' = ns
    · have hle := h.count ns
      simp only [heq, update_self, ResStats.addSample]
      split <;> omega
    · simpa [heq] using h.count ns'
  · have hne : ns' ≠ ns := fun heq => absurd (heq ▸ hns) (Nat.not_lt.mpr hns')
    simpa [hne] using h.other ns' hns'

theorem within_getD (h : ∀ n info, infos.find? n = some info → info.Within) (netid : Nat) :
    ((infos.find? netid).getD .create).Within := by
  cases hfind : infos.find? netid with
  | none => exact ⟨fun _ => Nat.zero_le _, fun _ _ => rfl, le_rfl⟩
  | some info => exact h netid info hfind

/-- What was read stays older than the record. -/
theorem since_insert
    (h : ∀ n old, (n, old) ∈ rs → ∃ info, infos.find? n = some info ∧ old.Since info)
    (hsince : ∀ info, infos.find? netid = some info → info.Since info') (n : Nat) (old : CacheInfo)
    (hread : (n, old) ∈ rs) :
    ∃ info, (infos.insert netid info').find? n = some info ∧ old.Since info := by
  obtain ⟨info, hfind, hold⟩ := h n old hread
  rw [find?_insert]
  split
  · next heq =>
    refine ⟨info', rfl, ?_⟩
    have hnew := hsince info (heq ▸ hfind)
    simp only [Since] at *
    grind
  · exact ⟨info, hfind, hold⟩

theorem Sampled.within (h : Sampled parse Keeps HasServer False infos rs) :
    (∀ n info, infos.find? n = some info → info.Within) ∧
      ∀ n old, (n, old) ∈ rs → ∃ info, infos.find? n = some info ∧ old.Since info := by
  induction h with
  | start => simp
  | @set infos rs alloc netid servers domains params _ hok ih =>
    simp only [resolvSetNameserversForNet]
    split
    · exact ih
    split
    · exact ih
    split
    · exact ih
    obtain ⟨hwith, hsince, -⟩ := (within_getD ih.1 netid).set hok rfl
    refine ⟨forall_insert ih.1 hwith, since_insert ih.2 fun info hfind => ?_⟩
    rw [hfind] at hsince ⊢
    exact hsince
  | delete _ _ hok => exact elim hok
  | @read infos rs netid info _ hfind ih =>
    refine ⟨ih.1, fun n old hread => ?_⟩
    rcases mem_cons.mp hread with heq | hread
    · cases heq
      exact ⟨info, hfind, .inr ⟨rfl, rfl, rfl⟩⟩
    · exact ih.2 n old hread
  | @add infos rs netid old ns sample _ hread hok ih =>
    simp only [resolvCacheAddResolverStatsSample, sampleTarget]
    split
    · rename_i info htarget
      split at htarget
      · cases htarget
      obtain ⟨hfind, hrev⟩ := Option.filter_eq_some_iff.mp htarget
      obtain ⟨info', hfind', hsince⟩ := ih.2 netid old hread
      cases hfind.symm.trans hfind'
      obtain ⟨-, hmax, hnames⟩ := hsince.resolve_left (of_decide_eq_true hrev).not_gt
      rw [hmax]
      refine ⟨forall_insert ih.1 ((ih.1 _ _ hfind).addSample (hnames ▸ hok) sample),
        since_insert ih.2 fun info' hfind' => ?_⟩
      cases hfind.symm.trans hfind'
      exact .inr ⟨rfl, rfl, rfl⟩
    · exact ih

/-- **No server exceeds the maximum** in runs that keep it while several servers stay, and right
after a change of it or of the servers none has samples. -/
theorem samples_within_maximum (h : Sampled parse Keeps HasServer False infos rs) :
    (∀ n info, infos.find? n = some info →
      ∀ ns, (info.nsstats ns).sampleCount ≤ info.params.maxSamples.val) ∧
    ∀ alloc netid servers domains params info',
      let info := (infos.find? netid).getD .create
      let result := resolvSetNameserversForNet alloc parse infos netid servers domains params
      info.Keeps servers domains params → result.ret = 0 →
      result.infos.find? netid = some info' →
      info'.params.maxSamples ≠ info.params.maxSamples ∨ info'.nameservers ≠ info.nameservers →
      ∀ ns, (info'.nsstats ns).sampleCount = 0 := by
  refine ⟨fun n info hfind => (h.within.1 n info hfind).count, ?_⟩
  intro alloc netid servers domains params info' info result hkeeps hzero hfind hchanged
  simp only [result, resolvSetNameserversForNet] at hzero hfind
  split at hzero
  · cases hzero
  next hcount =>
  split at hzero
  · cases hzero
  next hparsed =>
  simp only [if_neg hcount, hparsed] at hfind
  split at hfind
  · next hnone =>
    rw [Option.isNone_iff_eq_none.mp hnone.1] at hfind
    cases hfind
  rw [find?_insert_self] at hfind
  obtain ⟨-, -, hnone | ⟨hmax, hnames⟩⟩ :=
    (within_getD h.within.1 netid).set hkeeps (Option.some.inj hfind)
  · exact hnone
  · exact absurd hmax (hchanged.resolve_right (absurd hnames))

/-- A server has three samples, and none when the maximum becomes 8. -/
theorem samples_within_maximum_one : ∃ info info', (addSamples 64 3).find? 100 = some info ∧
    (info.nsstats 0).sampleCount = 3 ∧
    (∀ ns, (info.nsstats ns).sampleCount ≤ info.params.maxSamples.val) ∧
    (oneServer (addSamples 64 3) 8).find? 100 = some info' ∧
    ∀ ns, (info'.nsstats ns).sampleCount = 0 := by
  have hrun : Sampled sampleAddr Keeps HasServer False (addSamples 64 3) [(100, readServer 64)] :=
    sampled_addSamples (show 0 < _ by decide +kernel) ⟨by decide, by decide⟩ 3
  have hthree : ((addSamples 64 3).find? 100).map (fun info => (info.nsstats 0).sampleCount) =
      some 3 := by decide +kernel
  have hafter : ((oneServer (addSamples 64 3) 8).find? 100).map (·.params.maxSamples) =
      some 8 := by decide +kernel
  have hbefore : ((addSamples 64 3).find? 100).map (fun info => (info.params.maxSamples,
      info.revisionId, info.nameservers)) = some (64, 2, ["::1"]) := by decide +kernel
  obtain ⟨info, hfind, hcount⟩ := Option.map_eq_some_iff.mp hthree
  obtain ⟨info', hfind', hmax'⟩ := Option.map_eq_some_iff.mp hafter
  obtain ⟨hle, hchange⟩ := samples_within_maximum hrun
  rw [hfind, Option.map_some] at hbefore
  have hbefore := Option.some.inj hbefore
  simp only [Prod.mk.injEq] at hbefore
  refine ⟨info, info', hfind, hcount, hle 100 info hfind, hfind',
    hchange true 100 ["::1"] [] (some ⟨1800, 75, 0, 8, 0⟩) info' ?_ ?_ hfind' (.inl ?_)⟩
  · rw [hfind]
    exact ⟨fun _ => .inl (by decide), by rw [Option.getD_some, hbefore.2.1]; decide⟩
  · decide +kernel
  · rw [hfind, hmax', Option.getD_some, hbefore.1]
    decide

/-- Two servers, with room for `m` samples each. -/
def twoServers (infos : Infos) (m : Byte) : Infos :=
  (resolvSetNameserversForNet true sampleAddr infos 100 ["::1", "::2"] []
    (some ⟨1800, 75, 0, m, 0⟩)).infos

theorem isSome_twoServers : ((twoServers .empty 8).find? 100).isSome := by decide +kernel

/-- The second server keeps its two samples when the maximum becomes one. -/
theorem samples_of_second_kept :
    ∃ infos rs info, Reached sampleAddr infos rs ∧ infos.find? 100 = some info ∧
      info.nameservers.length = 2 ∧ info.params.maxSamples.val = 1 ∧
      (info.nsstats 1).sampleCount = 2 := by
  let old := ((twoServers .empty 8).find? 100).get isSome_twoServers
  let add : Infos → Infos := fun infos => resolvCacheAddResolverStatsSample infos 100
    old.revisionId 1 ⟨0, 0, 0⟩ old.params.maxSamples.val
  have hread : Reached sampleAddr (twoServers .empty 8) [(100, old)] :=
    .read (.set true 100 _ [] _ .start trivial) (Option.some_get _).symm
  have hadd : ∀ {infos}, Reached sampleAddr infos [(100, old)] →
      Reached sampleAddr (add infos) [(100, old)] := fun h =>
    .add 1 _ h mem_cons_self trivial
  have hkept : ((twoServers (add (add (twoServers .empty 8))) 1).find? 100).map (fun info =>
      (info.nameservers.length, info.params.maxSamples.val, (info.nsstats 1).sampleCount)) =
      some (2, 1, 2) := by decide +kernel
  obtain ⟨info, hfind, heq⟩ := Option.map_eq_some_iff.mp hkept
  simp only [Prod.mk.injEq] at heq
  exact ⟨_, _, info, .set true 100 _ [] _ (hadd (hadd hread)) trivial, hfind, heq⟩

end Netd.Nameservers
