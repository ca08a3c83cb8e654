import Netd.Resolv.SendTrace

/-!
# No cleartext without a fallback

Right before every datagram and every virtual circuit of `resNsend` there is a call of
`resTlsSend` whose last look at the configuration found private DNS off or opportunistic.
-/

namespace Netd.ResSend

variable {env : Env} {statp : ResState} {cacheStatus : CacheStatus} {retryTimes k rcode : Nat}
  {revisionId : Int} {ns : Nat} {nsap : SockaddrStorage} {s s' : Sending}

def Event.isCleartext : Event → Bool
  | .sendVc _ => true
  | .sendDg _ => true
  | _ => false

/-- A call of `res_tls_send` whose last status was off or opportunistic. -/
def FellBack (env : Env) (netid : Nat) (e : Event) : Prop :=
  ∃ call k, e = .resTlsSend call ∧
    call.statuses.getLast? = some ((env.config k).getStatus netid) ∧
    (((env.config k).getStatus netid).mode = .off ∨
      ((env.config k).getStatus netid).mode = .opportunistic)

/-! ## The decision to fall back -/

variable {status : PrivateDnsStatus} {statuses : List PrivateDnsStatus} {netid : Nat}
  {t : List Event} {e : Event}

/-- When waiting has found a server, the status it leaves is the last it obtained. -/
theorem waitForServers_last {i : Nat} (hempty : status.validatedServers = [])
    (hfound : (waitForServers env statp i k status).1.validatedServers ≠ []) :
    ∃ k', (waitForServers env statp i k status).1 = statusAt env statp k' ∧
      (waitForServers env statp i k status).2.getLast? = some (statusAt env statp k') := by
  induction i generalizing k with
  | zero => exact absurd hempty hfound
  | succ i ih =>
    rw [waitForServers] at hfound ⊢
    split
    · exact ⟨k + 1, rfl, rfl⟩
    rename_i hprobe
    rw [if_neg hprobe] at hfound
    obtain ⟨k', hstatus, hlast⟩ := ih hfound
    refine ⟨k', hstatus, ?_⟩
    rw [List.getLast?_cons, hlast]
    rfl

@[simp] theorem queryOverTls_statuses :
    (queryOverTls env statp k rcode status statuses).statuses = statuses := by
  simp only [queryOverTls]
  split <;> split <;> rfl

theorem queryOverTls_fallback
    (h : (queryOverTls env statp k rcode status statuses).fallback = true) :
    status.mode = .opportunistic := by
  by_contra hmode
  rw [queryOverTls, if_neg hmode] at h
  split at h <;> cases h

theorem resTlsSend_fallback (h : (resTlsSend env statp k rcode).fallback = true) :
    FellBack env statp.netid (.resTlsSend (resTlsSend env statp k rcode)) := by
  rw [resTlsSend] at h ⊢
  split
  · next hoff => exact ⟨_, k, rfl, rfl, .inl hoff⟩
  rename_i hoff
  rw [if_neg hoff] at h
  split
  · rename_i hempty
    rw [if_pos hempty] at h
    split
    · next hmode => exact ⟨_, k, rfl, rfl, .inr hmode⟩
    rename_i hmode
    rw [if_neg hmode] at h
    simp only at h ⊢
    split
    · rename_i hnone
      rw [if_pos hnone] at h
      cases h
    rename_i hfound
    rw [if_neg hfound] at h
    obtain ⟨k', hstatus, hlast⟩ := waitForServers_last hempty hfound
    have hmode' := queryOverTls_fallback h
    rw [hstatus] at hmode'
    refine ⟨_, k', rfl, ?_, .inr hmode'⟩
    rw [queryOverTls_statuses, List.getLast?_cons, hlast]
    rfl
  · rename_i hne
    rw [if_neg hne] at h
    refine ⟨_, k, rfl, ?_, .inr (queryOverTls_fallback h)⟩
    rw [queryOverTls_statuses]
    rfl

/-! ## Passes over a server -/

theorem tryPrivateDns_vCircuit (env : Env) (statp : ResState) (cacheStatus : CacheStatus)
    (s : Sending) : (tryPrivateDns env statp cacheStatus s).2.vCircuit = s.vCircuit := by
  simp only [tryPrivateDns, Sending.cacheAnswer]
  repeat' split
  all_goals rfl

theorem useVirtualCircuit_ne_sameNs :
    (useVirtualCircuit env statp cacheStatus retryTimes revisionId ns nsap s).1 ≠ .sameNs := by
  simp only [useVirtualCircuit]
  repeat' split
  all_goals simp

theorem useDatagrams_sameNs
    (h : (useDatagrams env statp cacheStatus revisionId ns nsap s).1 = .sameNs) :
    (useDatagrams env statp cacheStatus revisionId ns nsap s).2.vCircuit = true := by
  simp only [useDatagrams] at h ⊢
  split at h
  · cases h
  rename_i hneg
  rw [if_neg hneg]
  split at h
  · cases h
  rename_i hzero
  rw [if_neg hzero]
  split at h
  · next hcircuit => rwa [if_pos hcircuit]
  · cases h

theorem pass_sameNs (h : (pass env statp cacheStatus retryTimes revisionId ns nsap s).1 = .sameNs) :
    s.vCircuit = false ∧
      (pass env statp cacheStatus retryTimes revisionId ns nsap s).2.vCircuit = true := by
  have hkept := tryPrivateDns_vCircuit env statp cacheStatus s
  rw [pass] at h ⊢
  rcases htry : tryPrivateDns env statp cacheStatus s with ⟨_ | result, s'⟩
  · rw [htry] at h hkept
    simp only at h hkept ⊢
    split at h
    · exact absurd h useVirtualCircuit_ne_sameNs
    rename_i hcircuit
    rw [if_neg hcircuit, ← hkept]
    exact ⟨by simpa using hcircuit, useDatagrams_sameNs h⟩
  · rw [htry] at h
    cases h

theorem queryServer_ne_sameNs :
    (queryServer env statp cacheStatus retryTimes revisionId ns nsap s).1 ≠ .sameNs := by
  intro h
  rw [queryServer] at h
  split at h
  · rename_i s' hpass
    -- the first pass has set `v_circuit`, and the second would have to find it unset
    have hset := (pass_sameNs (congrArg Prod.fst hpass)).2
    rw [hpass] at hset
    have hunset := (pass_sameNs h).1
    rw [hset] at hunset
    cases hunset
  · next hne => exact hne _ (Prod.ext h rfl)

/-! ## The invariant -/

/-- Cleartext is sent right after a fallback. -/
def Guarded (env : Env) (netid : Nat) : List Event → Prop :=
  Trace.Preceded (fun e => e.isCleartext = true) (FellBack env netid)

theorem Guarded.add (h : Guarded env netid t) (he : e.isCleartext = false) :
    Guarded env netid (t ++ [e]) :=
  h.snoc fun hclear => by simp [he] at hclear

theorem Guarded.isSample (h : Guarded env netid t) (he : IsSample env statp t e) :
    Guarded env netid (t ++ [e]) := by
  obtain ⟨ns, now, rcode, delay, rfl, -⟩ := he
  exact h.add rfl

section

variable (huse : statp.useLocalNameserver = false)
include huse

theorem Cleared.fellBack {t : List Event} (h : Cleared env statp t) :
    Trace.Ends (FellBack env statp.netid) t := by
  rcases h with hlocal | ⟨pre, d, rfl, k, rcode, rfl, hfallback⟩
  · rw [huse] at hlocal
    cases hlocal
  · exact Trace.ends_snoc (resTlsSend_fallback hfallback)

section

variable (hs : Guarded env statp.netid s.trace)
include hs

theorem Sends.guarded {n : Int} (h : Sends env statp retryTimes s n s')
    : Guarded env statp.netid s'.trace := by
  cases h with
  | tls => exact hs.add rfl
  | vc _ _ hcleared | dg _ hcleared => exact hs.snoc fun _ => hcleared.fellBack huse

theorem Tries.guarded (h : Tries env statp retryTimes s s') : Guarded env statp.netid s'.trace := by
  induction h with
  | refl => exact hs
  | tail _ htry ih =>
    cases htry with
    | sends hsends => exact hsends.guarded huse ih
    | sample he => exact ih.isSample he
    | close => exact ih.add rfl
    | server | attempt => exact ih

theorem Returned.guarded {result : Int} (h : Returned env statp cacheStatus retryTimes s result s')
    : Guarded env statp.netid s'.trace := by
  cases h with
  | answer htries hsends _ _ hends _ =>
    refine hends.emits (fun ht he => ?_) (hsends.guarded huse (htries.guarded huse hs))
    rcases he with hsample | rfl | rfl
    · exact ht.isSample hsample
    · exact ht.add rfl
    · exact ht.add rfl
  | error htries _ hends _ =>
    refine hends.emits (fun ht he => ?_) (htries.guarded huse hs)
    rcases he with rfl | rfl
    · exact ht.add rfl
    · exact ht.add rfl

end

end

/-! ## Whole runs -/

@[simp] theorem populated_netid : (populated env statp).netid = statp.netid := by
  unfold populated
  split <;> rfl

@[simp] theorem populated_useLocalNameserver :
    (populated env statp).useLocalNameserver = statp.useLocalNameserver := by
  unfold populated
  split <;> rfl

@[simp] theorem rotated_netid : (rotated statp).netid = statp.netid := by
  unfold rotated
  split <;> rfl

@[simp] theorem rotated_useLocalNameserver :
    (rotated statp).useLocalNameserver = statp.useLocalNameserver := by
  unfold rotated
  split <;> rfl

theorem resNsend_guarded (huse : statp.useLocalNameserver = false) (query : Query) (rcode : Nat) :
    Guarded env statp.netid (resNsend env statp query rcode).2.trace := by
  have hlooked (status : CacheStatus) : Guarded env statp.netid [.cacheLookup status] :=
    Trace.preceded_nil.snoc fun hclear => by cases hclear
  by_cases hsize : query.anssiz < hfixedsz
  · rw [resNsend, if_pos hsize]
    exact Trace.preceded_nil
  by_cases hfound : env.cacheLookup.1 = .found
  · rw [resNsend_of_found _ _ _ rcode hsize hfound]
    exact hlooked _
  have hopened : Guarded env statp.netid (opened env statp query rcode).trace := by
    unfold opened opening
    split
    · exact hlooked _
    · exact Guarded.add (hlooked _) rfl
  rw [resNsend_of_miss _ _ _ rcode hsize hfound]
  split
  · exact hopened.add rfl
  obtain ⟨retryTimes, hreturned⟩ := sendToServers_returned env (populated env statp)
    env.cacheLookup.1 query (opened env statp query rcode)
  have hguarded := hreturned.guarded (by simpa using huse)
  rw [rotated_netid, populated_netid] at hguarded
  exact hguarded hopened

/-- Without the local nameserver, right before each cleartext query there is a call of
`res_tls_send` whose last status was off or opportunistic.  When every status is strict, nothing
is sent in cleartext. -/
theorem cleartext_after_fallback (huse : statp.useLocalNameserver = false) (query : Query)
    (rcode : Nat) :
    (∀ pre e post, (resNsend env statp query rcode).2.trace = pre ++ e :: post →
      e.isCleartext = true →
      ∃ pre' call last, pre = pre' ++ [.resTlsSend call] ∧ call.statuses.getLast? = some last ∧
        (last.mode = .off ∨ last.mode = .opportunistic)) ∧
    ((∀ k, ((env.config k).getStatus statp.netid).mode = .strict) →
      ∀ e ∈ (resNsend env statp query rcode).2.trace, e.isCleartext = false) := by
  have hguarded : Guarded env statp.netid (resNsend env statp query rcode).2.trace :=
    resNsend_guarded huse query rcode
  constructor
  · intro pre e post htrace he
    obtain ⟨pre', d, hpre, call, k, rfl, hlast, hmode⟩ := hguarded pre e post htrace he
    exact ⟨pre', call, _, hpre, hlast, hmode⟩
  · intro hstrict e he
    by_contra hclear
    obtain ⟨pre, post, htrace⟩ := List.append_of_mem he
    obtain ⟨pre', d, -, call, k, -, -, hmode⟩ :=
      hguarded pre e post htrace (Bool.eq_true_of_not_eq_false hclear)
    rw [hstrict k] at hmode
    rcases hmode with hmode | hmode <;> cases hmode

/-- One nameserver, whose answer is truncated over UDP and complete over TCP, on a network
with a private DNS mode and no validated servers. -/
def truncating (mode : PrivateDnsMode) : Env where
  cacheLookup := (.notfound, 0)
  populate _ := [.inet ⟨13568, 16908480⟩]
  needclose := false
  stats _ := (1, fun _ => true)
  config _ := ⟨OrdMap.empty.insert 100 mode, .empty, none⟩
  tlsQuery _ _ _ := ⟨.networkError, 0, 0⟩
  sendVc _ _ := ⟨40, 0, true, true, 0, 0, 1⟩
  sendDg _ _ := ⟨1, 0, true, true, 0, 0, 1⟩

/-- The state of a resolver on network 100. -/
def freshState : ResState := ⟨100, 0, false, false, false, false, 2, false, []⟩

theorem cleartext_after_fallback_truncating :
    (resNsend (truncating .opportunistic) freshState ⟨30, 512, false⟩ 0).2.trace.filter
        Event.isCleartext = [.sendDg 0, .sendVc 0] ∧
      (∀ pre e post,
        (resNsend (truncating .opportunistic) freshState ⟨30, 512, false⟩ 0).2.trace =
          pre ++ e :: post → e.isCleartext = true →
        ∃ pre' call last, pre = pre' ++ [.resTlsSend call] ∧
          call.statuses.getLast? = some last ∧
          (last.mode = .off ∨ last.mode = .opportunistic)) ∧
      ∀ e ∈ (resNsend (truncating .strict) freshState ⟨30, 512, false⟩ 0).2.trace,
        e.isCleartext = false :=
  ⟨by decide +kernel, (cleartext_after_fallback rfl _ 0).1,
    (cleartext_after_fallback rfl _ 0).2 fun _ => rfl⟩

end Netd.ResSend
