import Netd.Resolv.ResSend

/-!
# How `res_nsend` comes to its result

After its lookup a call of `res_nsend` tries one thing after the other (`Try`): it sends the query
over TLS, on a circuit or in a datagram, writes a sample, or goes on to the next server.
`Returned` has the two ways to end: with the answer of the last operation, which goes to the cache
and is returned, or with an error.
-/

namespace Netd.ResSend

open List Sending

/-- The events that send a query to the server with this number. -/
def Event.contacts (ns : Nat) : Event → Bool
  | .sendVc m => m == ns
  | .sendDg m => m == ns
  | _ => false

/-- The events that do not send a query and do not write a sample. -/
def Event.isQuiet : Event → Bool
  | .resTlsSend _ => false
  | .sendVc _ => false
  | .sendDg _ => false
  | .addSample _ _ _ _ _ => false
  | _ => true

/-- The last event is a query to the server with this number. -/
def AtServer (ns : Nat) (t : List Event) : Prop := Trace.Ends (fun e => e.contacts ns = true) t

/-- A call of `res_tls_send` after which a query may be sent in cleartext. -/
def FallsBack (env : Env) (statp : ResState) (e : Event) : Prop :=
  ∃ k rcode, e = .resTlsSend (resTlsSend env statp k rcode) ∧
    (resTlsSend env statp k rcode).fallback = true

/-- Private DNS does not hold a query in cleartext back. -/
def Cleared (env : Env) (statp : ResState) (t : List Event) : Prop :=
  statp.useLocalNameserver = true ∨ Trace.Ends (FallsBack env statp) t

def IsSample (env : Env) (statp : ResState) (t : List Event) (e : Event) : Prop :=
  ∃ ns now rcode delay, e = .addSample (env.stats 0).1 ns now rcode delay ∧
    ns < statp.nsaddrs.length ∧ AtServer ns t

/-! ## Tries -/

def Sending.afterTls (s : Sending) (call : TlsCall) : Sending :=
  { s.add (.resTlsSend call) with
    statusReads := s.statusReads + call.statuses.length
    rcode := call.rcode }

/-- A call of `send_vc`, which makes this the last attempt. -/
def Sending.afterVc (s : Sending) (ns retryTimes : Nat) (r : SendResult) : Sending :=
  { s.add (.sendVc ns) with attempt := retryTimes, terrno := r.terrno, rcode := r.rcode }

def Sending.afterDg (s : Sending) (ns : Nat) (r : SendResult) : Sending :=
  { s.add (.sendDg ns) with
    terrno := r.terrno
    rcode := r.rcode
    vCircuit := r.vCircuit
    gotsomewhere := s.gotsomewhere || r.gotsomewhere }

/-- An operation that sends the query: its result, and the state after it. -/
inductive Sends (env : Env) (statp : ResState) (retryTimes : Nat) (s : Sending) :
    Int → Sending → Prop where
  | tls : Sends env statp retryTimes s (resTlsSend env statp s.statusReads s.rcode).resplen
      (s.afterTls (resTlsSend env statp s.statusReads s.rcode))
  | vc {ns : Nat} {nsap : SockaddrStorage} (hserver : statp.nsaddrs[ns]? = some nsap)
      (hretry : retryTimes ≠ 0) (hcleared : Cleared env statp s.trace) :
      Sends env statp retryTimes s (env.sendVc s.trace.length nsap).n
        (s.afterVc ns retryTimes (env.sendVc s.trace.length nsap))
  | dg {ns : Nat} {nsap : SockaddrStorage} (hserver : statp.nsaddrs[ns]? = some nsap)
      (hcleared : Cleared env statp s.trace) :
      Sends env statp retryTimes s (env.sendDg s.trace.length nsap).n
        (s.afterDg ns (env.sendDg s.trace.length nsap))

/-- What a call does at a time before it ends. -/
inductive Try (env : Env) (statp : ResState) (retryTimes : Nat) : Sending → Sending → Prop where
  | sends {s s' : Sending} {n : Int} (h : Sends env statp retryTimes s n s') :
      Try env statp retryTimes s s'
  | sample {s : Sending} {e : Event} (he : IsSample env statp s.trace e) :
      Try env statp retryTimes s (s.add e)
  | close {s : Sending} : Try env statp retryTimes s (s.add .resNclose)
  | server {s : Sending} : Try env statp retryTimes s { s with rcode := rcodeInternalError }
  | attempt {s : Sending} : Try env statp retryTimes s { s with attempt := s.attempt + 1 }

abbrev Tries (env : Env) (statp : ResState) (retryTimes : Nat) : Sending → Sending → Prop :=
  Relation.ReflTransGen (Try env statp retryTimes)

variable {env : Env} {statp : ResState} {cacheStatus : CacheStatus} {retryTimes : Nat}
  {revisionId : Int} {ns : Nat} {nsap : SockaddrStorage} {s t s' : Sending}

theorem Tries.attempt_le {a : Nat} (h : Tries env statp retryTimes s s') (hretry : a ≤ retryTimes)
    (hs : a ≤ s.attempt) : a ≤ s'.attempt := by
  induction h with
  | refl => exact hs
  | tail _ htry ih =>
    cases htry with
    | sends hsends =>
      cases hsends with
      | tls => exact ih
      | vc _ _ _ => exact hretry
      | dg _ _ => exact ih
    | sample _ | close | server => exact ih
    | attempt => exact ih.trans (Nat.le_succ _)

theorem Tries.attempt (h : Tries env statp retryTimes s s') (hretry : retryTimes ≠ 0)
    (hzero : s'.attempt = 0) : s.attempt = 0 := by
  have hle := h.attempt_le (a := 1) (Nat.one_le_iff_ne_zero.mpr hretry)
  omega

/-! ## The end -/

/-- The rest of a call adds some events, and may set `terrno`. -/
inductive Ends (P : List Event → Event → Prop) (s : Sending) : Sending → Prop where
  | refl : Ends P s s
  | add {t : Sending} {e : Event} (h : Ends P s t) (he : P t.trace e) : Ends P s (t.add e)
  | terrno {t : Sending} (h : Ends P s t) (terrno : Int) : Ends P s { t with terrno := terrno }

def AfterAnswer (env : Env) (statp : ResState) (result : Int) (t : List Event) (e : Event) : Prop :=
  IsSample env statp t e ∨ e = .resNclose ∨ e = .cacheAdd result

def AfterError (_ : List Event) (e : Event) : Prop := e = .resNclose ∨ e = .cacheQueryFailed

inductive Returned (env : Env) (statp : ResState) (cacheStatus : CacheStatus) (retryTimes : Nat)
    (s : Sending) : Int → Sending → Prop where
  | answer {s₀ s₁ s' : Sending} {result : Int} (htries : Tries env statp retryTimes s s₀)
      (hsends : Sends env statp retryTimes s₀ result s₁) (hpos : 0 < result)
      (hcircuit : ∀ ns, s₁.trace = s₀.trace ++ [.sendDg ns] → s₁.vCircuit = false)
      (hends : Ends (AfterAnswer env statp result) s₁ s')
      (hcached : cacheStatus = .notfound → .cacheAdd result ∈ s'.trace) :
      Returned env statp cacheStatus retryTimes s result s'
  | error {s₀ s' : Sending} {terrno : Int} (htries : Tries env statp retryTimes s s₀)
      (hterrno : 0 ≤ s₀.terrno → 0 ≤ terrno) (hends : Ends AfterError s₀ s')
      (hfailed : .cacheQueryFailed ∈ s'.trace) :
      Returned env statp cacheStatus retryTimes s (-terrno) s'

theorem Returned.after {result : Int} (h : Tries env statp retryTimes s t)
    (hreturned : Returned env statp cacheStatus retryTimes t result s') :
    Returned env statp cacheStatus retryTimes s result s' := by
  cases hreturned with
  | answer htries hsends hpos hcircuit hends hcached =>
    exact .answer (h.trans htries) hsends hpos hcircuit hends hcached
  | error htries hterrno hends hfailed => exact .error (h.trans htries) hterrno hends hfailed

namespace Ends

theorem rcode {P : List Event → Event → Prop} (h : Ends P s s') : s'.rcode = s.rcode := by
  induction h with
  | refl => rfl
  | add _ _ ih | terrno _ _ ih => exact ih

theorem failed (h : Ends AfterError s t) : Ends AfterError s t.failed :=
  (h.add (.inr rfl)).add (.inl rfl)

theorem cacheAnswer {result : Int} (h : Ends (AfterAnswer env statp result) s t)
    (cacheStatus : CacheStatus) :
    Ends (AfterAnswer env statp result) s (t.cacheAnswer cacheStatus result) := by
  unfold Sending.cacheAnswer
  split
  · exact h.add (.inr (.inr rfl))
  · exact h

theorem answered {result : Int} (h : Ends (AfterAnswer env statp result) s t)
    (cacheStatus : CacheStatus) :
    Ends (AfterAnswer env statp result) s (answered statp cacheStatus t result) := by
  unfold ResSend.answered
  dsimp only
  split
  · exact (h.cacheAnswer cacheStatus).add (.inr (.inl rfl))
  · exact h.cacheAnswer cacheStatus

end Ends

theorem mem_failed : .cacheQueryFailed ∈ s.failed.trace := by
  simp [failed, add]

theorem mem_cacheAnswer {result : Int} (h : cacheStatus = .notfound) :
    .cacheAdd result ∈ (s.cacheAnswer cacheStatus result).trace := by
  rw [cacheAnswer, if_pos h]
  simp [add]

theorem mem_answered {result : Int} (h : cacheStatus = .notfound) :
    .cacheAdd result ∈ (answered statp cacheStatus s result).trace := by
  unfold answered
  dsimp only
  split
  · exact mem_append_left _ (mem_cacheAnswer h)
  · exact mem_cacheAnswer h

/-! ## Samples -/

section

variable (hserver : statp.nsaddrs[ns]? = some nsap) (hlast : AtServer ns s.trace)
  (first : Bool) (hfirst : first = true → revisionId = (env.stats 0).1) (r : SendResult)
include hserver hlast hfirst

/-- Either nothing is written, or a sample of the first attempt. -/
theorem sampled_cases :
    sampled revisionId first ns r s = s ∨
      ∃ e, IsSample env statp s.trace e ∧ sampled revisionId first ns r s = s.add e := by
  unfold sampled
  split
  · rename_i htrue
    rw [hfirst htrue]
    have hns := (List.getElem?_eq_some_iff.mp hserver).1
    exact .inr ⟨_, ⟨ns, r.now, r.rcode, r.delay, rfl, hns, hlast⟩, rfl⟩
  · exact .inl rfl

theorem sampled_tries :
    Tries env statp retryTimes s (sampled revisionId first ns r s) := by
  rcases sampled_cases hserver hlast first hfirst r with heq | ⟨e, he, heq⟩
  · rw [heq]
  · rw [heq]
    exact .single (.sample he)

theorem sampled_ends {result : Int} :
    Ends (AfterAnswer env statp result) s (sampled revisionId first ns r s) := by
  rcases sampled_cases hserver hlast first hfirst r with heq | ⟨e, he, heq⟩
  · rw [heq]
    exact .refl
  · rw [heq]
    exact .add .refl (.inl he)

end

@[simp] theorem sampled_terrno (first : Bool) (r : SendResult) :
    (sampled revisionId first ns r s).terrno = s.terrno := by
  unfold sampled
  split <;> rfl

@[simp] theorem sampled_vCircuit (first : Bool) (r : SendResult) :
    (sampled revisionId first ns r s).vCircuit = s.vCircuit := by
  unfold sampled
  split <;> rfl

/-! ## The functions of `res_nsend` -/

/-- Where a part of the call leads: to its end, or on. -/
def Leads (env : Env) (statp : ResState) (cacheStatus : CacheStatus) (retryTimes : Nat)
    (s : Sending) (result : Option Int) (s' : Sending) : Prop :=
  match result with
  | some result => Returned env statp cacheStatus retryTimes s result s'
  | none => Tries env statp retryTimes s s'

theorem Leads.after {result : Option Int} (h : Tries env statp retryTimes s t)
    (hleads : Leads env statp cacheStatus retryTimes t result s') :
    Leads env statp cacheStatus retryTimes s result s' := by
  cases result with
  | some result => exact Returned.after h hleads
  | none => exact h.trans hleads

/-- The result of a cleartext query, if it has one. -/
def Next.result : Next → Option Int
  | .ret result => some result
  | .nextNs => none
  | .sameNs => none

/-- With no result the call goes on in cleartext. -/
theorem tryPrivateDns_leads (env : Env) (statp : ResState) (cacheStatus : CacheStatus)
    (retryTimes : Nat) (s : Sending) :
    Leads env statp cacheStatus retryTimes s (tryPrivateDns env statp cacheStatus s).1
        (tryPrivateDns env statp cacheStatus s).2 ∧
      ((tryPrivateDns env statp cacheStatus s).1 = none →
        Cleared env statp (tryPrivateDns env statp cacheStatus s).2.trace) := by
  unfold tryPrivateDns
  split
  · next huse => exact ⟨.refl, fun _ => .inl huse⟩
  have hcall : Tries env statp retryTimes s _ := .single (.sends .tls)
  dsimp only
  split
  · rename_i hpos
    refine ⟨.answer .refl .tls hpos (fun ns htrace => ?_) (.cacheAnswer .refl cacheStatus)
      mem_cacheAnswer, fun hnone => by cases hnone⟩
    cases (append_inj' htrace rfl).2
  · split
    · rename_i hfallback
      exact ⟨hcall, fun _ => .inr (Trace.ends_snoc ⟨_, _, rfl, hfallback⟩)⟩
    · exact ⟨.error hcall id (Ends.failed .refl) mem_failed, fun hnone => by cases hnone⟩

section

variable (env : Env) (cacheStatus : CacheStatus) (hserver : statp.nsaddrs[ns]? = some nsap)
  (hfirst : s.attempt = 0 → revisionId = (env.stats 0).1)
include hfirst

theorem first_of_decide : decide (s.attempt = 0) = true → revisionId = (env.stats 0).1 :=
  fun htrue => hfirst (of_decide_eq_true htrue)

include hserver

/-- A virtual circuit ends the first attempt, and its own sample is still one of it. -/
theorem useVirtualCircuit_leads (hretry : retryTimes ≠ 0) (hcleared : Cleared env statp s.trace) :
    Leads env statp cacheStatus retryTimes s
      (useVirtualCircuit env statp cacheStatus retryTimes revisionId ns nsap s).1.result
      (useVirtualCircuit env statp cacheStatus retryTimes revisionId ns nsap s).2 := by
  have hsends : Sends env statp retryTimes s _ _ := .vc hserver hretry hcleared
  have hlast : AtServer ns (s.trace ++ [.sendVc ns]) := Trace.ends_snoc (beq_self_eq_true ns)
  have hfirst' := first_of_decide env hfirst
  have hsampled := (Relation.ReflTransGen.single (Try.sends hsends)).trans
    (sampled_tries hserver hlast _ hfirst' (env.sendVc s.trace.length nsap))
  unfold useVirtualCircuit
  dsimp only
  split
  · rw [sampled_terrno]
    exact .error hsampled (by rw [sampled_terrno]; exact id) (Ends.failed .refl) mem_failed
  split
  · exact hsampled
  refine .answer .refl hsends (by omega) (fun ns' htrace => ?_)
    ((sampled_ends hserver hlast _ hfirst' _).answered cacheStatus) mem_answered
  cases (append_inj' htrace rfl).2

theorem useDatagrams_leads (retryTimes : Nat) (hcleared : Cleared env statp s.trace) :
    Leads env statp cacheStatus retryTimes s
      (useDatagrams env statp cacheStatus revisionId ns nsap s).1.result
      (useDatagrams env statp cacheStatus revisionId ns nsap s).2 := by
  have hsends : Sends env statp retryTimes s _ _ := .dg hserver hcleared
  have hlast : AtServer ns (s.trace ++ [.sendDg ns]) := Trace.ends_snoc (beq_self_eq_true ns)
  have hfirst' := first_of_decide env hfirst
  have hsampled := (Relation.ReflTransGen.single (Try.sends hsends)).trans
    (sampled_tries hserver hlast _ hfirst' (env.sendDg s.trace.length nsap))
  unfold useDatagrams
  dsimp only
  split
  · rw [sampled_terrno]
    exact .error hsampled (by rw [sampled_terrno]; exact id) (Ends.failed .refl) mem_failed
  split
  · exact hsampled
  split
  · exact hsampled
  rename_i hcircuit
  rw [sampled_vCircuit] at hcircuit
  exact .answer .refl hsends (by omega) (fun _ _ => Bool.eq_false_iff.mpr hcircuit)
    ((sampled_ends hserver hlast _ hfirst' _).answered cacheStatus) mem_answered

variable (hretry : retryTimes ≠ 0)
include hretry

theorem pass_leads :
    Leads env statp cacheStatus retryTimes s
      (pass env statp cacheStatus retryTimes revisionId ns nsap s).1.result
      (pass env statp cacheStatus retryTimes revisionId ns nsap s).2 := by
  obtain ⟨htried, hcleared⟩ := tryPrivateDns_leads env statp cacheStatus retryTimes s
  unfold pass
  split
  · rename_i htry
    rw [htry] at htried
    exact htried
  rename_i htry
  rw [htry] at htried hcleared
  have hfirst' := fun hzero => hfirst (Tries.attempt htried hretry hzero)
  split
  · exact .after htried
      (useVirtualCircuit_leads env cacheStatus hserver hfirst' hretry (hcleared rfl))
  · exact .after htried
      (useDatagrams_leads env cacheStatus hserver hfirst' retryTimes (hcleared rfl))

theorem queryServer_leads :
    Leads env statp cacheStatus retryTimes s
      (queryServer env statp cacheStatus retryTimes revisionId ns nsap s).1.result
      (queryServer env statp cacheStatus retryTimes revisionId ns nsap s).2 := by
  have hpassed := pass_leads env cacheStatus hserver hfirst hretry
  unfold queryServer
  split
  · rename_i hpass
    rw [hpass] at hpassed
    exact .after hpassed (pass_leads env cacheStatus hserver
      (fun hzero => hfirst (Tries.attempt hpassed hretry hzero)) hretry)
  · exact hpassed

end

theorem eachServer_leads (env : Env) (cacheStatus : CacheStatus) (hretry : retryTimes ≠ 0)
    (usable : Nat → Bool) {servers : List (SockaddrStorage × Nat)}
    (hservers : ∀ server ∈ servers, statp.nsaddrs[server.2]? = some server.1)
    (hfirst : s.attempt = 0 → revisionId = (env.stats 0).1) :
    Leads env statp cacheStatus retryTimes s
      (eachServer env statp cacheStatus retryTimes revisionId usable servers s).1
      (eachServer env statp cacheStatus retryTimes revisionId usable servers s).2 := by
  induction servers generalizing s with
  | nil => exact .refl
  | cons server servers ih =>
    obtain ⟨nsap, ns⟩ := server
    have hrest := fun server hmem => hservers server (mem_cons_of_mem _ hmem)
    unfold eachServer
    split
    · have hquery : Leads env statp cacheStatus retryTimes s _ _ := .after (.single .server)
        (queryServer_leads env cacheStatus (hservers _ mem_cons_self) hfirst hretry)
      generalize queryServer env statp cacheStatus retryTimes revisionId ns nsap
        { s with rcode := rcodeInternalError } = queried at hquery ⊢
      obtain ⟨next, t⟩ := queried
      cases next with
      | ret result => exact hquery
      | nextNs | sameNs =>
        exact .after hquery (ih hrest fun hzero => hfirst (Tries.attempt hquery hretry hzero))
    · exact ih hrest hfirst

/-- What the servers of an attempt lead to. -/
theorem eachServer_zipIdx_leads (env : Env) (statp : ResState) (cacheStatus : CacheStatus)
    (hretry : retryTimes ≠ 0) (s : Sending) :
    Leads env statp cacheStatus retryTimes s
      (eachServer env statp cacheStatus retryTimes (env.stats s.attempt).1
        (env.stats s.attempt).2 statp.nsaddrs.zipIdx s).1
      (eachServer env statp cacheStatus retryTimes (env.stats s.attempt).1
        (env.stats s.attempt).2 statp.nsaddrs.zipIdx s).2 := by
  refine eachServer_leads env cacheStatus hretry _ (fun server hmem => ?_) fun hzero => by
    rw [hzero]
  obtain ⟨_, hget⟩ := mem_zipIdx' hmem
  rw [hget, List.getElem?_eq_getElem]

theorem eachAttempt_leads (env : Env) (statp : ResState) (cacheStatus : CacheStatus)
    (retryTimes fuel : Nat) (s : Sending) :
    Leads env statp cacheStatus retryTimes s
      (eachAttempt env statp cacheStatus retryTimes fuel s).1
      (eachAttempt env statp cacheStatus retryTimes fuel s).2 := by
  induction fuel generalizing s with
  | zero => exact .refl
  | succ fuel ih =>
    unfold eachAttempt
    split
    · rename_i hlt
      have htried := eachServer_zipIdx_leads env statp cacheStatus (Nat.ne_zero_of_lt hlt) s
      dsimp only
      generalize eachServer env statp cacheStatus retryTimes (env.stats s.attempt).1
        (env.stats s.attempt).2 statp.nsaddrs.zipIdx s = tried at htried ⊢
      obtain ⟨result, t⟩ := tried
      cases result with
      | some result => exact htried
      | none => exact .after (Relation.ReflTransGen.tail htried .attempt) (ih _)
    · exact .refl

/-- The loop over the attempts ends because it has made them all: the bound on them does not cut
it short. -/
theorem eachAttempt_exhausted {a fuel : Nat} (hs : a ≤ s.attempt) (hfuel : retryTimes ≤ a + fuel)
    (hnone : (eachAttempt env statp cacheStatus retryTimes fuel s).1 = none) :
    retryTimes ≤ (eachAttempt env statp cacheStatus retryTimes fuel s).2.attempt := by
  induction fuel generalizing s a with
  | zero => exact hfuel.trans hs
  | succ fuel ih =>
    unfold eachAttempt at hnone ⊢
    split
    · rename_i hlt
      rw [if_pos hlt] at hnone
      have htried := eachServer_zipIdx_leads env statp cacheStatus (Nat.ne_zero_of_lt hlt) s
      dsimp only at hnone ⊢
      generalize eachServer env statp cacheStatus retryTimes (env.stats s.attempt).1
        (env.stats s.attempt).2 statp.nsaddrs.zipIdx s = tried at htried hnone ⊢
      obtain ⟨result, t⟩ := tried
      cases result with
      | some result => cases hnone
      | none =>
        have hattempt := Tries.attempt_le htried hlt.le le_rfl
        exact ih (Nat.succ_le_succ hattempt) (by omega) hnone
    · next hge => exact Nat.le_of_not_lt hge

/-- The part of `res_nsend` that sends ends in one of the two ways. -/
theorem sendToServers_returned (env : Env) (statp : ResState) (cacheStatus : CacheStatus)
    (query : Query) (s : Sending) :
    ∃ retryTimes, Returned env (rotated statp) cacheStatus retryTimes s
      (sendToServers env statp cacheStatus query s).1
      (sendToServers env statp cacheStatus query s).2 := by
  refine ⟨if query.noRetry then 1 else statp.retry, ?_⟩
  unfold sendToServers
  dsimp only
  generalize (if query.noRetry then 1 else statp.retry) = retryTimes
  have hclosed : Tries env (rotated statp) retryTimes s
      (if env.needclose then s.add .resNclose else s) := by
    split
    · exact .single .close
    · exact .refl
  have htried := Leads.after hclosed
    (eachAttempt_leads env (rotated statp) cacheStatus retryTimes retryTimes _)
  generalize eachAttempt env (rotated statp) cacheStatus retryTimes retryTimes
    (if env.needclose then s.add .resNclose else s) = tried at htried ⊢
  obtain ⟨result, t⟩ := tried
  cases result with
  | some result => exact htried
  | none =>
    refine .error htried (fun hterrno => ?_) ?_ (by simp [add])
    · split
      · exact hterrno
      · split <;> decide
    · exact .add (.terrno (.add .refl (.inl rfl)) _) (.inr rfl)

/-! ## Answers over TLS -/

theorem not_answer {P : Prop} (h : (0 : Int) < -1) : P := absurd h (by decide)

theorem queryOverTls_answer (k rcode : Nat) (status : PrivateDnsStatus)
    (statuses : List PrivateDnsStatus) :
    0 < (queryOverTls env statp k rcode status statuses).resplen →
      queryOverTls env statp k rcode status statuses =
        ⟨statuses, some status.validatedServers,
          (env.tlsQuery k statp.mark status.validatedServers).resplen,
          (env.tlsQuery k statp.mark status.validatedServers).rcode, false⟩ := by
  simp only [queryOverTls]
  split
  · split
    · exact fun _ => rfl
    · exact not_answer
    · exact not_answer
    · exact not_answer
  · split
    · exact fun _ => rfl
    · exact not_answer
    · exact not_answer
    · exact not_answer

/-- An answer of `res_tls_send` is the one of a TLS query. -/
theorem resTlsSend_answer (k rcode : Nat) :
    0 < (resTlsSend env statp k rcode).resplen →
      ∃ statuses servers, resTlsSend env statp k rcode =
        ⟨statuses, some servers, (env.tlsQuery k statp.mark servers).resplen,
          (env.tlsQuery k statp.mark servers).rcode, false⟩ := by
  simp only [resTlsSend]
  split
  · exact not_answer
  split
  · split
    · exact not_answer
    split
    · exact not_answer
    · exact fun hpos => ⟨_, _, queryOverTls_answer _ _ _ _ hpos⟩
  · exact fun hpos => ⟨_, _, queryOverTls_answer _ _ _ _ hpos⟩

/-! ## From the lookup on -/

/-- The events of a call up to the point where it sends. -/
def opening (status : CacheStatus) : List Event :=
  if status = .unsupported then [.cacheLookup status] else [.cacheLookup status, .populate]

/-- The state of the resolver at that point. -/
def populated (env : Env) (statp : ResState) : ResState :=
  if env.cacheLookup.1 = .unsupported then statp
  else { statp with nsaddrs := env.populate statp.nsaddrs }

/-- The locals at that point. -/
def opened (env : Env) (statp : ResState) (query : Query) (rcode : Nat) : Sending :=
  ⟨opening env.cacheLookup.1, 0, 0, statp.useVc || query.buflen > packetsz, false,
    Errno.etimedout, rcode⟩

section

variable (env : Env) (statp : ResState) (query : Query) (rcode : Nat)
  (hsize : ¬ query.anssiz < hfixedsz)
include hsize

theorem resNsend_of_found (hfound : env.cacheLookup.1 = .found) :
    resNsend env statp query rcode =
      (env.cacheLookup.2, ⟨[.cacheLookup .found], 0, 0,
        statp.useVc || query.buflen > packetsz, false, Errno.etimedout, rcode⟩) := by
  simp only [resNsend, hsize, hfound, if_true, if_false, add, nil_append]

/-- A call that has missed the cache goes on with `sendToServers` if it has servers. -/
theorem resNsend_of_miss (hfound : env.cacheLookup.1 ≠ .found) :
    resNsend env statp query rcode =
      if (populated env statp).nsaddrs = [] then
        (-Errno.esrch, (opened env statp query rcode).add .cacheQueryFailed)
      else
        sendToServers env (populated env statp) env.cacheLookup.1 query
          (opened env statp query rcode) := by
  by_cases hstatus : env.cacheLookup.1 = .unsupported
  · simp only [resNsend, populated, opened, opening, hsize, hstatus, if_true, if_false,
      reduceCtorEq, add, nil_append]
  simp only [resNsend, populated, opened, opening, hsize, hfound, hstatus, if_false, add,
    nil_append, cons_append]

end

/-! ## A rule for the events -/

/-- A property of traces that is kept by the events of a call that has `n` servers and has
read `revision` in its first attempt. -/
structure Emits (revision : Int) (n : Nat) (I : List Event → Prop) : Prop where
  quiet : ∀ {t e}, I t → e.isQuiet = true → I (t ++ [e])
  tls : ∀ {t} (call : TlsCall), I t → I (t ++ [.resTlsSend call])
  contact : ∀ {t e ns}, I t → e.contacts ns = true → I (t ++ [e])
  sample : ∀ {t ns} (now rcode delay : Nat), I t → ns < n → AtServer ns t →
    I (t ++ [.addSample revision ns now rcode delay])

section

variable {I : List Event → Prop} (hI : Emits (env.stats 0).1 statp.nsaddrs.length I)
include hI

theorem Emits.isSample {t : List Event} {e : Event} (ht : I t) (he : IsSample env statp t e) :
    I (t ++ [e]) := by
  obtain ⟨ns, now, rcode, delay, rfl, hns, hlast⟩ := he
  exact hI.sample now rcode delay ht hns hlast

theorem Sends.emits {n : Int} (h : Sends env statp retryTimes s n s') (hs : I s.trace) :
    I s'.trace := by
  cases h with
  | tls => exact hI.tls _ hs
  | vc _ _ _ | dg _ _ => exact hI.contact hs (beq_self_eq_true _)

theorem Tries.emits (h : Tries env statp retryTimes s s') (hs : I s.trace) : I s'.trace := by
  induction h with
  | refl => exact hs
  | tail _ htry ih =>
    cases htry with
    | sends hsends => exact hsends.emits hI ih
    | sample he => exact hI.isSample ih he
    | close => exact hI.quiet ih rfl
    | server | attempt => exact ih

omit hI in
theorem Ends.emits {P : List Event → Event → Prop} (hP : ∀ {t e}, I t → P t e → I (t ++ [e]))
    (h : Ends P s s') (hs : I s.trace) : I s'.trace := by
  induction h with
  | refl => exact hs
  | add _ he ih => exact hP ih he
  | terrno _ _ ih => exact ih

theorem Returned.emits {result : Int}
    (h : Returned env statp cacheStatus retryTimes s result s') (hs : I s.trace) : I s'.trace := by
  cases h with
  | answer htries hsends _ _ hends _ =>
    refine hends.emits (fun ht he => ?_) (hsends.emits hI (htries.emits hI hs))
    rcases he with hsample | rfl | rfl
    · exact hI.isSample ht hsample
    · exact hI.quiet ht rfl
    · exact hI.quiet ht rfl
  | error htries _ hends _ =>
    refine hends.emits (fun ht he => ?_) (htries.emits hI hs)
    rcases he with rfl | rfl
    · exact hI.quiet ht rfl
    · exact hI.quiet ht rfl

end

end Netd.ResSend
