import Netd.Resolv.CacheAnswers
import Netd.Resolv.Cleartext
import Netd.Resolv.SendSockets

/-!
# The rcode of an answer

`res_nsend` reports the rcode of the answer through a pointer.  A TLS query, a virtual circuit and
a datagram set it from the header in the answer buffer.  An answer from the cache leaves it as the
caller has set it, and negative answers are cached.

The answer buffer after a call is what the last operation that writes it leaves there
(`answerOf`).
-/

namespace Netd.ResSend

open ResCache Sending

/-! ## The outside, with the bytes of the answers -/

/-- A TLS query: the buffer before it, and what the server answers. -/
structure TlsAnswer where
  before : List Byte
  response : Response
  bytes : List Byte

/-- `DnsTlsDispatcher::query`, and the rcode that `res_tls_send` reads in the buffer. -/
def TlsAnswer.result (a : TlsAnswer) (anssiz : Nat) : TlsResult :=
  match a.response with
  | .success =>
    if a.bytes.length > anssiz then ⟨.limitError, 0, 0⟩
    else ⟨.success, a.bytes.length, headerRcode (overwrite a.before a.bytes)⟩
  | response => ⟨response, 0, 0⟩

def TlsAnswer.after (a : TlsAnswer) (anssiz : Nat) : List Byte :=
  if a.response = .success ∧ ¬ a.bytes.length > anssiz then overwrite a.before a.bytes
  else a.before

/-- A call of `send_vc`, with the times it takes. -/
structure VcCall where
  args : Args
  script : VcScript
  again : VcScript
  now : Nat
  delay : Nat

def VcCall.sent (call : VcCall) (query : List Byte) (anssiz : Nat) : Sent :=
  sendVc query anssiz call.args call.script call.again

def VcCall.result (call : VcCall) (query : List Byte) (anssiz : Nat) : SendResult :=
  let sent := call.sent query anssiz
  ⟨sent.n, sent.terrno, false, false, call.now, sent.rcode, call.delay⟩

/-- A call of `send_dg`, with the times it takes. -/
structure DgCall where
  args : Args
  script : DgScript
  now : Nat
  delay : Nat

def DgCall.sent (call : DgCall) (query : List Byte) (anssiz : Nat) : DgSent :=
  sendDg query anssiz call.args call.script

def DgCall.result (call : DgCall) (query : List Byte) (anssiz : Nat) : SendResult :=
  let sent := call.sent query anssiz
  ⟨sent.n, sent.terrno, sent.vCircuit, sent.gotsomewhere, call.now, sent.rcode, call.delay⟩

/-- What a run finds outside, down to the bytes. -/
structure Outside where
  /-- The rest of the environment. -/
  env : Env
  /-- `_resolv_cache_lookup` -/
  lookup : ResCache.Cache.LookupResult
  /-- By the number of `getStatus` calls before, as in `Env`. -/
  tls : Nat → Nat → List DnsTlsServer → TlsAnswer
  /-- By the number of events before. -/
  vc : Nat → SockaddrStorage → VcCall
  dg : Nat → SockaddrStorage → DgCall

def Outside.toEnv (o : Outside) (query : List Byte) (anssiz : Nat) : Env :=
  { o.env with
    cacheLookup := (o.lookup.status, o.lookup.answerlen.getD 0)
    tlsQuery := fun k mark servers => (o.tls k mark servers).result anssiz
    sendVc := fun k nsap => (o.vc k nsap).result query anssiz
    sendDg := fun k nsap => (o.dg k nsap).result query anssiz }

/-! ## The answer buffer -/

def Event.statusReads : Event → Nat
  | .resTlsSend call => call.statuses.length
  | _ => 0

/-- The `getStatus` calls of some events. -/
def readsOf (t : List Event) : Nat := (t.map Event.statusReads).sum

section

variable (o : Outside) (query : List Byte) (anssiz : Nat) (statp : ResState)

/-- The answer buffer after an event that writes it, with the events before. -/
def writtenBy (pre : List Event) : Event → Option (List Byte)
  | .cacheLookup .found => some o.lookup.written
  | .resTlsSend call =>
    call.queried.map fun servers => (o.tls (readsOf pre) statp.mark servers).after anssiz
  | .sendVc ns =>
    statp.nsaddrs[ns]?.map fun nsap => ((o.vc pre.length nsap).sent query anssiz).ans
  | .sendDg ns =>
    statp.nsaddrs[ns]?.map fun nsap => ((o.dg pre.length nsap).sent query anssiz).ans
  | _ => none

/-- The events so far and the buffer, after one more event. -/
def bufferStep (sofar : List Event × List Byte) (e : Event) : List Event × List Byte :=
  (sofar.1 ++ [e], (writtenBy o query anssiz statp sofar.1 e).getD sofar.2)

def answerOf (t : List Event) : List Byte := (t.foldl (bufferStep o query anssiz statp) ([], [])).2

end

variable {o : Outside} {query : List Byte} {anssiz : Nat} {statp : ResState}
  {cacheStatus : CacheStatus} {retryTimes : Nat} {revisionId : Int} {ns : Nat}
  {nsap : SockaddrStorage} {s s' : Sending}

theorem foldl_bufferStep_fst (t : List Event) (sofar : List Event × List Byte) :
    (t.foldl (bufferStep o query anssiz statp) sofar).1 = sofar.1 ++ t := by
  induction t generalizing sofar with
  | nil => simp
  | cons e t ih =>
    rw [List.foldl_cons, ih]
    simp [bufferStep]

theorem answerOf_snoc (t : List Event) (e : Event) :
    answerOf o query anssiz statp (t ++ [e]) =
      (writtenBy o query anssiz statp t e).getD (answerOf o query anssiz statp t) := by
  rw [answerOf, List.foldl_append, List.foldl_cons, List.foldl_nil, bufferStep,
    foldl_bufferStep_fst, List.nil_append, answerOf]

theorem readsOf_snoc (t : List Event) (e : Event) :
    readsOf (t ++ [e]) = readsOf t + e.statusReads := by
  simp [readsOf]

/-! ## What the operations report -/

/-- A result that is positive comes with the rcode in the header of the answer. -/
def Sent.Honest (sent : Sent) : Prop := 0 < sent.n → sent.rcode = headerRcode sent.ans

theorem honest_of_nonpos {sent : Sent} (h : sent.n ≤ 0) : sent.Honest :=
  fun hpos => absurd h (not_le.mpr hpos)

theorem honest_answer {n : Int} {terrno : Nat} {ans : List Byte} :
    (⟨n, terrno, headerRcode ans, ans⟩ : Sent).Honest := fun _ => rfl

theorem tryVc_honest (query : List Byte) (anssiz : Nat) (args : Args) (script : VcScript) :
    (tryVc query anssiz args script).2.Honest := by
  rw [tryVc]
  cases script.setup with
  | connected =>
    simp only
    split
    · exact honest_of_nonpos le_rfl
    split
    · exact honest_of_nonpos le_rfl
    · exact honest_of_nonpos le_rfl
    · exact honest_answer
  | unsupported => exact honest_of_nonpos le_rfl
  | socketFailed errno | setsockoptFailed errno => exact honest_of_nonpos (by simp)
  | bindFailed errno | connectFailed errno => exact honest_of_nonpos le_rfl

theorem sendVc_honest (query : List Byte) (anssiz : Nat) (args : Args) (script again : VcScript) :
    (sendVc query anssiz args script again).Honest := by
  have hfirst := tryVc_honest query anssiz args script
  rw [sendVc]
  split
  · rename_i htry
    rw [htry] at hfirst
    exact hfirst
  · exact tryVc_honest _ _ _ _

/-- A datagram that is truncated makes `res_nsend` try a virtual circuit. -/
def DgSent.Honest (sent : DgSent) : Prop := sent.vCircuit = false → sent.toSent.Honest

theorem awaitAnswer_honest (useEdns0 gotsomewhere : Bool) (args : Args)
    (datagrams : List Datagram) :
    (awaitAnswer query anssiz useEdns0 args gotsomewhere datagrams).Honest := by
  induction datagrams generalizing args gotsomewhere with
  | nil => exact fun _ => honest_of_nonpos le_rfl
  | cons datagram datagrams ih =>
    cases datagram with
    | timeout | failed => exact fun _ => honest_of_nonpos le_rfl
    | received first more ours queriesMatch =>
      simp only [awaitAnswer]
      split
      · exact fun _ => honest_of_nonpos le_rfl
      split
      · exact ih _ _
      split
      · exact ih _ _
      split
      · exact fun _ => honest_of_nonpos le_rfl
      split
      · exact ih _ _
      split
      · exact fun _ => honest_of_nonpos le_rfl
      split
      · exact fun hcircuit => by cases hcircuit
      · exact fun _ => honest_answer

theorem sendDg_honest (query : List Byte) (anssiz : Nat) (args : Args) (script : DgScript) :
    (sendDg query anssiz args script).Honest := by
  rw [sendDg]
  cases script.setup with
  | failed => exact fun _ => honest_of_nonpos le_rfl
  | socketFailed errno | setsockoptFailed => exact fun _ => honest_of_nonpos (by simp)
  | sent => exact awaitAnswer_honest _ _ _ _

theorem TlsAnswer.result_rcode (a : TlsAnswer) (h : 0 < (a.result anssiz).resplen) :
    (a.result anssiz).rcode = headerRcode (a.after anssiz) := by
  rw [TlsAnswer.result] at h ⊢
  cases hresponse : a.response with
  | success =>
    simp only [hresponse] at h ⊢
    split
    · next hsize => simp [hsize] at h
    · next hsize => rw [TlsAnswer.after, if_pos ⟨hresponse, hsize⟩]
  | _ => simp [hresponse] at h

/-- A call of `res_tls_send` that gives an answer has the rcode in the header of the buffer
after its TLS query. -/
def TlsCall.Honest (o : Outside) (anssiz : Nat) (statp : ResState) (k : Nat) (call : TlsCall) :
    Prop :=
  0 < call.resplen → ∃ servers, call.queried = some servers ∧
    call.rcode = headerRcode ((o.tls k statp.mark servers).after anssiz)

theorem resTlsSend_honest (k rcode : Nat) :
    (resTlsSend (o.toEnv query anssiz) statp k rcode).Honest o anssiz statp k := by
  intro hpos
  obtain ⟨statuses, servers, hcall⟩ := resTlsSend_answer k rcode hpos
  rw [hcall] at hpos ⊢
  exact ⟨servers, rfl, TlsAnswer.result_rcode _ hpos⟩

/-! ## The state of a call -/

/-- The count of the `getStatus` calls is right, and `terrno` is not negative. -/
structure InStep (s : Sending) : Prop where
  reads : s.statusReads = readsOf s.trace
  terrno : 0 ≤ s.terrno

theorem readsOf_quiet (s : Sending) {e : Event} (he : e.statusReads = 0) :
    readsOf (s.add e).trace = readsOf s.trace := by
  rw [add, readsOf_snoc, he, Nat.add_zero]

theorem Sends.inStep {n : Int} (h : Sends (o.toEnv query anssiz) statp retryTimes s n s')
    (hs : InStep s) : InStep s' := by
  cases h with
  | tls =>
    refine ⟨?_, hs.terrno⟩
    simp only [afterTls, add, readsOf_snoc, hs.reads, Event.statusReads]
  | vc _ _ _ | dg _ _ =>
    refine ⟨?_, Int.natCast_nonneg _⟩
    exact hs.reads.trans (readsOf_quiet _ rfl).symm

theorem Tries.inStep (h : Tries (o.toEnv query anssiz) statp retryTimes s s') (hs : InStep s) :
    InStep s' := by
  induction h with
  | refl => exact hs
  | tail _ htry ih =>
    cases htry with
    | sends hsends => exact hsends.inStep ih
    | sample he =>
      obtain ⟨ns, now, rcode, delay, rfl, -⟩ := he
      exact ⟨ih.reads.trans (readsOf_quiet _ rfl).symm, ih.terrno⟩
    | close => exact ⟨ih.reads.trans (readsOf_quiet _ rfl).symm, ih.terrno⟩
    | server | attempt => exact ⟨ih.reads, ih.terrno⟩

/-- A result that is positive comes with the rcode in the header of the answer buffer. -/
def Reports (o : Outside) (query : List Byte) (anssiz : Nat) (statp : ResState) (result : Int)
    (s : Sending) : Prop :=
  0 < result → s.rcode = headerRcode (answerOf o query anssiz statp s.trace)

variable {result : Int} {noRetry : Bool}

theorem AfterAnswer.writtenBy {env : Env} {t : List Event} {e : Event}
    (h : AfterAnswer env statp result t e) (pre : List Event) :
    writtenBy o query anssiz statp pre e = none := by
  rcases h with ⟨ns, now, rcode, delay, rfl, -⟩ | rfl | rfl
  · rfl
  · rfl
  · rfl

theorem Ends.answerOf_eq {env : Env} (h : Ends (AfterAnswer env statp result) s s') :
    answerOf o query anssiz statp s'.trace = answerOf o query anssiz statp s.trace := by
  induction h with
  | refl => rfl
  | add _ he ih =>
    rw [Sending.add, answerOf_snoc, he.writtenBy, Option.getD_none]
    exact ih
  | terrno _ _ ih => exact ih

theorem Sends.reports (hs : InStep s)
    (h : Sends (o.toEnv query anssiz) statp retryTimes s result s')
    (hcircuit : ∀ ns, s'.trace = s.trace ++ [.sendDg ns] → s'.vCircuit = false) :
    Reports o query anssiz statp result s' := by
  intro hpos
  cases h with
  | tls =>
    obtain ⟨servers, hqueried, hrcode⟩ := resTlsSend_honest s.statusReads s.rcode hpos
    simp only [afterTls]
    rw [hrcode, add, answerOf_snoc, writtenBy, hqueried, hs.reads]
    rfl
  | @vc ns nsap hserver _ _ =>
    have hhonest := sendVc_honest query anssiz (o.vc s.trace.length nsap).args
      (o.vc s.trace.length nsap).script (o.vc s.trace.length nsap).again hpos
    simp only [afterVc]
    rw [add, answerOf_snoc, writtenBy, hserver]
    exact hhonest
  | @dg ns nsap hserver _ =>
    have hhonest := sendDg_honest query anssiz (o.dg s.trace.length nsap).args
      (o.dg s.trace.length nsap).script (hcircuit ns rfl) hpos
    simp only [afterDg]
    rw [add, answerOf_snoc, writtenBy, hserver]
    exact hhonest

theorem Returned.reports
    (h : Returned (o.toEnv query anssiz) statp cacheStatus retryTimes s result s') (hs : InStep s) :
    Reports o query anssiz statp result s' := by
  cases h with
  | answer htries hsends _ hcircuit hends _ =>
    intro hpos
    rw [hends.rcode, hends.answerOf_eq]
    exact hsends.reports (htries.inStep hs) hcircuit hpos
  | error htries hterrno _ _ =>
    intro hpos
    exact absurd (neg_nonpos.mpr (hterrno (htries.inStep hs).terrno)) (not_le.mpr hpos)

theorem inStep_opened (env : Env) (statp : ResState) (query : Query) (rcode : Nat) :
    InStep (opened env statp query rcode) := by
  refine ⟨?_, by simp [opened, Errno.etimedout]⟩
  simp only [opened, opening]
  split <;> simp [readsOf, Event.statusReads]

def noerror : Nat := 0

/-- `res_nsend` with `*rcode = NOERROR`, on a query with its bytes. -/
def resNsendQuery (o : Outside) (statp : ResState) (query : List Byte) (anssiz : Nat)
    (noRetry : Bool) : Int × Sending :=
  resNsend (o.toEnv query anssiz) statp ⟨query.length, anssiz, noRetry⟩ noerror

theorem anssiz_of_answer (hpos : 0 < (resNsendQuery o statp query anssiz noRetry).1) :
    ¬ anssiz < hfixedsz := by
  intro hsize
  rw [resNsendQuery, resNsend, if_pos hsize] at hpos
  exact absurd (show 0 < -Errno.einval from hpos) (by decide)

/-- An answer that is not from the cache comes from the servers. -/
theorem resNsendQuery_returned (hfound : o.lookup.status ≠ .found)
    (hpos : 0 < (resNsendQuery o statp query anssiz noRetry).1) :
    ∃ retryTimes, Returned (o.toEnv query anssiz)
      (rotated (populated (o.toEnv query anssiz) statp)) o.lookup.status retryTimes
      (opened (o.toEnv query anssiz) statp ⟨query.length, anssiz, noRetry⟩ noerror)
      (resNsendQuery o statp query anssiz noRetry).1
      (resNsendQuery o statp query anssiz noRetry).2 := by
  have hsize := anssiz_of_answer hpos
  rw [resNsendQuery, resNsend_of_miss _ _ _ noerror hsize hfound] at hpos ⊢
  split at hpos
  · exact absurd (show 0 < -Errno.esrch from hpos) (by decide)
  · rw [if_neg ‹_›]
    exact sendToServers_returned _ _ _ _ _

/-- **An answer comes with the rcode in its header** exactly if it is no error from the cache. -/
theorem rcode_of_answer (o : Outside) (statp : ResState) (query : List Byte) (anssiz : Nat)
    (noRetry : Bool) (hpos : 0 < (resNsendQuery o statp query anssiz noRetry).1) :
    (resNsendQuery o statp query anssiz noRetry).2.rcode =
        headerRcode (answerOf o query anssiz (rotated (populated (o.toEnv query anssiz) statp))
          (resNsendQuery o statp query anssiz noRetry).2.trace) ↔
      (o.lookup.status = .found → headerRcode o.lookup.written = noerror) := by
  by_cases hfound : o.lookup.status = .found
  · -- the buffer has the answer of the cache, and the rcode is still the one of the caller
    rw [resNsendQuery, resNsend_of_found _ _ _ noerror (anssiz_of_answer hpos) hfound]
    exact ⟨fun h _ => h.symm, fun h => (h hfound).symm⟩
  · obtain ⟨retryTimes, hreturned⟩ := resNsendQuery_returned hfound hpos
    exact iff_of_true (hreturned.reports (inStep_opened _ _ _ _) hpos) fun h => absurd h hfound

/-- A network without private DNS and with one server, and what a lookup in the cache and a
wait for a datagram give. -/
def plainOutside (lookup : ResCache.Cache.LookupResult) (datagram : Datagram) : Outside where
  env := truncating .off
  lookup := lookup
  tls _ _ _ := ⟨[], .networkError, []⟩
  vc _ _ := ⟨⟨[], 0, 0⟩, ⟨.unsupported, none, []⟩, ⟨.unsupported, none, []⟩, 0, 0⟩
  dg _ _ := ⟨⟨[], 0, 0⟩, ⟨.sent, [datagram], false⟩, 0, 0⟩

/-- The end of an answer that there is no name `a`: the SOA record of the root, with a minute
to live. -/
def nxdomainTail : List Byte :=
  [131, 0, 1, 0, 0, 0, 1, 0, 0, 1, 97, 0, 0, 1, 0, 1, 0, 0, 6, 0, 1, 0, 0, 0, 60, 0, 22, 0, 0] ++
    List.replicate 19 0 ++ [60]

def nxdomainAnswer (id : Byte) : List Byte := 0 :: id :: 129 :: nxdomainTail

/-- A name that does not exist is reported as such when a server says so. -/
theorem rcode_of_answer_nxdomain :
    (resNsendQuery (plainOutside (.miss .notfound)
      (.received 0 (7 :: 129 :: nxdomainTail) true true)) freshState (sampleQuery 7) 512
      false).2.rcode = 3 := by
  have hrcode := (rcode_of_answer (plainOutside (.miss .notfound)
    (.received 0 (7 :: 129 :: nxdomainTail) true true)) freshState (sampleQuery 7) 512
    false (by decide +kernel)).mpr fun hfound => by cases hfound
  rw [hrcode]
  decide +kernel

/-- What the parser makes of that answer. -/
def nxdomainParser : ResCache.NsParser :=
  ⟨fun _ => some ⟨[], [some ⟨nsTSoa, 60, 0 :: 0 :: List.replicate 19 0 ++ [60]⟩]⟩,
    fun bytes => if bytes.head? = some 0 then some 1 else none⟩

/-- The answer is cached, and half a minute later another query gets it with the rcode
`NOERROR`. -/
theorem rcode_of_cached_nxdomain :
    ∃ s s' r, ResCache.Reaches nxdomainParser
        [.add 100 (sampleQuery 7) (nxdomainAnswer 7) (some 8) 1000 1000, .create 100] s ∧
      perform nxdomainParser
        (.lookup 100 (sampleQuery 9) 512 ⟨false, false⟩ 0 true 1030) s =
          some (some r, s') ∧
      let sent := resNsendQuery (plainOutside r .timeout) freshState (sampleQuery 9) 512
        false
      0 < sent.1 ∧ sent.2.rcode = noerror ∧
        headerRcode (answerOf (plainOutside r .timeout) (sampleQuery 9) 512
          (rotated (populated ((plainOutside r .timeout).toEnv (sampleQuery 9) 512)
            freshState)) sent.2.trace) = 3 := by
  let as : List ResCache.Action :=
    [.create 100, .add 100 (sampleQuery 7) (nxdomainAnswer 7) (some 8) 1000 1000]
  let look : ResCache.Action := .lookup 100 (sampleQuery 9) 512 ⟨false, false⟩ 0 true 1030
  obtain ⟨s, s', r, hrun, hperform, rfl⟩ : ∃ s s' r, ResCache.Reaches nxdomainParser as.reverse s ∧
      perform nxdomainParser look s = some (some r, s') ∧ r = ⟨.found, some 52, nxdomainAnswer 7⟩ :=
    ResCache.performs_of_exec as (by decide +kernel)
  exact ⟨s, s', _, hrun, hperform, by decide +kernel⟩

end Netd.ResSend
