import Mathlib.Data.List.ReduceOption
import Netd.Resolv.ProxyCommands

/-!
# The DNS events of the proxy

A handler of a lookup has a return code and a result, and both go their own way through DNS64. The
reply of `getaddrinfo` is decided by the return code, that of `gethostbyname` and `gethostbyaddr`
by the result. The event has the return code.

For `gethostbyname` a result that cannot be synthesized is dropped, and the return code stays zero.
For `gethostbyaddr` the lookup behind the prefix may find a result, and the return code stays that
of the first.
-/

namespace Netd.DnsProxyListener

open Getaddrinfo List Option

/-! ## Results -/

/-- What holds of a computation that has no fault. -/
def Ensures {α : Type} (P : α → Prop) (x : Except NameFault α) : Prop := ∀ a, x = .ok a → P a

namespace Ensures

variable {α β : Type} {P : α → Prop} {Q : β → Prop} {x y : Except NameFault α}

theorem pure {a : α} (h : P a) : Ensures P (Pure.pure a) := by
  rintro _ ⟨⟩
  exact h

theorem bind {f : α → Except NameFault β} (hx : Ensures P x) (hf : ∀ a, P a → Ensures Q (f a)) :
    Ensures Q (x >>= f) := by
  intro b hb
  cases x with
  | error fault => cases hb
  | ok a => exact hf a (hx a rfl) b hb

theorem ok_of_bind {f : α → Except NameFault β} {b : β} (h : x >>= f = .ok b) :
    ∃ a, x = .ok a ∧ f a = .ok b := by
  cases x with
  | error fault => cases h
  | ok a => exact ⟨a, rfl, h⟩

theorem any (x : Except NameFault α) : Ensures (fun _ => True) x := fun _ _ => trivial

theorem ite {p : Prop} [Decidable p] (hx : p → Ensures P x) (hy : ¬p → Ensures P y) :
    Ensures P (if p then x else y) := by
  split
  · exact hx ‹p›
  · exact hy ‹¬p›

end Ensures

/-- There are addresses if and only if the return code is zero. -/
def ListAgrees (r : Int × List Addrinfo) : Prop := r.1 = 0 ↔ r.2 ≠ []

/-- There is a host if and only if the return code is zero. -/
def HostAgrees (r : Int × Option Hostent) : Prop := r.1 = 0 ↔ r.2.isSome = true

variable {rv : Int} {res : List Addrinfo} {hp : Option Hostent}

theorem ListAgrees.failed (h : rv ≠ 0) : ListAgrees (rv, []) := iff_of_false h fun hne => hne rfl

theorem ListAgrees.found (h : res ≠ []) : ListAgrees (0, res) := iff_of_true rfl h

theorem HostAgrees.failed (h : rv ≠ 0) : HostAgrees (rv, none) := iff_of_false h Bool.false_ne_true

theorem HostAgrees.ofError (error : Int) (host : Hostent) :
    HostAgrees (error, if error = 0 then some host else none) := by
  split
  · next h => exact iff_of_true h rfl
  · next h => exact iff_of_false h Bool.false_ne_true

/-! ## Lookups -/

theorem ensures_explore (r : Resolver) (hostname servname : CharPtr) (ctx : AndroidNetContext)
    (ai0 : Hints) : Ensures ListAgrees (explore r hostname servname ctx ai0) := by
  refine (Ensures.any _).bind fun literal _ => ?_
  refine .ite (fun h => .pure (.failed h)) fun _ => ?_
  refine .ite (fun h => .pure (.found (mt isEmpty_iff.mpr h))) fun _ => ?_
  refine .ite (fun _ => .pure (.failed (by decide))) fun _ => ?_
  refine .ite (fun _ => .pure (.failed (by decide))) fun _ => ?_
  refine (Ensures.any _).bind fun names _ => ?_
  refine .ite (fun h => .pure (.found (mt isEmpty_iff.mpr h))) fun _ => ?_
  exact .ite (fun _ => .pure (.failed (by decide))) fun h => .pure (.failed h)

theorem ensures_getaddrinfo (r : Resolver) (hostname servname : CharPtr) (hints : Option Hints)
    (ctx : AndroidNetContext) :
    Ensures ListAgrees (androidGetaddrinfofornetcontext r hostname servname hints ctx) := by
  refine .ite (fun _ => .pure (.failed (by decide))) fun _ => ?_
  refine .ite (fun h => .pure (.failed h)) fun _ => .ite (fun h => .pure (.failed h)) fun _ => ?_
  exact ensures_explore r hostname servname ctx _

theorem ensures_gethostbyname (r : Resolver) (name : CharPtr) (af : Int) (ctx : AndroidNetContext) :
    Ensures HostAgrees (androidGethostbynamefornetcontext r name af ctx) := by
  refine .ite (fun _ => ?_) fun _ => .pure (.failed (by decide))
  refine .ite (fun _ => ?_) fun _ => .pure (.failed (by decide))
  exact (Ensures.any _).bind fun name _ => .pure (.ofError _ _)

/-! ## DNS64 -/

theorem synthesizeAddrinfo_ne_nil {nat64 : Nat64} {res' : List Addrinfo}
    (h : synthesizeAddrinfo nat64 res = some res') (hne : res ≠ []) : res' ≠ [] := by
  unfold synthesizeAddrinfo at h
  split at h
  · cases h
    exact mt map_eq_nil_iff.mp hne
  · cases h

section

variable (out : Outside)

theorem GetAddrInfoHandler.ensures_lookUp (h : GetAddrInfoHandler) :
    Ensures ListAgrees (h.lookUp out) :=
  .ite (fun _ => ensures_getaddrinfo _ _ _ _ _) fun _ => .pure (.failed (by decide))

theorem GetAddrInfoHandler.ensures_dns64 (h : GetAddrInfoHandler)
    (hagrees : ListAgrees (rv, res)) : Ensures ListAgrees (h.doDns64Synthesis out rv res) := by
  refine .ite (fun _ => .pure hagrees) fun _ => .ite (fun _ => .pure hagrees) fun hwanted => ?_
  split
  · exact .pure hagrees
  next nat64 hnat64 =>
  refine .ite (fun _ => .ite (fun _ => ?_) fun _ => .pure hagrees) fun _ => ?_
  · refine (ensures_getaddrinfo _ _ _ _ _).bind fun found hfound => ?_
    obtain ⟨rv, res⟩ := found
    refine .ite (fun hrv => .pure ?_) fun hrv => ?_
    · have hres : res = [] := not_not.mp (mt hfound.mpr hrv)
      rw [hres]
      exact .failed (by decide)
    · have hrv : rv = 0 := not_not.mp hrv
      split
      · rename_i res' hsynthesized
        rw [hrv]
        exact .pure (.found (synthesizeAddrinfo_ne_nil hsynthesized (hfound.mp hrv)))
      · exact .pure (.failed (by decide))
  · refine .pure ?_
    cases hsynthesized : synthesizeAddrinfo nat64 res with
    | none => exact hagrees
    | some res' =>
      refine ⟨fun hrv => synthesizeAddrinfo_ne_nil hsynthesized (hagrees.mp hrv), fun _ => ?_⟩
      refine hagrees.mpr fun hnil => ?_
      have hnil : res = [] := hnil
      rw [hnil] at hsynthesized
      cases hsynthesized

theorem GetHostByNameHandler.ensures_lookUp (h : GetHostByNameHandler) :
    Ensures HostAgrees (h.lookUp out) :=
  .ite (fun _ => ensures_gethostbyname _ _ _ _) fun _ => .pure (.failed (by decide))

theorem GetHostByAddrHandler.hostAgrees_lookUp (h : GetHostByAddrHandler) :
    HostAgrees (h.lookUp out) := by
  unfold lookUp
  split
  · exact .ofError _ _
  · exact .failed (by decide)

end

/-- The result of the second lookup of `gethostbyname`, if it comes to it, can be synthesized. -/
def GetHostByNameHandler.Dns64Agrees (out : Outside) (h : GetHostByNameHandler) : Prop :=
  ∀ nat64 hp, h.mAf = Af.inet6 → h.lookUp out = .ok (Eai.nodata, none) →
    out.getDns64Prefix h.mNetContext.dnsNetid = some nat64 → out.startAgain = true →
    androidGethostbynamefornetcontext out.lookupAgain h.mName Af.inet h.mNetContext =
      .ok (0, some hp) →
    (synthesizeHostent nat64 (some hp)).isSome = true

theorem GetHostByNameHandler.hostAgrees_dns64_iff {out : Outside} {h : GetHostByNameHandler}
    {found result : Int × Option Hostent} (hlookUp : h.lookUp out = .ok found)
    (hresult : h.doDns64Synthesis out found.1 found.2 = .ok result) :
    HostAgrees result ↔ h.Dns64Agrees out := by
  obtain ⟨rv, hpp⟩ := found
  have hfound : HostAgrees (rv, hpp) := h.ensures_lookUp out _ hlookUp
  unfold doDns64Synthesis at hresult
  split at hresult
  · next hunwanted =>
    cases hresult
    refine iff_of_true hfound fun nat64 hp haf hnodata => ?_
    cases hlookUp.symm.trans hnodata
    exact absurd ⟨haf, rfl⟩ hunwanted
  next hwanted =>
  obtain ⟨haf, hrv⟩ := not_not.mp hwanted
  obtain rfl : rv = Eai.nodata := hrv
  obtain rfl : hpp = none := by
    cases hpp with
    | none => rfl
    | some hp => exact absurd (show Eai.nodata = 0 from hfound.mpr rfl) (by decide)
  split at hresult
  · next hprefix =>
    cases hresult
    refine iff_of_true hfound fun nat64 hp _ _ hnat64 => ?_
    cases hprefix.symm.trans hnat64
  next nat64 hnat64 =>
  split at hresult
  · next hagain =>
    obtain ⟨⟨rv, hp⟩, hsecond, hresult⟩ := Ensures.ok_of_bind hresult
    have hagrees : HostAgrees (rv, hp) := ensures_gethostbyname _ _ _ _ _ hsecond
    by_cases hrv : rv = 0
    · subst hrv
      obtain ⟨hp, rfl⟩ := isSome_iff_exists.mp (hagrees.mp rfl)
      cases hresult
      refine ⟨fun hhost nat64' hp' _ _ hprefix _ hok => ?_, fun hall => ?_⟩
      · cases hnat64.symm.trans hprefix
        cases hsecond.symm.trans hok
        exact hhost.mp rfl
      · exact iff_of_true rfl (hall nat64 hp haf hlookUp hnat64 hagain hsecond)
    · have hresult := (if_pos hrv).symm.trans hresult
      cases hresult
      refine iff_of_true hfound fun _ _ _ _ _ _ hok => ?_
      cases hsecond.symm.trans hok
      exact absurd rfl hrv
  · next hagain =>
    cases hresult
    exact iff_of_true hfound fun _ _ _ _ _ hstart => absurd hstart hagain

/-- If the lookup of an address behind the prefix fails, the second lookup is not made or finds
nothing. -/
def GetHostByAddrHandler.Dns64Agrees (out : Outside) (h : GetHostByAddrHandler) : Prop :=
  ∀ nat64, h.mAddressFamily = Af.inet6 → (h.lookUp out).2 = none →
    out.getDns64Prefix h.mNetContext.dnsNetid = some nat64 → nat64.isValid = true →
    h.mAddress.take 12 = nat64.addr.take 12 → out.startAgain = true →
    (androidGethostbyaddrfornetcontext out.lookupAgain (h.mAddress.drop 12) 4 Af.inet
      h.mNetContext).2 = none

theorem GetHostByAddrHandler.hostAgrees_dns64_iff (out : Outside) (h : GetHostByAddrHandler) :
    HostAgrees ((h.lookUp out).1, h.doDns64ReverseLookup out (h.lookUp out).2) ↔
      h.Dns64Agrees out := by
  have hfound := h.hostAgrees_lookUp out
  cases hhp : (h.lookUp out).2 with
  | some hp =>
    have hkept : h.doDns64ReverseLookup out (some hp) = some hp := if_pos (.inl rfl)
    rw [hkept, ← hhp]
    refine iff_of_true hfound fun nat64 _ hnone => ?_
    cases hhp.symm.trans hnone
  | none =>
    have hrv : (h.lookUp out).1 ≠ 0 := fun hrv => by
      have hsome : (h.lookUp out).2.isSome = true := hfound.mp hrv
      rw [hhp] at hsome
      cases hsome
    have hnone : HostAgrees ((h.lookUp out).1, h.doDns64ReverseLookup out none) ↔
        h.doDns64ReverseLookup out none = none := by
      cases h.doDns64ReverseLookup out none <;> simp [HostAgrees, hrv]
    rw [hnone, Dns64Agrees, doDns64ReverseLookup]
    simp only [hhp, isSome_none, Bool.false_eq_true, false_or]
    split
    · next hfamily => exact iff_of_true rfl fun _ haf => absurd haf hfamily
    next hfamily =>
    cases hnat64 : out.getDns64Prefix h.mNetContext.dnsNetid with
    | none => exact iff_of_true rfl fun _ _ _ hsome => by cases hsome
    | some nat64 =>
      dsimp only
      split
      · next hunused =>
        refine iff_of_true rfl ?_
        rintro _ - - ⟨⟩ hvalid hbehind hagain
        exact absurd hunused (by simp [hvalid, hbehind, hagain])
      next hused =>
      simp only [not_or, not_not] at hfamily hused
      rw [map_eq_none_iff]
      refine ⟨?_, fun hall => hall nat64 hfamily trivial rfl hused.1 hused.2.1 hused.2.2⟩
      rintro hnone _ - - ⟨⟩ - - -
      exact hnone

/-! ## Replies and events -/

/-- The reply is a `DnsProxyQueryResult`. -/
def Reply.isQueryResult : Reply → Bool
  | .addrinfos _ => true
  | .hostent _ => true
  | .message _ _ => false
  | .operationFailed _ => false

def Reply.isPresent : Reply → Bool
  | .addrinfos result => !result.isEmpty
  | _ => true

/-- The return code that is reported is zero if and only if the client gets a result. -/
def Outcome.Agrees (o : Outcome) : Prop :=
  ∀ report, o.report = some report →
    (report.stats.2.1 = 0 ↔ o.reply.isQueryResult = true) ∧
    (∀ event, report.event = some event → (event.returnCode = 0 ↔ o.reply.isQueryResult = true)) ∧
    o.reply.isPresent = true

theorem agrees_report_iff {out : Outside} {eventType : Nat} {ctx : AndroidNetContext}
    {name : CString} {ipAddrs : List CString} {total : Nat} {reply : Reply}
    (hpresent : reply.isPresent = true) :
    Outcome.Agrees ⟨reply, some (reportDnsEvent out eventType ctx rv name ipAddrs total)⟩ ↔
      (rv = 0 ↔ reply.isQueryResult = true) := by
  refine ⟨fun h => (h _ rfl).1, fun hreply => ?_⟩
  rintro report ⟨⟩
  refine ⟨hreply, fun event hevent => ?_, hpresent⟩
  unfold reportDnsEvent at hevent
  split at hevent
  · cases hevent
    exact hreply
  · cases hevent

theorem hostReply_agrees_iff {out : Outside} {eventType : Nat} {ctx : AndroidNetContext}
    {name : CString} {ipAddrs : List CString} {total : Nat} :
    Outcome.Agrees ⟨hp.elim (.operationFailed none) .hostent,
      some (reportDnsEvent out eventType ctx rv name ipAddrs total)⟩ ↔ HostAgrees (rv, hp) := by
  cases hp with
  | none | some hp => exact agrees_report_iff rfl

section

variable (out : Outside)

theorem GetAddrInfoHandler.ensures_finish (h : GetAddrInfoHandler)
    {result : List Addrinfo} (hagrees : ListAgrees (rv, result)) :
    Ensures Outcome.Agrees (h.finish out rv result) := by
  refine (Ensures.any _).bind fun name _ => .pure ?_
  split
  · next hrv => exact (agrees_report_iff rfl).mpr (iff_of_false hrv Bool.false_ne_true)
  next hrv =>
  have hrv : rv = 0 := not_not.mp hrv
  have hne : result ≠ [] := hagrees.mp hrv
  exact (agrees_report_iff (by simpa [Reply.isPresent] using hne)).mpr (iff_of_true hrv rfl)

theorem GetAddrInfoHandler.ensures_run (h : GetAddrInfoHandler) :
    Ensures Outcome.Agrees (h.run out) := by
  refine (ensures_lookUp out (h.fixUp out)).bind fun found hfound => ?_
  refine (ensures_dns64 out (h.fixUp out) hfound).bind fun result hresult => ?_
  exact ensures_finish out (h.fixUp out) hresult

variable {outcome : Outcome}

theorem GetHostByNameHandler.agrees_iff (h : GetHostByNameHandler)
    (hrun : h.run out = .ok outcome) : outcome.Agrees ↔ (h.fixUp out).Dns64Agrees out := by
  obtain ⟨found, hlookUp, hrun⟩ := Ensures.ok_of_bind hrun
  obtain ⟨result, hresult, hrun⟩ := Ensures.ok_of_bind hrun
  obtain ⟨name, -, hrun⟩ := Ensures.ok_of_bind hrun
  cases hrun
  exact hostReply_agrees_iff.trans (hostAgrees_dns64_iff hlookUp hresult)

theorem GetHostByAddrHandler.agrees_iff (h : GetHostByAddrHandler)
    (hrun : h.run out = .ok outcome) : outcome.Agrees ↔ (h.fixUp out).Dns64Agrees out := by
  obtain ⟨name, -, hrun⟩ := Ensures.ok_of_bind hrun
  cases hrun
  exact hostReply_agrees_iff.trans (hostAgrees_dns64_iff out (h.fixUp out))

end

/-- DNS64 does not part the return code from the result. -/
def LookupHandler.Dns64Agrees (out : Outside) : LookupHandler → Prop
  | .getaddrinfo _ => True
  | .gethostbyname h => (h.fixUp out).Dns64Agrees out
  | .gethostbyaddr h => (h.fixUp out).Dns64Agrees out

/-- **A handler that comes to its end has sent a result if and only if it reports zero**, exactly if
DNS64 does not part the two. -/
theorem events_agree_with_replies (out : Outside) (h : LookupHandler) {outcome : Outcome}
    (hrun : h.run out = .ok outcome) : outcome.Agrees ↔ h.Dns64Agrees out := by
  cases h with
  | getaddrinfo h => exact iff_of_true (h.ensures_run out outcome hrun) trivial
  | gethostbyname h => exact h.agrees_iff out hrun
  | gethostbyaddr h => exact h.agrees_iff out hrun

/-- A lookup of hosts that finds one address. -/
def oneHost (address : List Byte) : Resolver :=
  { nothing with
    gethostbynameReal := fun name af _ => (0, ⟨some name, [], af, 4, [address]⟩)
    gethostbyaddrReal := fun addr len af _ => (0, ⟨some (ascii "example"), [], af, len, [addr]⟩) }

/-- A network with the prefix `64:ff9b::/96`, where only the second lookup finds something. -/
def nat64System (address : List Byte) : Outside :=
  { plain with
    getDns64Prefix := fun _ => some ⟨[0, 0x64, 0xff, 0x9b, 0, 0, 0, 0, 0, 0, 0, 0, 0, 0, 0, 0], 96⟩
    lookupAgain := oneHost address }

/-- A request of `gethostbyname` for the IPv6 addresses of a name. -/
def nameRequest : LookupHandler :=
  .gethostbyname ⟨some (ascii "example"), Af.inet6, ⟨100, 0, 100, 0, 10001, 0⟩⟩

/-- A request of `gethostbyaddr` for an address behind the prefix. -/
def addressRequest : LookupHandler :=
  .gethostbyaddr ⟨[0, 0x64, 0xff, 0x9b, 0, 0, 0, 0, 0, 0, 0, 0, 192, 0, 2, 1], 16, Af.inet6,
    ⟨100, 0, 100, 0, 10001, 0⟩⟩

/-- The return code of the event, and whether the client gets a result. -/
def observed (out : Outside) (h : LookupHandler) : Except NameFault (Option (Int × Bool)) := do
  let outcome ← h.run out
  pure (outcome.report.map fun report => (report.stats.2.1, outcome.reply.isQueryResult))

/-- The second lookup of a name finds 192.0.2.1, which can be synthesized. -/
theorem events_agree_nat64 : ∃ outcome, nameRequest.run (nat64System [192, 0, 2, 1]) = .ok outcome ∧
      outcome.reply.isQueryResult = true ∧ outcome.Agrees := by
  have hobserved : observed (nat64System [192, 0, 2, 1]) nameRequest = .ok (some (0, true)) := by
    decide +kernel
  cases hrun : nameRequest.run (nat64System [192, 0, 2, 1]) with
  | error fault =>
    rw [observed, hrun] at hobserved
    cases hobserved
  | ok outcome =>
    refine ⟨outcome, rfl, ?_, (events_agree_with_replies _ _ hrun).mpr ?_⟩
    · rw [observed, hrun] at hobserved
      obtain ⟨report, _, heq⟩ := map_eq_some_iff.mp (Except.ok.inj hobserved)
      exact congrArg Prod.snd heq
    · rintro nat64 hp - - ⟨⟩ - hsecond
      cases hsecond
      decide +kernel

/-- A second lookup that finds a loopback address, which is not synthesized: the event says success,
and the client gets a failure. One that finds the name of an address: the event says no data, and
the client gets the name. -/
theorem events_disagree :
    observed (nat64System [127, 0, 0, 1]) nameRequest = .ok (some (0, false)) ∧
      observed (nat64System []) addressRequest = .ok (some (Eai.nodata, true)) := by
  decide +kernel

/-! ## The addresses of resnsend -/

/-- What `ns_parserr` gives for an answer record: its type, and where its data is. -/
structure AnswerRr where
  type : Nat
  rdata : Nat
  rdlen : Nat

/-- The addresses that are reported, their number, and the places that were read. -/
structure Extracted where
  ipAddrs : List CString
  totalIpAddrCount : Nat
  reads : List (Nat × Nat)

section

variable (out : Outside) (memory : Nat → Byte)

/-- The bytes that are copied from the data of a record. -/
def copied (rr : AnswerRr) (size : Nat) : List Byte :=
  (List.range size).map fun i => memory (rr.rdata + i)

/-- Copy an address out of the data of a record and report it. -/
def Extracted.add (family : Int) (size : Nat) (e : Extracted) (rr : AnswerRr) : Extracted where
  ipAddrs := addIpAddrWithinLimit out family e.ipAddrs (copied memory rr size)
  totalIpAddrCount := e.totalIpAddrCount + 1
  reads := e.reads ++ [(rr.rdata, size)]

/-- `extractResNsendAnswers`, on what `ns_initparse` and `ns_parserr` make of the answer. -/
def extractResNsendAnswers (records : Option (List (Option AnswerRr))) (ipType : Nat) : Extracted :=
  match records with
  | none => ⟨[], 0, []⟩
  | some records => records.foldl (fun e rr =>
      match rr with
      | none => e
      | some rr =>
        if ipType = 1 then e.add out memory Af.inet 4 rr
        else if ipType = 28 then e.add out memory Af.inet6 16 rr
        else e) ⟨[], 0, []⟩

end

variable {out : Outside} {memory : Nat → Byte}

theorem addIpAddrWithinLimit_take (family : Int) (ips : List CString) (addr : List Byte) :
    addIpAddrWithinLimit out family (ips.take dnsReportedIpAddressesLimit) addr =
      (ips ++ (out.getnameinfo family addr).toList).take dnsReportedIpAddressesLimit := by
  unfold addIpAddrWithinLimit
  have hone : (out.getnameinfo family addr).toList.length ≤ 1 := by
    cases out.getnameinfo family addr <;> simp
  by_cases h : ips.length < dnsReportedIpAddressesLimit
  · rw [take_of_length_le h.le, if_pos h, take_of_length_le]
    rw [length_append]
    omega
  · rw [length_take, if_neg (by omega), take_append_of_le_length (by omega)]

/-- The loop over records, with an action on each one that could be parsed. -/
theorem foldl_add (family : Int) (size : Nat) (records : List (Option AnswerRr))
    (names : List CString) (count : Nat) (reads : List (Nat × Nat)) :
    records.foldl (fun (e : Extracted) rr => rr.elim e (e.add out memory family size))
        ⟨names.take dnsReportedIpAddressesLimit, count, reads⟩ =
      ⟨(names ++ records.reduceOption.filterMap fun rr => out.getnameinfo family
          (copied memory rr size)).take dnsReportedIpAddressesLimit,
        count + records.reduceOption.length,
        reads ++ records.reduceOption.map fun rr => (rr.rdata, size)⟩ := by
  induction records generalizing names count reads with
  | nil => simp
  | cons rr records ih =>
    rw [foldl_cons]
    cases rr with
    | none => exact ih names count reads
    | some rr =>
      rw [elim_some, Extracted.add, addIpAddrWithinLimit_take, ih]
      cases hname : out.getnameinfo family (copied memory rr size) <;>
        simp [hname, Nat.add_comm, Nat.add_left_comm]

/-- **The addresses of the answer are reported** exactly if all its records have the type of the
query and its length. -/
theorem resnsend_addresses_reported (out : Outside) (memory : Nat → Byte) (anslen : Nat)
    {records : Option (List (Option AnswerRr))} {ipType size : Nat} {family : Int}
    (htype : ipType = 1 ∧ family = Af.inet ∧ size = 4 ∨ ipType = 28 ∧ family = Af.inet6 ∧ size = 16)
    (hparsed : ∀ rr ∈ (records.getD []).reduceOption, rr.rdata + rr.rdlen ≤ anslen) :
    (extractResNsendAnswers out memory records ipType).totalIpAddrCount =
        ((records.getD []).reduceOption.filter fun rr =>
          rr.type = ipType ∧ rr.rdlen = size).length ∧
      (extractResNsendAnswers out memory records ipType).ipAddrs =
        (((records.getD []).reduceOption.filter fun rr =>
          rr.type = ipType ∧ rr.rdlen = size).filterMap fun rr =>
            out.getnameinfo family (copied memory rr size)).take dnsReportedIpAddressesLimit ∧
      (∀ read ∈ (extractResNsendAnswers out memory records ipType).reads,
        read.1 + read.2 ≤ anslen) ↔
      ∀ rr ∈ (records.getD []).reduceOption, rr.type = ipType ∧ rr.rdlen = size := by
  have hloop : extractResNsendAnswers out memory records ipType =
      ⟨((records.getD []).reduceOption.filterMap fun rr => out.getnameinfo family
          (copied memory rr size)).take dnsReportedIpAddressesLimit,
        (records.getD []).reduceOption.length,
        (records.getD []).reduceOption.map fun rr => (rr.rdata, size)⟩ := by
    cases records with
    | none => rfl
    | some records =>
      have hfold := @foldl_add out memory family size records [] 0 []
      rw [take_nil, nil_append, Nat.zero_add, nil_append] at hfold
      refine Eq.trans ?_ hfold
      simp only [extractResNsendAnswers]
      congr 1
      funext e rr
      rcases htype with ⟨rfl, rfl, rfl⟩ | ⟨rfl, rfl, rfl⟩ <;> cases rr <;> rfl
  rw [hloop]
  constructor
  · rintro ⟨hcount, -⟩ rr hrr
    simpa using length_filter_eq_length_iff.mp hcount.symm rr hrr
  · intro haddresses
    rw [filter_eq_self.mpr fun rr hrr => by simpa using haddresses rr hrr]
    refine ⟨rfl, rfl, fun read hread => ?_⟩
    obtain ⟨rr, hrr, rfl⟩ := mem_map.mp hread
    rw [← (haddresses rr hrr).2]
    exact hparsed rr hrr

/-- Two addresses of an answer of 48 bytes. -/
theorem resnsend_addresses_reported_two :
    (extractResNsendAnswers plain (fun _ => 0) (some [some ⟨1, 28, 4⟩, none, some ⟨1, 44, 4⟩])
      1).totalIpAddrCount = 2 :=
  ((resnsend_addresses_reported plain (fun _ => 0) 48
    (.inl ⟨rfl, rfl, rfl⟩) (by decide)).mpr (by decide)).1

/-- An alias is reported as an address, and the data behind the end of the answer are read. -/
theorem resnsend_alias_reported : let rr : AnswerRr := ⟨5, 28, 2⟩
    let e := extractResNsendAnswers plain (fun _ => 0) (some [some rr]) 28
    rr.type ≠ 28 ∧ e.totalIpAddrCount = 1 ∧ e.reads = [(28, 16)] := by
  decide

end Netd.DnsProxyListener
