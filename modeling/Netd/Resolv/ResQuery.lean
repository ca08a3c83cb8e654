import Netd.Resolv.HostLookups
import Netd.Resolv.SendSockets
import Netd.Resolv.ThreadState

/-!
# The search list

`gethostbyname` looks up a name with `res_nsearch`, and `getaddrinfo` with `res_searchN`. Both try
the name as it is and in the domains of the search list. What `res_nquery` or `res_queryN` does with
a name is a parameter, which may go by all trials before.
-/

namespace Netd.ResQuery

open List ThreadState Nameservers ResSend

def maxdname : Nat := 1025

def hostNotFound : Int := 1
def tryAgain : Int := 2
def noRecovery : Int := 3
def noData : Int := 4

/-- What a query returns, and leaves in `*herrno`, in `errno` and in the header of the answer. -/
structure Reply where
  ret : Int
  herrno : Int
  errno : Int
  rcode : Nat

/-- A call of `res_nquerydomain`: its domain, if there is one, and what comes of it. -/
abbrev Trial := Option CString × Reply

structure Search where
  trials : List Trial
  last : Reply

structure Options where
  ndots : Nat
  defnames : Bool
  dnsrch : Bool
  notldquery : Bool

structure Flags where
  gotNodata : Bool
  gotServfail : Bool
  rootOnList : Bool
  searched : Bool

def Flags.none : Flags := ⟨false, false, false, false⟩

def trailingDot (name : CString) : Prop := name.getLast? = some dot

instance (name : CString) : Decidable (trailingDot name) :=
  inferInstanceAs (Decidable (_ = _))

def isRoot (domain : CString) : Bool := domain = [] || domain = [dot]

/-- What a search is called with, and what its queries and the configuration will be. -/
structure Setting where
  nquery : List Trial → CString → Reply
  options : Options
  infos : Infos
  statp : ThreadState.ResState
  name : CString

variable (q : Setting)

/-- The search list, after `_resolv_populate_res_for_net`. -/
def Setting.dnsrch : List CString := searchList (resolvPopulateResForNet q.infos q.statp)

/-- `res_querydomainN` does the same with `res_queryN`. -/
def resNquerydomain (domain : Option CString) (s : Search) : Search :=
  let tooLong : Reply := { s.last with ret := -1, herrno := noRecovery }
  let reply :=
    match domain with
    | none =>
      if q.name.length ≥ maxdname then tooLong
      else q.nquery s.trials (if trailingDot q.name then q.name.dropLast else q.name)
    | some domain =>
      if q.name.length + domain.length + 1 ≥ maxdname then tooLong
      else q.nquery s.trials (q.name ++ dot :: domain)
  ⟨s.trials ++ [(domain, reply)], reply⟩

/-- What a failure says of the search, and whether it implies that the search is done. -/
def judge (reply : Reply) (flags : Flags) : Flags × Bool :=
  if reply.herrno = noData then ({ flags with gotNodata := true }, false)
  else if reply.herrno = hostNotFound then (flags, false)
  else if reply.herrno = tryAgain ∧ reply.rcode = servfail then
    ({ flags with gotServfail := true }, false)
  else (flags, true)

/-- The loop over `dnsrch`. `some` is what the search returns from within. `res_searchN` does not
have `root_on_list` and `searched`. -/
def searchDomains : List CString → Flags → Search → Option Int × Flags × Search
  | [], flags, s => (none, flags, s)
  | domain :: rest, flags, s =>
    let flags := { flags with searched := true, rootOnList := flags.rootOnList || isRoot domain }
    let s := resNquerydomain q (some domain) s
    if s.last.ret > 0 then (some s.last.ret, flags, s)
    else if s.last.errno = Errno.econnrefused then
      (some (-1), flags, { s with last := { s.last with herrno := tryAgain } })
    else
      let (flags, done) := judge s.last flags
      if done || !q.options.dnsrch then (none, flags, s) else searchDomains rest flags s

def searchLevel (s : Search) : Option Int × Flags × Search :=
  let dots := q.name.count dot
  if (dots = 0 ∧ q.options.defnames) ∨ (dots ≠ 0 ∧ ¬ trailingDot q.name ∧ q.options.dnsrch) then
    searchDomains q q.dnsrch .none s
  else (none, .none, s)

/-- A search after the name was tried as it is, which has left `savedHerrno`, or was not. `again`
says whether it is tried as it is in the end. -/
def searchFrom (again : Flags → Bool) (savedHerrno : Int) (s : Search) : Int × Search :=
  match searchLevel q s with
  | (some ret, _, s) => (ret, s)
  | (none, flags, s) =>
    let s := if again flags then resNquerydomain q none s else s
    if again flags ∧ s.last.ret > 0 then (s.last.ret, s)
    else
      let herrno :=
        if savedHerrno ≠ -1 then savedHerrno
        else if flags.gotNodata then noData
        else if flags.gotServfail then tryAgain
        else s.last.herrno
      (-1, { s with last := { s.last with herrno } })

def start : Search := ⟨[], ⟨0, hostNotFound, 0, 0⟩⟩

def resNsearch : Int × Search :=
  let dots := q.name.count dot
  let s := resNquerydomain q none start
  if dots ≥ q.options.ndots ∨ trailingDot q.name then
    if s.last.ret > 0 ∨ trailingDot q.name then (s.last.ret, s)
    else searchFrom q (fun _ => false) s.last.herrno s
  else
    let again (flags : Flags) : Bool :=
      (dots ≠ 0 || !flags.searched || !q.options.notldquery) && !flags.rootOnList
    searchFrom q again (-1) start

def resSearchN : Int × Search :=
  let s := resNquerydomain q none start
  if q.name.count dot ≥ q.options.ndots then
    if s.last.ret > 0 then (s.last.ret, s)
    else searchFrom q (fun _ => false) s.last.herrno s
  else searchFrom q (fun _ => true) (-1) start

variable {q}

theorem searchLevel_trailingDot (h : trailingDot q.name) (s : Search) :
    searchLevel q s = (none, .none, s) := by
  have hdots : q.name.count dot ≠ 0 := (count_pos_iff.mpr (mem_of_getLast? h)).ne'
  unfold searchLevel
  rw [if_neg (by simp [hdots, h])]

theorem judge_rootOnList (reply : Reply) (flags : Flags) :
    (judge reply flags).1.rootOnList = flags.rootOnList := by
  unfold judge
  split_ifs <;> rfl

theorem searchDomains_rootOnList (domains : List CString) (flags : Flags) (s : Search)
    (hroot : ∀ domain ∈ domains, isRoot domain = false) (hflags : flags.rootOnList = false) :
    (searchDomains q domains flags s).2.1.rootOnList = false := by
  induction domains generalizing flags s with
  | nil => exact hflags
  | cons domain rest ih =>
    have hdomain := hroot domain mem_cons_self
    unfold searchDomains
    dsimp only
    split_ifs
    · simp [hflags, hdomain]
    · simp [hflags, hdomain]
    · simp [judge_rootOnList, hflags, hdomain]
    · refine ih _ _ (fun d hd => hroot d (mem_cons_of_mem _ hd)) ?_
      simp [judge_rootOnList, hflags, hdomain]

theorem searchLevel_rootOnList (s : Search) (hroot : ∀ domain ∈ q.dnsrch, isRoot domain = false) :
    (searchLevel q s).2.1.rootOnList = false := by
  unfold searchLevel
  dsimp only
  split
  · exact searchDomains_rootOnList _ _ _ hroot rfl
  · rfl

/-- The second search makes the same trials, or one more at the end, of the name as it is. -/
def OneMore (r r' : Int × Search) : Prop :=
  r'.2.trials = r.2.trials ∨ ∃ reply, r'.2.trials = r.2.trials ++ [(none, reply)]

/-- The same trials and errors, and the same code or two that are failures. -/
def Agrees (r r' : Int × Search) : Prop := r'.2 = r.2 ∧ (r'.1 = r.1 ∨ r'.1 ≤ 0 ∧ r.1 ≤ 0)

theorem searchFrom_always (again : Flags → Bool) (herrno : Int) (s : Search) :
    OneMore (searchFrom q again herrno s) (searchFrom q (fun _ => true) herrno s) := by
  unfold OneMore searchFrom
  rcases searchLevel q s with ⟨_ | ret, flags, s'⟩
  · have hlast : (resNquerydomain q none s').trials =
        s'.trials ++ [(none, (resNquerydomain q none s').last)] := rfl
    cases hagain : again flags
    · by_cases hpos : (resNquerydomain q none s').last.ret > 0 <;> simp [hagain, hpos, hlast]
    · simp [hagain]
  · exact .inl rfl

/-- Names below the domain `b` are found. -/
def onlyBelow (_ : List Trial) (name : CString) : Reply :=
  if [dot, 98] <:+ name then ⟨1, 0, 0, 0⟩ else ⟨-1, hostNotFound, 0, 3⟩

def twoDomainSearch : Setting :=
  ⟨onlyBelow, ⟨1, true, true, false⟩, sampleInfos 0 twoDomains, resNinit sampleHost, [120]⟩

end Netd.ResQuery
