import Netd.Lib.Lts
import Netd.Lib.Trace
import Netd.Resolv.HostLookups

/-!
# Dns64Configuration

For every network whose DNS64 prefix is wanted, `startPrefixDiscovery` starts a detached thread
that looks up `ipv4only.arpa.` until it has an answer. It has the id of its discovery, and goes on
only while the configuration of its network has the same id. A section under the mutex is one step.

`events` is the record of a run. Per network the callbacks alternate, and a listener that follows
them (`replay`) has what `getPrefix64` returns.
-/

namespace Netd.Dns64

/-! ## Prefixes -/

/-- `struct in6_addr` -/
abbrev In6Addr := Vector Byte 16

open List

/-- `IPPrefix`, which has the fields of `compact_ipdata`. -/
structure IPPrefix where
  family : Int := Af.unspec
  cidrlen : Nat := 0
  port : Nat := 0
  scopeId : Nat := 0
  v6 : In6Addr := Vector.replicate 16 0

/-- `operator==` at the default value. Two objects without a family need not agree on the
address. -/
def IPPrefix.isUninitialized (p : IPPrefix) : Bool :=
  p.family = Af.unspec ∧ p.cidrlen = 0 ∧ p.port = 0 ∧ p.scopeId = 0

/-- The address, cut after `length` bits. -/
def truncate (ipv6 : In6Addr) (length : Nat) : In6Addr :=
  let which := length / 8
  let mask := if length % 8 = 0 then 0 else 0xff <<< (8 - length % 8)
  Vector.ofFn fun i =>
    if i.val < which then ipv6.get i
    else if i.val = which then ⟨(ipv6.get i).val &&& mask % 256, by
      exact lt_of_le_of_lt Nat.and_le_left (ipv6.get i).isLt⟩
    else ⟨0, by decide⟩

/-- `IPPrefix(IPAddress(ipv6), length)` -/
def IPPrefix.ofIn6 (ipv6 : In6Addr) (length : Int) : IPPrefix :=
  if length < 0 ∨ 128 ≤ length then
    { family := Af.inet6, cidrlen := 128, port := 0, scopeId := 0, v6 := ipv6 }
  else
    { family := Af.inet6, cidrlen := length.toNat, port := 0, scopeId := 0,
      v6 := truncate ipv6 length.toNat }

/-- `struct Nat64PrefixInfo`, with the address that `prefixString` is the text of. -/
structure Nat64PrefixInfo where
  netId : Nat
  added : Bool
  prefixString : In6Addr
  prefixLength : Nat

/-! ## State -/

structure Dns64Config where
  discoveryId : Nat
  netId : Nat
  prefix64 : IPPrefix := {}

/-- Where a discovery thread is in its loop. -/
inductive Pc where
  /-- Before the first `shouldContinueDiscovery`. -/
  | checking
  | lookingUp
  /-- Before `recordDns64Config`. -/
  | recording
  /-- Before the second `shouldContinueDiscovery`. -/
  | rechecking
  | waiting
  | ended
  deriving DecidableEq

structure Thread where
  evalCfg : Dns64Config
  pc : Pc

inductive Event where
  | started (discoveryId netId : Nat)
  | stopped (netId : Nat)
  | recorded (discoveryId netId : Nat)
  | callback (info : Nat64PrefixInfo)

structure State where
  mNextId : Nat
  mDns64Configs : Nat → Option Dns64Config
  /-- The discovery threads, in the order of their start. -/
  threads : List Thread
  events : List Event

/-- The constructor leaves `mNextId` as it finds it. -/
def init (first : Nat) : State where
  mNextId := first % 2 ^ 32
  mDns64Configs := fun _ => none
  threads := []
  events := []

namespace State

def push (e : Event) (s : State) : State := { s with events := s.events ++ [e] }

@[simp] theorem push_mNextId (e : Event) (s : State) : (s.push e).mNextId = s.mNextId := rfl

@[simp] theorem push_threads (e : Event) (s : State) : (s.push e).threads = s.threads := rfl

@[simp] theorem push_mDns64Configs (e : Event) (s : State) :
    (s.push e).mDns64Configs = s.mDns64Configs := rfl

@[simp] theorem mem_push_events (e d : Event) (s : State) :
    d ∈ (s.push e).events ↔ d ∈ s.events ∨ d = e := by
  simp [push]

def erase (netId : Nat) (s : State) : State :=
  { s with mDns64Configs := Function.update s.mDns64Configs netId none }

/-- `mDns64Configs.emplace`, which keeps an element that is there. -/
def emplace (cfg : Dns64Config) (s : State) : State :=
  match s.mDns64Configs cfg.netId with
  | some _ => s
  | none => { s with mDns64Configs := Function.update s.mDns64Configs cfg.netId (some cfg) }

def getPrefix64 (s : State) (netId : Nat) : IPPrefix :=
  match s.mDns64Configs netId with
  | some cfg => cfg.prefix64
  | none => {}

/-- The `ip()` of a prefix has no scope unless it is of IPv6. -/
def reportNat64PrefixStatus (netId : Nat) (added : Bool) (pfx : IPPrefix) (s : State) : State :=
  if pfx.family ≠ Af.inet6 ∨ pfx.scopeId ≠ 0 then s
  else s.push (.callback ⟨netId, added, pfx.v6, pfx.cidrlen % 256⟩)

def removeDns64Config (netId : Nat) (s : State) : State :=
  let pfx := s.getPrefix64 netId
  if pfx.isUninitialized then s.erase netId
  else (s.erase netId).reportNat64PrefixStatus netId false pfx

/-- `getNextId` is `mNextId++` on an `unsigned`. -/
def startPrefixDiscovery (netId : Nat) (s : State) : State :=
  let s := s.removeDns64Config netId
  let cfg : Dns64Config := { discoveryId := s.mNextId, netId }
  let s := ({ s with mNextId := (s.mNextId + 1) % 2 ^ 32 }.emplace cfg).push
    (.started cfg.discoveryId netId)
  { s with threads := s.threads ++ [⟨cfg, .checking⟩] }

def stopPrefixDiscovery (netId : Nat) (s : State) : State :=
  (s.removeDns64Config netId).push (.stopped netId)

def isDiscoveryInProgress (s : State) (cfg : Dns64Config) : Bool :=
  match s.mDns64Configs cfg.netId with
  | none => false
  | some currentCfg => currentCfg.discoveryId = cfg.discoveryId

def recordDns64Config (cfg : Dns64Config) (s : State) : State :=
  if ¬s.isDiscoveryInProgress cfg then s
  else
    (((s.removeDns64Config cfg.netId).emplace cfg).push
      (.recorded cfg.discoveryId cfg.netId)).reportNat64PrefixStatus cfg.netId true cfg.prefix64

end State

/-! ## Threads -/

/-- What `android_getaddrinfofornetcontext` returns, with the first of its results. -/
structure Lookup where
  status : Int
  aiFamily : Int
  sin6Addr : In6Addr

/-- `none` is the return value `false`. -/
def doRfc7050PrefixDiscovery (lookup : Lookup) (cfg : Dns64Config) : Option Dns64Config :=
  if lookup.status ≠ 0 then none
  else if lookup.aiFamily ≠ Af.inet6 then none
  else some { cfg with prefix64 := IPPrefix.ofIn6 lookup.sin6Addr 96 }

/-- A thread after a part of its loop outside of `recordDns64Config`, with its lookup, and `more`
from `backoff.hasNextTimeout()`. -/
def Thread.advance (s : State) (lookup : Lookup) (more : Bool) (t : Thread) : Thread :=
  match t.pc with
  | .checking =>
    { t with pc := if s.isDiscoveryInProgress t.evalCfg then .lookingUp else .ended }
  | .lookingUp =>
    match doRfc7050PrefixDiscovery lookup t.evalCfg with
    | some evalCfg => ⟨evalCfg, .recording⟩
    | none => { t with pc := .rechecking }
  | .recording => { t with pc := .ended }
  | .rechecking =>
    { t with pc := if s.isDiscoveryInProgress t.evalCfg && more then .waiting else .ended }
  | .waiting => { t with pc := .checking }
  | .ended => t

/-- A step of the thread that was started as number `k`. -/
def threadStep (k : Nat) (lookup : Lookup) (more : Bool) (s : State) : Option State :=
  match s.threads[k]? with
  | none => none
  | some t =>
    let s' := if t.pc = .recording then s.recordDns64Config t.evalCfg else s
    some { s' with threads := s.threads.set k (t.advance s lookup more) }

inductive Action where
  | startPrefixDiscovery (netId : Nat)
  | stopPrefixDiscovery (netId : Nat)
  | thread (k : Nat) (lookup : Lookup) (more : Bool)

def step : Action → State → Option State
  | .startPrefixDiscovery netId, s => some (s.startPrefixDiscovery netId)
  | .stopPrefixDiscovery netId, s => some (s.stopPrefixDiscovery netId)
  | .thread k lookup more, s => threadStep k lookup more s

/-- There are fewer than `2 ^ 32` discoveries. -/
def Few (s : State) (_ : Action) : Prop := s.threads.length + 1 < 2 ^ 32

instance decidableFew (s : State) (a : Action) : Decidable (Few s a) :=
  inferInstanceAs (Decidable (_ < _))

/-! ## What the callbacks say

A listener keeps the prefix of a network. It has no transition for a second prefix while it
has one, and for the removal of a prefix that it does not have. -/

/-- A prefix as it is in a callback, the address and the length. -/
abbrev Told := In6Addr × Nat

def advance : Option Told → Nat64PrefixInfo → Option (Option Told)
  | none, info =>
    if info.added then some (some (info.prefixString, info.prefixLength)) else none
  | some p, info =>
    if info.added = false ∧ p = (info.prefixString, info.prefixLength) then some none else none

/-- What a listener has after some callbacks. -/
def replay (cur : Option Told) (infos : List Nat64PrefixInfo) : Option (Option Told) :=
  infos.foldlM advance cur

def Event.callbackFor (n : Nat) : Event → Option Nat64PrefixInfo
  | .callback info => if info.netId = n then some info else none
  | _ => none

def callbacks (n : Nat) (events : List Event) : List Nat64PrefixInfo :=
  events.filterMap (Event.callbackFor n)

/-- The prefix that `getPrefix64` returns, if it returns one. -/
def told (p : IPPrefix) : Option Told := if p.isUninitialized then none else some (p.v6, p.cidrlen)

@[simp] theorem told_default : told {} = none := rfl

def IPPrefix.event (n : Nat) (added : Bool) (p : IPPrefix) : Event :=
  .callback ⟨n, added, p.v6, p.cidrlen⟩

open Event

theorem replay_snoc (n : Nat) (t : List Event) (e : Event) : replay none (callbacks n (t ++ [e])) =
      (replay none (callbacks n t)).bind fun cur =>
        match e.callbackFor n with
        | some info => advance cur info
        | none => some cur := by
  cases h : e.callbackFor n with
  | none =>
    simp [callbacks, h]
  | some info =>
    simp [callbacks, replay, h]

/-! ## Which discovery is in force -/

/-- The event ends the discoveries of the network that were started before it. -/
def Event.retires (n : Nat) : Event → Bool
  | .started _ m => m = n
  | .stopped m => m = n
  | _ => false

/-- The discovery that an event leaves in force for a network. -/
def Event.leaves (n : Nat) (cur : Option Nat) : Event → Option Nat
  | .started id m => if m = n then some id else cur
  | .stopped m => if m = n then none else cur
  | _ => cur

/-- The discovery of a network that was started last, if it was not stopped. -/
def latest (n : Nat) (events : List Event) : Option Nat := events.foldl (leaves n) none

@[simp] theorem latest_snoc (n : Nat) (t : List Event) (e : Event) :
    latest n (t ++ [e]) = e.leaves n (latest n t) := by
  simp [latest]

@[simp] theorem latest_push (n : Nat) (s : State) (e : Event) :
    latest n (s.push e).events = e.leaves n (latest n s.events) := latest_snoc n s.events e

theorem latest_eq_some {n id : Nat} (t : List Event) (h : latest n t = some id) :
    ∃ pre post, t = pre ++ .started id n :: post ∧ ∀ e ∈ post, e.retires n = false := by
  induction t using List.reverseRecOn with
  | nil => cases h
  | append_singleton t e ih =>
    rw [latest_snoc] at h
    by_cases hr : e.retires n
    · -- the last event is the start itself
      cases e with
      | started id' m =>
        obtain rfl : m = n := by simpa [retires] using hr
        simp only [leaves, if_pos, Option.some.injEq] at h
        exact ⟨t, [], by rw [h], by simp⟩
      | stopped m => simp_all [retires, leaves]
      | recorded | callback => simp [retires] at hr
    · have hkeep : e.leaves n (latest n t) = latest n t := by
        cases e <;> simp_all [retires, leaves]
      rw [hkeep] at h
      obtain ⟨pre, post, rfl, hpost⟩ := ih h
      refine ⟨pre, post ++ [e], by simp, ?_⟩
      intro d hd
      rcases mem_append.mp hd with hd | hd
      · exact hpost d hd
      · rw [mem_singleton.mp hd]
        simpa using hr

/-- What an event owes to those before it. -/
def Justified (pre : List Event) : Event → Prop
  | .started id _ => ∀ m, .started id m ∉ pre
  | .stopped _ => True
  | .recorded id n =>
    ∃ before since, pre = before ++ .started id n :: since ∧ ∀ e ∈ since, e.retires n = false
  | .callback info =>
    info.added = true → ∃ id, Trace.Ends (· = .recorded id info.netId) pre

/-! ## The invariant -/

/-- A prefix that `reportNat64PrefixStatus` does not keep back. -/
structure Reportable (p : IPPrefix) : Prop where
  family : p.family = Af.inet6
  scopeId : p.scopeId = 0
  cidrlen : p.cidrlen < 256

namespace Reportable

variable {p : IPPrefix}

theorem ofIn6 (ipv6 : In6Addr) : Reportable (IPPrefix.ofIn6 ipv6 96) :=
  ⟨rfl, rfl, by simp [IPPrefix.ofIn6]⟩

theorem isUninitialized (h : Reportable p) : p.isUninitialized = false := by
  simp [IPPrefix.isUninitialized, h.family, Af.inet6, Af.unspec]

theorem told (h : Reportable p) : told p = some (p.v6, p.cidrlen) := by
  simp [Dns64.told, h.isUninitialized]

theorem report (h : Reportable p) (n : Nat) (added : Bool) (s : State) :
    s.reportNat64PrefixStatus n added p = s.push (p.event n added) := by
  simp [IPPrefix.event, State.reportNat64PrefixStatus, h.family, h.scopeId,
    Nat.mod_eq_of_lt h.cidrlen]

end Reportable

/-- What holds after each statement of a section: a listener has the prefixes in force, and every
event is justified. -/
structure Consistent (s : State) : Prop where
  replay : ∀ n, replay none (callbacks n s.events) = some (told (s.getPrefix64 n))
  prefixes : ∀ n cfg, s.mDns64Configs n = some cfg → cfg.prefix64 = {} ∨ Reportable cfg.prefix64
  justified : Trace.Each Justified s.events

namespace Consistent

variable {s : State} {n : Nat}

theorem push (h : Consistent s) (e : Event) (he : ∀ n, e.callbackFor n = none)
    (hj : Justified s.events e) : Consistent (s.push e) where
  replay n := by
    have hreplay : Dns64.replay none (callbacks n (s.events ++ [e])) = _ := replay_snoc n _ e
    rw [h.replay n, he n] at hreplay
    exact hreplay
  prefixes := h.prefixes
  justified := h.justified.snoc hj

theorem getPrefix64 (h : Consistent s) (n : Nat) :
    s.getPrefix64 n = {} ∨ Reportable (s.getPrefix64 n) := by
  cases hconfig : s.mDns64Configs n with
  | none => exact .inl (by simp [State.getPrefix64, hconfig])
  | some cfg => simpa [State.getPrefix64, hconfig] using h.prefixes n cfg hconfig

end Consistent

/-- What `removeDns64Config` makes of a state. -/
structure Removed (n : Nat) (s s' : State) : Prop where
  mNextId : s'.mNextId = s.mNextId
  threads : s'.threads = s.threads
  mDns64Configs : s'.mDns64Configs = Function.update s.mDns64Configs n none
  latest : ∀ m, latest m s'.events = latest m s.events
  started : ∀ id m, .started id m ∈ s'.events → .started id m ∈ s.events
  consistent : Consistent s'

theorem getPrefix64_erase (s : State) (n m : Nat) :
    (s.erase n).getPrefix64 m = if m = n then {} else s.getPrefix64 m := by
  by_cases hm : m = n
  · subst hm
    simp [State.getPrefix64, State.erase]
  · simp [State.getPrefix64, State.erase, hm]

theorem prefixes_erase {s : State} (h : Consistent s) (n m : Nat) (cfg : Dns64Config)
    (hconfig : (s.erase n).mDns64Configs m = some cfg) :
    cfg.prefix64 = {} ∨ Reportable cfg.prefix64 := by
  by_cases hm : m = n
  · subst hm
    simp [State.erase] at hconfig
  · refine h.prefixes m cfg ?_
    simpa [State.erase, hm] using hconfig

open IPPrefix

theorem removeDns64Config_spec {s : State} (h : Consistent s) (n : Nat) :
    Removed n s (s.removeDns64Config n) := by
  rcases h.getPrefix64 n with hnone | hp
  · have heq : s.removeDns64Config n = s.erase n := by
      simp [State.removeDns64Config, hnone, isUninitialized]
    rw [heq]
    refine ⟨rfl, rfl, rfl, fun _ => rfl, fun _ _ he => he, ?_, prefixes_erase h n, h.justified⟩
    intro m
    have hreplay := h.replay m
    by_cases hm : m = n
    · subst hm
      rw [getPrefix64_erase, if_pos rfl, ← hnone]
      exact hreplay
    · rw [getPrefix64_erase, if_neg hm]
      exact hreplay
  · have heq : s.removeDns64Config n =
        (s.erase n).push ((s.getPrefix64 n).event n false) := by
      simp [State.removeDns64Config, hp.isUninitialized, hp.report]
    rw [heq]
    refine ⟨rfl, rfl, rfl, ?_, ?_, ?_, prefixes_erase h n,
      h.justified.snoc (by simp [Justified, event])⟩
    · intro m
      simp [State.erase, event, leaves]
    · intro id m he
      simpa [State.erase, event] using he
    · intro m
      refine (replay_snoc m s.events _).trans ?_
      have herase : ((s.erase n).push ((s.getPrefix64 n).event n false)).getPrefix64 m =
          if m = n then {} else s.getPrefix64 m := getPrefix64_erase s n m
      rw [herase, h.replay m]
      by_cases hm : m = n
      · -- the listener has the prefix that is removed
        subst hm
        rw [hp.told]
        simp [event, callbackFor, advance]
      · simp [event, callbackFor, hm, Ne.symm hm]

variable {cfg : Dns64Config} {lookup : Lookup} {s : State}

theorem emplace_eq (h : s.mDns64Configs cfg.netId = none) : s.emplace cfg =
      { s with mDns64Configs := Function.update s.mDns64Configs cfg.netId (some cfg) } := by
  simp [State.emplace, h]

theorem getPrefix64_emplace (h : s.mDns64Configs cfg.netId = none) (m : Nat) :
    (s.emplace cfg).getPrefix64 m = if m = cfg.netId then cfg.prefix64 else s.getPrefix64 m := by
  rw [emplace_eq h]
  by_cases hm : m = cfg.netId
  · subst hm
    simp [State.getPrefix64]
  · simp [State.getPrefix64, hm]

theorem prefixes_emplace (hs : Consistent s) (h : s.mDns64Configs cfg.netId = none)
    (hp : cfg.prefix64 = {} ∨ Reportable cfg.prefix64) (m : Nat) (c : Dns64Config)
    (hc : (s.emplace cfg).mDns64Configs m = some c) : c.prefix64 = {} ∨ Reportable c.prefix64 := by
  rw [emplace_eq h] at hc
  by_cases hm : m = cfg.netId
  · subst hm
    obtain rfl : cfg = c := by simpa using hc
    exact hp
  · refine hs.prefixes m c ?_
    simpa [hm] using hc

theorem Consistent.emplace_new (hs : Consistent s) (cfg : Dns64Config)
    (h : s.mDns64Configs cfg.netId = none) (hp : cfg.prefix64 = {}) :
    Consistent (s.emplace cfg) := by
  refine ⟨?_, prefixes_emplace hs h (.inl hp), ?_⟩
  · intro m
    have hreplay := hs.replay m
    rw [getPrefix64_emplace h]
    by_cases hm : m = cfg.netId
    · subst hm
      have hdefault : s.getPrefix64 cfg.netId = {} := by simp [State.getPrefix64, h]
      rw [if_pos rfl, hp, ← hdefault]
      simpa [emplace_eq h] using hreplay
    · rw [if_neg hm]
      simpa [emplace_eq h] using hreplay
  · simpa [emplace_eq h] using hs.justified

/-- A result that is recorded and reported. -/
theorem Consistent.emplace_found (hs : Consistent s) (h : s.mDns64Configs cfg.netId = none)
    (hp : Reportable cfg.prefix64) (hj : Justified s.events (.recorded cfg.discoveryId cfg.netId)) :
    Consistent (((s.emplace cfg).push (.recorded cfg.discoveryId cfg.netId)).push
      (cfg.prefix64.event cfg.netId true)) := by
  have hevents : (s.emplace cfg).events = s.events := by rw [emplace_eq h]
  refine ⟨?_, prefixes_emplace hs h (.inr hp), ?_⟩
  · intro m
    have hget : (((s.emplace cfg).push (.recorded cfg.discoveryId cfg.netId)).push
        (cfg.prefix64.event cfg.netId true)).getPrefix64 m =
        if m = cfg.netId then cfg.prefix64 else s.getPrefix64 m := getPrefix64_emplace h m
    rw [hget]
    simp only [State.push, hevents, replay_snoc, hs.replay m, callbackFor, Option.bind_some,
      event]
    by_cases hm : m = cfg.netId
    · -- there was no prefix for the listener to have
      subst hm
      have hdefault : s.getPrefix64 cfg.netId = {} := by simp [State.getPrefix64, h]
      simp [hdefault, advance, hp.told]
    · simp [hm, Ne.symm hm]
  · simp only [State.push, hevents]
    refine (hs.justified.snoc hj).snoc ?_
    intro _
    exact ⟨cfg.discoveryId, Trace.ends_snoc rfl⟩

/-- The invariant of a run. -/
structure Inv (first : Nat) (s : State) : Prop where
  consistent : Consistent s
  inForce : ∀ n, latest n s.events = (s.mDns64Configs n).map (·.discoveryId)
  mNextId : s.mNextId = (first + s.threads.length) % 2 ^ 32
  ids : ∀ id n, .started id n ∈ s.events → ∃ k < s.threads.length, id = (first + k) % 2 ^ 32
  found : ∀ t ∈ s.threads, t.pc = .recording → Reportable t.evalCfg.prefix64

variable {first : Nat} {s s' : State}

theorem inv_init : Inv first (init first) where
  consistent := ⟨fun _ => rfl, fun _ _ h => by simp [init] at h, Trace.each_nil⟩
  inForce _ := rfl
  mNextId := rfl
  ids id n h := by simp [init] at h
  found t ht := by simp [init] at ht

section

variable (h : Inv first s)
include h

theorem Inv.fresh (hfew : s.threads.length + 1 < 2 ^ 32) (m : Nat) :
    .started s.mNextId m ∉ s.events := by
  intro hmem
  obtain ⟨k, hk, heq⟩ := h.ids _ _ hmem
  rw [h.mNextId] at heq
  omega

theorem Inv.startPrefixDiscovery (hfew : s.threads.length + 1 < 2 ^ 32)
    (n : Nat) : Inv first (s.startPrefixDiscovery n) := by
  have hr := removeDns64Config_spec h.consistent n
  have hnone : (s.removeDns64Config n).mDns64Configs n = none := by simp [hr.mDns64Configs]
  have hfresh : ∀ m, .started s.mNextId m ∉ (s.removeDns64Config n).events :=
    fun m hm => h.fresh hfew m (hr.started _ _ hm)
  simp only [State.startPrefixDiscovery, hr.mNextId]
  rw [emplace_eq hnone]
  refine ⟨?_, ?_, ?_, ?_, ?_⟩
  · have hc := hr.consistent.emplace_new ⟨s.mNextId, n, {}⟩ hnone rfl
    rw [emplace_eq hnone] at hc
    have hc' := hc.push (.started s.mNextId n) (fun _ => rfl) hfresh
    exact ⟨hc'.replay, hc'.prefixes, hc'.justified⟩
  · intro m
    by_cases hm : m = n
    · subst hm
      simp [leaves]
    · simp [leaves, hm, Ne.symm hm, hr.latest, hr.mDns64Configs, h.inForce]
  · simp only [State.push_mNextId, State.push_threads, hr.threads, h.mNextId, length_append,
      length_singleton]
    omega
  · intro id m hmem
    simp only [State.mem_push_events, State.push_threads, length_append,
      length_singleton, hr.threads] at hmem ⊢
    rcases hmem with hmem | heq
    · obtain ⟨k, hk, rfl⟩ := h.ids _ _ (hr.started _ _ hmem)
      exact ⟨k, by omega, rfl⟩
    · cases heq
      exact ⟨s.threads.length, by omega, h.mNextId⟩
  · intro t ht hpc
    simp only [hr.threads, mem_append, mem_singleton] at ht
    rcases ht with ht | rfl
    · exact h.found t ht hpc
    · cases hpc

theorem Inv.stopPrefixDiscovery (n : Nat) : Inv first (s.stopPrefixDiscovery n) := by
  have hr := removeDns64Config_spec h.consistent n
  refine ⟨hr.consistent.push _ (fun _ => rfl) trivial, ?_, ?_, ?_, ?_⟩
  · intro m
    by_cases hm : m = n
    · subst hm
      simp [State.stopPrefixDiscovery, leaves, hr.mDns64Configs]
    · simp [State.stopPrefixDiscovery, leaves, hm, Ne.symm hm, hr.latest,
        hr.mDns64Configs, h.inForce]
  · exact hr.mNextId.trans (hr.threads ▸ h.mNextId)
  · intro id m hmem
    simp only [State.stopPrefixDiscovery, State.mem_push_events, State.push_threads, hr.threads,
      reduceCtorEq, or_false] at hmem ⊢
    exact h.ids _ _ (hr.started _ _ hmem)
  · intro t ht
    exact h.found t (hr.threads ▸ ht)

theorem Inv.latest_of_inProgress (hin : s.isDiscoveryInProgress cfg) :
    latest cfg.netId s.events = some cfg.discoveryId := by
  rw [h.inForce]
  cases hcur : s.mDns64Configs cfg.netId with
  | none => simp [State.isDiscoveryInProgress, hcur] at hin
  | some cur => simpa [State.isDiscoveryInProgress, hcur] using hin

theorem Inv.recordDns64Config (hp : Reportable cfg.prefix64) :
    Inv first (s.recordDns64Config cfg) ∧ (s.recordDns64Config cfg).threads = s.threads := by
  by_cases hin : s.isDiscoveryInProgress cfg
  · have hr := removeDns64Config_spec h.consistent cfg.netId
    have hnone : (s.removeDns64Config cfg.netId).mDns64Configs cfg.netId = none := by
      simp [hr.mDns64Configs]
    have hlast := h.latest_of_inProgress hin
    have hc := hr.consistent.emplace_found hnone hp (latest_eq_some _ ((hr.latest _).trans hlast))
    have heq : s.recordDns64Config cfg = (((s.removeDns64Config cfg.netId).emplace cfg).push
        (.recorded cfg.discoveryId cfg.netId)).push (cfg.prefix64.event cfg.netId true) := by
      simp [State.recordDns64Config, hin, hp.report]
    rw [heq]
    rw [emplace_eq hnone] at hc ⊢
    refine ⟨⟨hc, ?_, ?_, ?_, ?_⟩, hr.threads⟩
    · intro m
      by_cases hm : m = cfg.netId
      · subst hm
        simp [event, leaves, hr.latest, hlast]
      · simp [event, leaves, hm, hr.latest, hr.mDns64Configs, h.inForce]
    · exact hr.mNextId.trans (hr.threads ▸ h.mNextId)
    · intro id m hmem
      simp only [State.mem_push_events, State.push_threads, event, hr.threads,
        reduceCtorEq, or_false] at hmem ⊢
      exact h.ids _ _ (hr.started _ _ hmem)
    · intro t ht
      exact h.found t (hr.threads ▸ ht)
  · have heq : s.recordDns64Config cfg = s := by simp [State.recordDns64Config, hin]
    rw [heq]
    exact ⟨h, rfl⟩

end

theorem Thread.advance_recording {t : Thread} {more : Bool}
    (hpc : (t.advance s lookup more).pc = .recording) :
    Reportable (t.advance s lookup more).evalCfg.prefix64 := by
  cases ht : t.pc with
  | lookingUp =>
    simp only [Thread.advance, ht] at hpc ⊢
    cases hfound : doRfc7050PrefixDiscovery lookup t.evalCfg with
    | none => simp [hfound] at hpc
    | some cfg =>
      unfold doRfc7050PrefixDiscovery at hfound
      split_ifs at hfound
      cases hfound
      exact Reportable.ofIn6 lookup.sin6Addr
  | checking | rechecking =>
    simp only [Thread.advance, ht] at hpc
    split at hpc <;> cases hpc
  | recording | waiting | ended => simp [Thread.advance, ht] at hpc

theorem Inv.threadStep {k : Nat} {more : Bool} (h : Inv first s)
    (hs : threadStep k lookup more s = some s') : Inv first s' := by
  unfold Dns64.threadStep at hs
  cases ht : s.threads[k]? with
  | none => simp [ht] at hs
  | some t =>
    rw [ht] at hs
    have hmem : t ∈ s.threads := mem_of_getElem? ht
    -- only the prefix of a thread that records gets into the configuration
    have hrec : Inv first (if t.pc = .recording then s.recordDns64Config t.evalCfg else s) ∧
        (if t.pc = .recording then s.recordDns64Config t.evalCfg else s).threads = s.threads := by
      split
      · next hpc => exact h.recordDns64Config (h.found t hmem hpc)
      · exact ⟨h, rfl⟩
    obtain ⟨hinv, hthreads⟩ := hrec
    cases hs
    refine ⟨⟨hinv.consistent.replay, hinv.consistent.prefixes, hinv.consistent.justified⟩,
      hinv.inForce, ?_, ?_, ?_⟩
    · simpa [hthreads] using hinv.mNextId
    · simpa [hthreads] using hinv.ids
    · intro u hu
      rcases mem_or_eq_of_mem_set hu with hu | rfl
      · exact h.found u hu
      · exact Thread.advance_recording

theorem inv_step {a : Action} (h : Inv first s) (hfew : Few s a) (hs : step a s = some s') :
    Inv first s' := by
  cases a with
  | startPrefixDiscovery n =>
    cases hs
    exact h.startPrefixDiscovery hfew n
  | stopPrefixDiscovery n =>
    cases hs
    exact h.stopPrefixDiscovery n
  | thread k lookup more => exact h.threadStep hs

/-! ## Results -/

/-- In every interleaving a listener can follow the callbacks for a network, they leave it with what
`getPrefix64` returns, and stopped or superseded discoveries record nothing. -/
theorem callbacks_consistent (first : Nat) {acts : List Action} {s : State}
    (hrun : Lts.Run step Few (init first) acts s) :
    (∀ n, replay none (callbacks n s.events) = some (told (s.getPrefix64 n))) ∧
      Trace.Each Justified s.events := by
  have hinv := hrun.invariant (I := fun _ s => Inv first s) inv_init inv_step
  exact ⟨hinv.consistent.replay, hinv.consistent.justified⟩

/-- The answer of a network's DNS64. -/
def sampleLookup (b : Byte) : Lookup := ⟨0, Af.inet6, Vector.replicate 16 b⟩

/-- A discovery is restarted while it looks up, and both threads find a prefix. -/
def sampleActions : List Action :=
  [.startPrefixDiscovery 100, .thread 0 (sampleLookup 1) true, .startPrefixDiscovery 100,
    .thread 1 (sampleLookup 2) true, .thread 0 (sampleLookup 1) true,
    .thread 1 (sampleLookup 2) true, .thread 0 (sampleLookup 1) true,
    .thread 1 (sampleLookup 2) true, .stopPrefixDiscovery 100]

theorem callbacks_consistent_restarted :
    ∃ s, Lts.Run step Few (init (2 ^ 32 - 1)) sampleActions.reverse s ∧
      (callbacks 100 s.events).map (·.added) = [true, false] ∧
      (∀ n, replay none (callbacks n s.events) = some (told (s.getPrefix64 n))) ∧
      Trace.Each Justified s.events :=
  Lts.run_of_mem_and sampleActions (by decide +kernel) (callbacks_consistent _)

end Netd.Dns64
