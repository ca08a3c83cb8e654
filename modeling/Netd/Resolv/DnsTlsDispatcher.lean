import Netd.Lib.Lts
import Netd.Resolv.DnsTlsServer

/-!
# DnsTlsDispatcher

The cache of transports. A query for a server on a network looks its transport up, or makes one, in
a critical section on `sLock`, waits for the answer without the lock, and gives the transport back
in a second section, which cleans the cache up.
-/

namespace Netd

open OrdMap Option

namespace DnsTlsDispatcher

abbrev Key := Nat × DnsTlsServer

/-- `operator <` of `std::pair`. -/
def keyLt (x y : Key) : Prop := x.1 < y.1 ∨ (¬ y.1 < x.1 ∧ x.2.operatorLt y.2)

instance : DecidableRel keyLt := fun _ _ => inferInstanceAs (Decidable (_ ∨ _))

theorem keyLt_iff (x y : Key) : keyLt x y ↔ toLex (x.1, x.2.key) < toLex (y.1, y.2.key) := by
  refine Iff.trans ?_ Prod.Lex.toLex_lt_toLex.symm
  rw [keyLt, DnsTlsServer.operatorLt_iff]
  exact lt_or_not_gt_and_iff

instance isStrictWeakOrder_keyLt : IsStrictWeakOrder Key keyLt :=
  isStrictWeakOrder_of_key (fun x => toLex (x.1, x.2.key)) keyLt_iff

/-- A transport with its reference counting and usage monitoring. -/
structure Transport where
  useCount : Int
  lastUsed : Int
  deriving DecidableEq

/-- A call of `query` between its two critical sections. -/
structure QueryCall where
  key : Key
  xport : Nat
  deriving DecidableEq

/-- Five minutes, in nanoseconds. -/
def idleTimeout : Int := 5 * 60 * 1000000000

end DnsTlsDispatcher

open DnsTlsDispatcher (Key keyLt Transport QueryCall)

/-- The cache, the transports by their address, and the calls that wait for an answer. -/
structure DnsTlsDispatcher where
  mStore : CmpMap Key Nat keyLt
  heap : OrdMap Nat Transport
  mLastCleanup : Int
  calls : List QueryCall

namespace DnsTlsDispatcher

def new : DnsTlsDispatcher := ⟨.empty, .empty, 0, []⟩

/-- `++xport->useCount;`, with which the call begins to wait. -/
def use (key : Key) (xport : Nat) (t : Transport) (s : DnsTlsDispatcher) : DnsTlsDispatcher :=
  { s with
    heap := s.heap.insert xport { t with useCount := t.useCount + 1 }
    calls := ⟨key, xport⟩ :: s.calls }

/-- `new Transport`, at an address that is not in use. -/
def make (key : Key) (addr : Nat) (s : DnsTlsDispatcher) : DnsTlsDispatcher :=
  { s with mStore := s.mStore.assign key addr, heap := s.heap.insert addr ⟨0, 0⟩ }

/-- The first critical section. `addr` is the address of a transport that is made. -/
def lookup (key : Key) (addr : Nat) (s : DnsTlsDispatcher) : Option DnsTlsDispatcher :=
  match s.mStore.find? key with
  | none => if s.heap.contains addr then none else some ((s.make key addr).use key addr ⟨0, 0⟩)
  | some (_, xport) => (s.heap.find? xport).map fun t => s.use key xport t

/-- A transport that nobody uses and that has been idle for long. -/
def idle (now : Int) (t : Transport) : Bool :=
  decide (t.useCount = 0) && decide (idleTimeout < now - t.lastUsed)

/-- The transport at an address is idle. -/
def idleAt (now : Int) (s : DnsTlsDispatcher) (xport : Nat) : Bool :=
  (s.heap.find? xport).any (idle now)

/-- Drop the idle transports, unless a cleanup has been performed recently. -/
def cleanup (now : Int) (s : DnsTlsDispatcher) : DnsTlsDispatcher :=
  if now - s.mLastCleanup < idleTimeout then s
  else
    { s with
      mStore := s.mStore.filter fun _ xport => !s.idleAt now xport
      heap := s.heap.filter fun xport _ => !s.idleAt now xport
      mLastCleanup := now }

/-- `--xport->useCount;` and the time of the use. -/
def giveBack (c : QueryCall) (now : Int) (t : Transport) (s : DnsTlsDispatcher) :
    DnsTlsDispatcher :=
  { s with
    heap := s.heap.insert c.xport ⟨t.useCount - 1, now⟩
    calls := s.calls.erase c }

/-- The critical sections, the second one at the time that the clock shows. -/
inductive Action where
  | lookup (key : Key) (addr : Nat)
  | finish (c : QueryCall) (now : Int)

def step : Action → DnsTlsDispatcher → Option DnsTlsDispatcher
  | .lookup key addr, s => s.lookup key addr
  | .finish c now, s =>
    if c ∈ s.calls then
      (s.heap.find? c.xport).map fun t => (s.giveBack c now t).cleanup now
    else none

/-! ## The invariant -/

variable {s s' : DnsTlsDispatcher} {key : Key} {addr xport : Nat} {t : Transport} {c : QueryCall}
  {now : Int} {a : Action} {calls : List QueryCall}

/-- The number of calls that have looked a transport up and not given it back. -/
def users (calls : List QueryCall) (xport : Nat) : Nat := calls.countP fun c => c.xport = xport

structure Inv (s : DnsTlsDispatcher) : Prop where
  owned : ∀ xport, xport ∈ s.heap.keys ↔ ∃ k, (k, xport) ∈ s.mStore.entries
  /-- A transport is in the cache once. -/
  once : ∀ d ∈ s.mStore.entries, ∀ e ∈ s.mStore.entries, d.2 = e.2 → d = e
  /-- What a call has looked up is in the cache under its key. -/
  stored : ∀ c ∈ s.calls, ∃ k, (k, c.xport) ∈ s.mStore.entries ∧ Equivalent keyLt k c.key
  counted : ∀ xport t, s.heap.find? xport = some t → t.useCount = users s.calls xport

theorem inv_new : new.Inv where
  owned xport := by simp [new, keys, empty]
  once d hd := absurd hd List.not_mem_nil
  stored c hc := absurd hc List.not_mem_nil
  counted xport t h := by cases h

theorem Inv.live (h : s.Inv) (hc : c ∈ s.calls) : ∃ t, s.heap.find? c.xport = some t := by
  obtain ⟨key, hmem, -⟩ := h.stored c hc
  exact mem_keys.mp ((h.owned _).mpr ⟨key, hmem⟩)

theorem users_cons (c : QueryCall) (calls : List QueryCall) (xport : Nat) :
    users (c :: calls) xport = users calls xport + if c.xport = xport then 1 else 0 := by
  by_cases h : c.xport = xport <;> simp [users, h]

theorem users_erase (hc : c ∈ calls) (xport : Nat) :
    users (calls.erase c) xport + (if c.xport = xport then 1 else 0) = users calls xport := by
  rw [← users_cons]
  exact ((List.perm_cons_erase hc).countP_eq _).symm

theorem users_eq_zero : users calls xport = 0 ↔ ∀ c ∈ calls, c.xport ≠ xport := by
  simp [users]

theorem Inv.use (h : s.Inv) (ht : s.heap.find? xport = some t)
    (hstored : ∃ k, (k, xport) ∈ s.mStore.entries ∧ Equivalent keyLt k key) :
    (s.use key xport t).Inv where
  owned x := (mem_keys_insert_of_mem (mem_keys.mpr ⟨t, ht⟩)).trans (h.owned x)
  once := h.once
  stored d hd := by
    rcases List.mem_cons.mp hd with rfl | hd
    · exact hstored
    · exact h.stored d hd
  counted x u hu := by
    show u.useCount = users (⟨key, xport⟩ :: s.calls) x
    rw [users_cons]
    rw [show (s.use key xport t).heap = s.heap.insert xport _ from rfl, find?_insert] at hu
    split at hu
    · rename_i heq
      obtain rfl := some.inj hu
      have hcount := h.counted xport t ht
      simp [heq, hcount]
    · rename_i hne
      have hcount := h.counted x u hu
      simp [Ne.symm hne, hcount]

theorem Inv.make (h : s.Inv) (hkey : s.mStore.find? key = none) (haddr : addr ∉ s.heap.keys) :
    (s.make key addr).Inv := by
  have hfresh : ∀ e ∈ s.mStore.entries, e.2 ≠ addr := by
    rintro ⟨k, x⟩ he rfl
    exact haddr ((h.owned x).mpr ⟨k, he⟩)
  have hentries : ∀ e, e ∈ (s.mStore.assign key addr).entries ↔
      e ∈ s.mStore.entries ∨ e = (key, addr) := by
    intro e
    rw [CmpMap.mem_assign, CmpMap.storedKey_of_none hkey]
    refine or_congr_left ⟨fun he => he.1, fun he => ⟨he, CmpMap.find?_eq_none.mp hkey e he⟩⟩
  constructor
  · intro x
    refine Iff.trans mem_keys_insert ?_
    rw [h.owned x]
    constructor
    · rintro (rfl | ⟨k, hk⟩)
      · exact ⟨key, (hentries _).mpr (.inr rfl)⟩
      · exact ⟨k, (hentries _).mpr (.inl hk)⟩
    · rintro ⟨k, hk⟩
      rcases (hentries _).mp hk with hk | heq
      · exact .inr ⟨k, hk⟩
      · exact .inl (congrArg Prod.snd heq)
  · intro d hd e he heq
    rcases (hentries d).mp hd with hd | rfl <;> rcases (hentries e).mp he with he | rfl
    · exact h.once d hd e he heq
    · exact absurd heq (hfresh d hd)
    · exact absurd heq.symm (hfresh e he)
    · rfl
  · intro c hc
    obtain ⟨k, hk, hequiv⟩ := h.stored c hc
    exact ⟨k, (hentries _).mpr (.inl hk), hequiv⟩
  · intro x u hu
    rw [show (s.make key addr).heap = s.heap.insert addr _ from rfl, find?_insert] at hu
    split at hu
    · rename_i heq
      obtain rfl := some.inj hu
      have hzero : users s.calls x = 0 := by
        refine users_eq_zero.mpr fun c hc hx => ?_
        obtain ⟨k, hk, -⟩ := h.stored c hc
        exact hfresh _ hk (hx.trans heq)
      show (0 : Int) = users s.calls x
      rw [hzero]
      rfl
    · exact h.counted x u hu

theorem Inv.lookup (h : s.Inv) (hstep : s.lookup key addr = some s') : s'.Inv := by
  unfold DnsTlsDispatcher.lookup at hstep
  split at hstep
  · rename_i hkey
    split at hstep
    · cases hstep
    rename_i hfree
    obtain rfl := some.inj hstep
    have haddr : addr ∉ s.heap.keys := fun hmem => hfree (contains_iff.mpr hmem)
    refine (h.make hkey haddr).use (find?_insert_self ..) ⟨key, ?_, .refl key⟩
    refine CmpMap.mem_assign.mpr (.inr ?_)
    rw [CmpMap.storedKey_of_none hkey]
  · rename_i k xport hkey
    obtain ⟨t, ht, rfl⟩ := map_eq_some_iff.mp hstep
    obtain ⟨hmem, hequiv⟩ := CmpMap.find?_eq_some.mp hkey
    exact h.use ht ⟨k, hmem, hequiv⟩

theorem Inv.giveBack (h : s.Inv) (hc : c ∈ s.calls) (ht : s.heap.find? c.xport = some t) :
    (s.giveBack c now t).Inv where
  owned x := (mem_keys_insert_of_mem (mem_keys.mpr ⟨t, ht⟩)).trans (h.owned x)
  once := h.once
  stored d hd := h.stored d (List.mem_of_mem_erase hd)
  counted x u hu := by
    show u.useCount = users (s.calls.erase c) x
    have herase := users_erase hc x
    rw [show (s.giveBack c now t).heap = s.heap.insert c.xport _ from rfl, find?_insert] at hu
    split at hu
    · rename_i heq
      obtain rfl := some.inj hu
      have hcount := h.counted c.xport t ht
      rw [if_pos heq.symm] at herase
      rw [← heq] at hcount
      show t.useCount - 1 = users (s.calls.erase c) x
      omega
    · rename_i hne
      have hcount := h.counted x u hu
      rw [if_neg (Ne.symm hne)] at herase
      omega

theorem cleanup_drops (ht : s.heap.find? xport = some t)
    (hgone : (s.cleanup now).heap.find? xport = none) : idle now t = true := by
  unfold cleanup at hgone
  split at hgone
  · rw [ht] at hgone
    cases hgone
  by_contra hidle
  have hat : s.idleAt now xport = false := by
    rw [idleAt, ht]
    simpa using hidle
  refine find?_eq_none.mp hgone t (List.mem_filter.mpr ⟨find?_eq_some.mp ht, ?_⟩)
  simp [hat]

theorem Inv.not_idle (h : s.Inv) (hc : c ∈ s.calls) : s.idleAt now c.xport = false := by
  obtain ⟨t, ht⟩ := h.live hc
  have hcount := h.counted _ t ht
  have hpos : users s.calls c.xport ≠ 0 := fun hzero => users_eq_zero.mp hzero c hc rfl
  have huse : t.useCount ≠ 0 := by omega
  simp [idleAt, ht, idle, huse]

theorem Inv.cleanup (h : s.Inv) : (s.cleanup now).Inv := by
  unfold DnsTlsDispatcher.cleanup
  split
  · exact h
  have hheap : ∀ x t, (s.heap.filter fun xport _ => !s.idleAt now xport).find? x = some t ↔
      s.heap.find? x = some t ∧ s.idleAt now x = false := by
    intro x t
    rw [find?_eq_some, find?_eq_some]
    simp [filter]
  constructor
  · intro x
    simp only [mem_keys, hheap, CmpMap.mem_filter]
    constructor
    · rintro ⟨t, ht, hat⟩
      obtain ⟨k, hk⟩ := (h.owned x).mp (mem_keys.mpr ⟨t, ht⟩)
      exact ⟨k, hk, by simp [hat]⟩
    · rintro ⟨k, hk, hat⟩
      obtain ⟨t, ht⟩ := mem_keys.mp ((h.owned x).mpr ⟨k, hk⟩)
      exact ⟨t, ht, by simpa using hat⟩
  · intro d hd e he
    exact h.once d (CmpMap.mem_filter.mp hd).1 e (CmpMap.mem_filter.mp he).1
  · intro c hc
    obtain ⟨k, hk, hequiv⟩ := h.stored c hc
    refine ⟨k, CmpMap.mem_filter.mpr ⟨hk, ?_⟩, hequiv⟩
    simp [h.not_idle hc]
  · intro x t ht
    exact h.counted x t ((hheap x t).mp ht).1

theorem Inv.step (h : s.Inv) (hstep : DnsTlsDispatcher.step a s = some s') : s'.Inv := by
  cases a with
  | lookup key addr => exact h.lookup hstep
  | finish c now =>
    obtain ⟨hc, hs⟩ := ite_none_right_eq_some.mp hstep
    obtain ⟨t, ht, rfl⟩ := map_eq_some_iff.mp hs
    exact (h.giveBack hc ht).cleanup

abbrev Run := Lts.Run step (fun _ _ => True) new

theorem run_inv {h : List Action} (hrun : Run h s) : s.Inv :=
  Lts.Run.invariant (I := fun _ s => s.Inv) inv_new (fun hinv _ hstep => hinv.step hstep) hrun

/-- In every run, the use count of a transport is the number of calls that use it, and each key has
at most one transport. -/
theorem dispatcher_keeps_transports {h : List Action} (hrun : Run h s) :
    (∀ xport t, s.heap.find? xport = some t → t.useCount = users s.calls xport) ∧
    (∀ d ∈ s.mStore.entries, ∀ e ∈ s.mStore.entries, Equivalent keyLt d.1 e.1 ∨ d.2 = e.2 → d = e) ∧
    (∀ c ∈ s.calls, (∃ k, (k, c.xport) ∈ s.mStore.entries ∧ Equivalent keyLt k c.key) ∧
      (s.heap.find? c.xport).isSome = true) ∧
    (∀ c ∈ s.calls, ∀ now, ∃ t, s.heap.find? c.xport = some t ∧
      step (.finish c now) s = some ((s.giveBack c now t).cleanup now) ∧
      ∀ xport u, (s.giveBack c now t).heap.find? xport = some u →
        ((s.giveBack c now t).cleanup now).heap.find? xport = none →
        u.useCount = 0 ∧ idleTimeout < now - u.lastUsed) := by
  have hinv := run_inv hrun
  refine ⟨hinv.counted, ?_, ?_, ?_⟩
  · rintro d hd e he (hequiv | heq)
    · exact CmpMap.eq_of_equivalent hd he hequiv
    · exact hinv.once d hd e he heq
  · intro c hc
    obtain ⟨t, ht⟩ := hinv.live hc
    exact ⟨hinv.stored c hc, by rw [ht]; rfl⟩
  · intro c hc now
    obtain ⟨t, ht⟩ := hinv.live hc
    refine ⟨t, ht, ?_, fun xport u hu hgone => ?_⟩
    · simp only [step, if_pos hc, ht]
      rfl
    · have hidle := cleanup_drops hu hgone
      simpa [idle] using hidle

/-- Two calls for one server and one for another, with a cleanup after ten minutes. -/
def threeCalls : List Action :=
  [.lookup (1, .ofSockaddr (.inet ⟨853, 1⟩)) 7, .lookup (1, .ofSockaddr (.inet ⟨853, 1⟩)) 8,
    .lookup (1, .ofSockaddr (.inet ⟨853, 2⟩)) 8,
    .finish ⟨(1, .ofSockaddr (.inet ⟨853, 2⟩)), 8⟩ 1000000000,
    .finish ⟨(1, .ofSockaddr (.inet ⟨853, 1⟩)), 7⟩ 600000000000]

theorem dispatcher_keeps_transports_threeCalls :
    ∃ s, Run threeCalls.reverse s ∧ s.mStore.entries.map Prod.snd = [7] ∧
      s.heap.find? 7 = some ⟨1, 600000000000⟩ ∧ s.heap.find? 8 = none ∧
      (1 : Int) = users s.calls 7 := by
  obtain ⟨s, hrun, hstore, hlive, hgone⟩ : ∃ s, Run threeCalls.reverse s ∧
      s.mStore.entries.map Prod.snd = [7] ∧ s.heap.find? 7 = some ⟨1, 600000000000⟩ ∧
      s.heap.find? 8 = none := Lts.run_of_mem _ (by decide +kernel)
  exact ⟨s, hrun, hstore, hlive, hgone, (dispatcher_keeps_transports hrun).1 7 _ hlive⟩

end DnsTlsDispatcher

end Netd
