import Netd.Resolv.DnsTlsQueryMap

/-!
# The queries of a DnsTlsSocket

`DnsTlsSocket::query` composes a message, pushes it onto `mQueue` and then adds one to the counter
of `mEventFd`. The loop thread waits for the counter, reads it, which sets it to zero, and then
takes all that is in `mQueue`. Each of these is one step here. `LockedQueue::push` pushes at the
front and the loop sends from the front.

A swap can take a message whose caller has not added to the counter yet. The idle timeout and
errors of the connection are not here.
-/

namespace Netd.DnsTlsSocket

open List Option Lts

/-- A message and the call of `query` that it belongs to. -/
structure Message where
  call : Nat
  buf : List Byte
  deriving DecidableEq

/-- The message of a query: its length, the id and the rest of the query. -/
def compose (id : QueryId) (query : List Byte) : List Byte :=
  let len := (query.length + 2) % 65536
  Fin.ofNat 256 (len / 256) :: Fin.ofNat 256 len :: Fin.ofNat 256 (id.val / 256) ::
    Fin.ofNat 256 id.val :: query

inductive Loop where
  /-- About to call `poll`. -/
  | polling
  /-- It has read the counter and is about to take the queue. -/
  | swapping (numQueries : Nat)
  /-- It has stopped with a synchronization error. -/
  | stopped
  deriving DecidableEq

/-- The queue and the counter, the messages that the loop has taken, and those it has
written to the TLS stream. -/
structure Queues where
  mQueue : List Message
  mEventFd : Nat
  q : List Message
  loop : Loop
  written : List Message
  calls : Nat
  /-- The messages of the calls between the push and the write to `mEventFd`. -/
  pushed : List Message
  /-- The messages of the calls that returned true. -/
  accepted : List Message

namespace Queues

def new : Queues := ⟨[], 0, [], .polling, [], 0, [], []⟩

inductive Action where
  /-- `query` up to the push. -/
  | push (id : QueryId) (query : List Byte)
  /-- The write to `mEventFd` in the call with this message. -/
  | write (m : Message)
  /-- The read of `mEventFd`. -/
  | read
  | swap
  | sendQuery

def push (id : QueryId) (query : List Byte) (s : Queues) : Queues :=
  let m : Message := ⟨s.calls, compose id query⟩
  { s with mQueue := m :: s.mQueue, calls := s.calls + 1, pushed := m :: s.pushed }

/-- When the loop has stopped, `mEventFd` is closed and the write fails. -/
def write (m : Message) (s : Queues) : Queues :=
  if s.loop = .stopped then { s with pushed := s.pushed.erase m }
  else
    { s with
      mEventFd := s.mEventFd + 1
      pushed := s.pushed.erase m
      accepted := m :: s.accepted }

/-- Take ownership of all queries in the queue. There should be at least as many as the
counter said. -/
def swap (numQueries : Nat) (s : Queues) : Queues :=
  { s with
    mQueue := s.q
    q := s.mQueue
    loop := if s.mQueue.length < numQueries then .stopped else .polling }

def step : Action → Queues → Option Queues
  | .push id query, s => if s.loop = .stopped then none else some (s.push id query)
  | .write m, s => if m ∈ s.pushed then some (s.write m) else none
  | .read, s =>
    if s.loop = .polling ∧ s.q = [] ∧ 0 < s.mEventFd then
      some { s with loop := .swapping s.mEventFd, mEventFd := 0 }
    else none
  | .swap, s =>
    match s.loop with
    | .swapping numQueries => some (s.swap numQueries)
    | _ => none
  | .sendQuery, s =>
    match s.loop, s.q with
    | .polling, m :: q => some { s with q := q, written := s.written ++ [m] }
    | _, _ => none

/-! ## The invariant -/

variable {s s' : Queues} {m : Message} {a : Action}

/-- The messages that were pushed, wherever they are now. -/
def all (s : Queues) : List Message := s.written ++ s.q ++ s.mQueue

/-- The part of the counter that the loop has read and not used yet. -/
def taken : Loop → Nat
  | .swapping numQueries => numQueries
  | _ => 0

/-- A swap takes only messages that the counter accounts for: no call is between its push and its
write to `mEventFd`, and none has written since the read. -/
def settled (s : Queues) : Action → Prop
  | .swap => s.pushed = [] ∧ s.mEventFd = 0
  | _ => True

instance (s : Queues) : (a : Action) → Decidable (s.settled a)
  | .swap => inferInstanceAs (Decidable (_ ∧ _))
  | .push _ _ | .write _ | .read | .sendQuery => isTrue trivial

structure Inv (s : Queues) : Prop where
  running : s.loop ≠ .stopped
  empty : s.loop ≠ .polling → s.q = []
  balance : s.mQueue.length = taken s.loop + s.mEventFd + s.pushed.length
  queued : s.pushed ⊆ s.mQueue
  callers : s.all.Perm (s.accepted ++ s.pushed)
  numbers : (s.all.map (·.call)).Perm (List.range s.calls)

theorem inv_new : new.Inv where
  running := by simp [new]
  empty := by simp [new]
  balance := rfl
  queued := List.Subset.refl _
  callers := List.Perm.refl _
  numbers := List.Perm.refl _

section

variable (h : s.Inv)
include h

theorem Inv.push (id : QueryId) (query : List Byte) : (s.push id query).Inv := by
  have hall : (s.push id query).all.Perm (⟨s.calls, compose id query⟩ :: s.all) := perm_middle
  refine ⟨h.running, h.empty, ?_, cons_subset_cons _ h.queued, ?_, ?_⟩
  · have hbalance := h.balance
    simp only [Queues.push, length_cons]
    omega
  · exact hall.trans ((h.callers.cons _).trans perm_middle.symm)
  · refine (hall.map (·.call)).trans ?_
    show (s.calls :: s.all.map (·.call)).Perm (List.range (s.calls + 1))
    rw [range_succ]
    exact (h.numbers.cons _).trans (perm_append_singleton _ _).symm

theorem Inv.write (hm : m ∈ s.pushed) : (s.write m).Inv := by
  unfold Queues.write
  rw [if_neg h.running]
  refine ⟨h.running, h.empty, ?_, List.Subset.trans erase_subset h.queued, ?_, h.numbers⟩
  · have hlen := length_erase_of_mem hm
    have hpos := length_pos_of_mem hm
    have hbalance := h.balance
    simp only
    omega
  · have hcallers : (s.accepted ++ s.pushed).Perm (m :: s.accepted ++ s.pushed.erase m) :=
      ((perm_cons_erase hm).append_left _).trans perm_middle
    exact h.callers.trans hcallers

theorem Inv.read (hloop : s.loop = .polling) (hq : s.q = []) :
    Inv { s with loop := .swapping s.mEventFd, mEventFd := 0 } := by
  refine ⟨by simp, fun _ => hq, ?_, h.queued, h.callers, h.numbers⟩
  have hbalance := h.balance
  rw [hloop] at hbalance
  simp only [taken] at hbalance ⊢
  omega

theorem Inv.swap {numQueries : Nat} (hloop : s.loop = .swapping numQueries)
    (hsettled : s.settled .swap) : (s.swap numQueries).Inv := by
  obtain ⟨hpush, hfd⟩ := hsettled
  have hq : s.q = [] := h.empty (by simp [hloop])
  have hlen : s.mQueue.length = numQueries := by
    have hbalance := h.balance
    rw [hloop, hpush, hfd] at hbalance
    exact hbalance
  have hall : (s.swap numQueries).all = s.all := by
    simp [all, Queues.swap, hq]
  have hpolling : (s.swap numQueries).loop = .polling := by
    simp [Queues.swap, hlen]
  refine ⟨by simp [hpolling], fun hne => absurd hpolling hne, ?_, ?_, ?_, ?_⟩
  · rw [hpolling]
    show s.q.length = 0 + s.mEventFd + s.pushed.length
    rw [hq, hfd, hpush]
    rfl
  · show s.pushed ⊆ s.q
    rw [hpush]
    exact nil_subset _
  · rw [hall]
    exact h.callers
  · rw [hall]
    exact h.numbers

theorem Inv.sendQuery {q : List Message} (hloop : s.loop = .polling)
    (hq : s.q = m :: q) : Inv { s with q := q, written := s.written ++ [m] } := by
  have hall : all { s with q := q, written := s.written ++ [m] } = s.all := by
    simp [all, hq]
  refine ⟨h.running, fun hne => absurd hloop hne, h.balance, h.queued, ?_, ?_⟩
  · rw [hall]
    exact h.callers
  · rw [hall]
    exact h.numbers

theorem Inv.step (hsettled : s.settled a) (hstep : Queues.step a s = some s') : s'.Inv := by
  cases a with
  | push id query =>
    simp only [Queues.step] at hstep
    split at hstep
    · cases hstep
    · exact some.inj hstep ▸ h.push id query
  | write m =>
    obtain ⟨hm, rfl⟩ := of_guard hstep
    exact h.write hm
  | read =>
    obtain ⟨⟨hloop, hq, -⟩, rfl⟩ := of_guard hstep
    exact h.read hloop hq
  | swap =>
    simp only [Queues.step] at hstep
    split at hstep
    · next numQueries hloop => exact some.inj hstep ▸ h.swap hloop hsettled
    · cases hstep
  | sendQuery =>
    simp only [Queues.step] at hstep
    split at hstep
    · next m q hloop hq => exact some.inj hstep ▸ h.sendQuery hloop hq
    · cases hstep

end

theorem run_inv {h : List Action} (hrun : Lts.Run step settled new h s) : s.Inv :=
  Lts.Run.invariant (I := fun _ s => s.Inv) inv_new (fun hinv hok hstep => hinv.step hok hstep) hrun

/-! ## Every message is written once -/

theorem Inv.nodup (h : s.Inv) : s.all.Nodup :=
  List.Nodup.of_map _ (h.numbers.nodup_iff.mpr nodup_range)

theorem Inv.count_all (h : s.Inv) (hm : m ∈ s.accepted) : s.all.count m = 1 :=
  count_eq_one_of_mem h.nodup (h.callers.mem_iff.mpr (mem_append_left _ hm))

def Waiting (s : Queues) : Prop := s.loop = .polling ∧ s.q = [] ∧ s.mEventFd = 0

theorem Inv.mQueue_subset_pushed (h : s.Inv) (hwait : s.Waiting) : s.mQueue ⊆ s.pushed := by
  obtain ⟨hloop, -, hfd⟩ := hwait
  have hlen : s.mQueue.length = s.pushed.length := by
    have hbalance := h.balance
    rw [hloop, hfd] at hbalance
    simpa [taken] using hbalance
  have hnodup : s.pushed.Nodup := (nodup_append.mp (h.callers.nodup_iff.mp h.nodup)).2.1
  have hperm : s.pushed.Perm s.mQueue := (subperm_of_subset hnodup h.queued).perm_of_length_le
    hlen.le
  exact hperm.symm.subset

theorem Inv.count_written (h : s.Inv) (hwait : s.Waiting) (hm : m ∈ s.accepted) :
    s.written.count m = 1 := by
  have hq : s.mQueue.count m = 0 := by
    refine count_eq_zero.mpr fun hmem => ?_
    have hpush := h.mQueue_subset_pushed hwait hmem
    exact (nodup_append.mp (h.callers.nodup_iff.mp h.nodup)).2.2 m hm m hpush rfl
  have hcount := h.count_all hm
  rwa [all, hwait.2.1, append_nil, count_append, hq, Nat.add_zero] at hcount

/-- The steps of the loop thread. -/
def Action.ofLoop : Action → Bool
  | .read | .swap | .sendQuery => true
  | .push _ _ | .write _ => false

def work (s : Queues) : Nat :=
  2 * s.q.length + 2 * s.mQueue.length + 2 * s.mEventFd + if s.loop = .polling then 0 else 1

/-- No call is between its push and its write, and none has written since the counter was read. -/
structure Calm (s : Queues) (accepted : List Message) : Prop where
  inv : s.Inv
  pushed : s.pushed = []
  swapping : s.loop ≠ .polling → s.mEventFd = 0
  accepted : s.accepted = accepted

theorem Calm.progress {accepted : List Message} (h : s.Calm accepted) :
    s.Waiting ∨ ∃ a s', (a.ofLoop = true ∧ s.settled a) ∧ step a s = some s' ∧
      s'.Calm accepted ∧ s'.work < s.work := by
  cases hloop : s.loop with
  | stopped => exact absurd hloop h.inv.running
  | swapping numQueries =>
    have hfd : s.mEventFd = 0 := h.swapping (by simp [hloop])
    have hq : s.q = [] := h.inv.empty (by simp [hloop])
    have hsettled : s.settled .swap := ⟨h.pushed, hfd⟩
    have hstep : step .swap s = some (s.swap numQueries) := by simp [step, hloop]
    have hinv := h.inv.swap hloop hsettled
    have hpolling : (s.swap numQueries).loop = .polling := by
      by_contra hne
      have hrun := hinv.running
      simp only [swap] at hne hrun
      split at hne
      · next hlt => exact hrun (if_pos hlt)
      · exact hne rfl
    refine .inr ⟨.swap, _, ⟨rfl, hsettled⟩, hstep,
      ⟨hinv, h.pushed, fun hne => absurd hpolling hne, h.accepted⟩, ?_⟩
    simp only [work, hpolling, hloop]
    simp [swap, hq]
  | polling =>
    cases hq : s.q with
    | cons m q =>
      refine .inr ⟨.sendQuery, _, ⟨rfl, trivial⟩, by simp only [step, hloop, hq],
        ⟨h.inv.sendQuery hloop hq, h.pushed, fun hne => absurd hloop hne, h.accepted⟩, ?_⟩
      simp [work, hq]
    | nil =>
      by_cases hfd : s.mEventFd = 0
      · exact .inl ⟨hloop, hq, hfd⟩
      have hpos : 0 < s.mEventFd := Nat.pos_of_ne_zero hfd
      refine .inr ⟨.read, _, ⟨rfl, trivial⟩, if_pos ⟨hloop, hq, hpos⟩,
        ⟨h.inv.read hloop hq, h.pushed, fun _ => rfl, h.accepted⟩, ?_⟩
      simp only [work]
      simp
      omega

/-- In every run whose swaps take only such messages, there is no synchronization error. -/
theorem queries_written_once {h : List Action} (hrun : Lts.Run step settled new h s) :
    s.loop ≠ .stopped ∧
    (∀ m ∈ s.accepted, (s.written ++ s.q ++ s.mQueue).count m = 1) ∧
    (s.Waiting → ∀ m ∈ s.accepted, s.written.count m = 1) ∧
    (s.loop = .polling → s.pushed = [] →
      ∃ as s', Lts.Run step (fun s a => a.ofLoop = true ∧ s.settled a) s as s' ∧
        s'.Waiting ∧ ∀ m ∈ s.accepted, s'.written.count m = 1) := by
  have hinv := run_inv hrun
  refine ⟨hinv.running, fun m hm => hinv.count_all hm,
    fun hwait m hm => hinv.count_written hwait hm, ?_⟩
  intro hloop hpush
  have hcalm : s.Calm s.accepted := ⟨hinv, hpush, fun hne => absurd hloop hne, rfl⟩
  have hstart : Lts.Run step (fun s a => a.ofLoop = true ∧ s.settled a) s [] s := .start
  obtain ⟨as, s', hrun', hcalm', hwait⟩ :=
    hstart.exists_quiet work (fun s hs => Calm.progress hs) hcalm
  refine ⟨as ++ [], s', hrun', hwait, fun m hm => ?_⟩
  exact hcalm'.inv.count_written hwait (hcalm'.accepted.symm ▸ hm)

/-- Two calls, the second of which begins when the loop has taken the first message. -/
def inTurn : List Action :=
  [.push 0 [1], .write ⟨0, compose 0 [1]⟩, .read, .swap, .push 1 [2], .sendQuery,
    .write ⟨1, compose 1 [2]⟩, .read, .swap, .sendQuery]

theorem queries_written_once_inTurn :
    ∃ s, Lts.Run step settled new inTurn.reverse s ∧ s.Waiting ∧ s.loop ≠ .stopped ∧
      s.accepted = [⟨1, [0, 3, 0, 1, 2]⟩, ⟨0, [0, 3, 0, 0, 1]⟩] ∧
      ∀ m ∈ s.accepted, s.written.count m = 1 := by
  obtain ⟨s, hrun, hwait, haccepted⟩ : ∃ s, Lts.Run step settled new inTurn.reverse s ∧
      (s.loop = .polling ∧ s.q = [] ∧ s.mEventFd = 0) ∧
      s.accepted = [⟨1, [0, 3, 0, 1, 2]⟩, ⟨0, [0, 3, 0, 0, 1]⟩] :=
    run_of_mem _ (by decide +kernel)
  obtain ⟨hrunning, -, hwritten, -⟩ := queries_written_once hrun
  exact ⟨s, hrun, hwait, hrunning, haccepted, hwritten hwait⟩

/-- The second call pushes before the loop takes the queue for the first, and writes to `mEventFd`
after that. -/
def overlapping : List Action :=
  [.push 0 [1], .write ⟨0, compose 0 [1]⟩, .push 1 [2], .read, .swap,
    .write ⟨1, compose 1 [2]⟩, .sendQuery, .sendQuery, .read, .swap]

/-- The addition of the second call wakes the loop, which finds the queue empty and stops. -/
theorem counter_ahead_of_queue :
    ∃ s, Lts.Run step (fun _ _ => True) new overlapping.reverse s ∧ s.loop = .stopped :=
  run_of_mem _ (by decide +kernel)

/-! ## The order of the messages -/

/-- The messages that a run has pushed, in the order of the pushes. -/
def pushes : List Action → List Message
  | [] => []
  | .push id query :: h => pushes h ++ [⟨(pushes h).length, compose id query⟩]
  | _ :: h => pushes h

/-- A swap takes one message at most. -/
def single (s : Queues) : Action → Prop
  | .swap => s.mQueue.length ≤ 1
  | _ => True

instance (s : Queues) : (a : Action) → Decidable (s.single a)
  | .swap => inferInstanceAs (Decidable (_ ≤ _))
  | .push _ _ | .write _ | .read | .sendQuery => isTrue trivial

/-- What was pushed is what was sent, what the loop has taken, and the queue from its back. -/
structure InOrder (h : List Action) (s : Queues) : Prop where
  pushes : pushes h = s.written ++ s.q ++ s.mQueue.reverse
  calls : s.calls = (Queues.pushes h).length
  empty : ∀ n, s.loop = .swapping n → s.q = []

theorem InOrder.step {h : List Action} (hinv : InOrder h s) (hsingle : s.single a)
    (hstep : Queues.step a s = some s') : InOrder (a :: h) s' := by
  obtain ⟨hpushes, hcalls, hempty⟩ := hinv
  cases a with
  | push id query =>
    obtain ⟨-, hs⟩ := ite_none_left_eq_some.mp hstep
    cases hs
    refine ⟨?_, ?_, hempty⟩
    · simp [Queues.pushes, Queues.push, hcalls, hpushes]
    · simp [Queues.pushes, Queues.push, hcalls]
  | write m =>
    obtain ⟨-, rfl⟩ := of_guard hstep
    unfold Queues.write
    split <;> exact ⟨hpushes, hcalls, hempty⟩
  | read =>
    obtain ⟨⟨-, hq, -⟩, rfl⟩ := of_guard hstep
    exact ⟨hpushes, hcalls, fun _ _ => hq⟩
  | swap =>
    simp only [Queues.step] at hstep
    split at hstep
    · rename_i n hloop
      cases hstep
      have hq := hempty n hloop
      -- a queue of one message at most is its own reverse
      have hle : s.mQueue.length ≤ 1 := hsingle
      have hrev : s.mQueue.reverse = s.mQueue := by
        match s.mQueue, hle with
        | [], _ | [_], _ => rfl
      refine ⟨?_, hcalls, fun m hm => ?_⟩
      · simpa [Queues.swap, Queues.pushes, hq, hrev] using hpushes
      · simp only [Queues.swap] at hm
        split at hm <;> cases hm
    · cases hstep
  | sendQuery =>
    simp only [Queues.step] at hstep
    split at hstep
    · rename_i m q hloop hq
      cases hstep
      refine ⟨by simpa [Queues.pushes, hq] using hpushes, hcalls, fun n hn => ?_⟩
      rw [hloop] at hn
      cases hn
    · cases hstep

/-- If every swap takes one message at most, the messages are sent in the order of the pushes. -/
theorem messages_in_order {h : List Action} (hrun : Lts.Run step single new h s) :
    s.written <+: pushes h := by
  have horder : InOrder h s := hrun.invariant ⟨rfl, rfl, fun _ hn => by cases hn⟩
    fun hinv hok hs => hinv.step hok hs
  rw [horder.pushes, append_assoc]
  exact prefix_append _ _

theorem messages_in_order_two : ∃ h s, Lts.Run step single new h s ∧ s.written.length = 2 ∧
    s.written <+: pushes h := by
  let call (k : Nat) : List Action :=
    [.push 1 [], .write ⟨k, compose 1 []⟩, .read, .swap, .sendQuery]
  exact ⟨_, run_of_mem_and (call 0 ++ call 1) (by decide +kernel) messages_in_order⟩

/-- Of two messages in one swap, the later one is sent first. -/
theorem messages_out_of_order : ∃ h s, Lts.Run step settled new h s ∧ ¬ s.written <+: pushes h := by
  exact ⟨_, run_of_mem [.push 1 [], .write ⟨0, compose 1 []⟩, .push 2 [],
    .write ⟨1, compose 2 []⟩, .read, .swap, .sendQuery] (by decide +kernel)⟩

end Queues

end Netd.DnsTlsSocket
