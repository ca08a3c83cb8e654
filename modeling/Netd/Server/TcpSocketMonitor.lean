import Netd.Lib.Lts

/-!
# TcpSocketMonitor: waking the polling thread

The polling thread of `server/TcpSocketMonitor.cpp` waits on `mCv`, with a timeout unless polling
is suspended. `resumePolling` and the destructor change the flags under `mLock` and call
`notify_all` after they have released it.

A critical section of `mLock` is one step. `waitForNextPoll` is two of them: the first reads
`mIsSuspended`, the second waits as the first has read.
-/

namespace Netd.TcpSocketMonitor

inductive PollingThread where
  /-- At the head of the loop, about to call `isRunning`. -/
  | isRunning
  | poll
  | waitForNextPoll
  /-- In `waitForNextPoll`, with what it has read, about to take the lock again. -/
  | toWait (isSuspended : Bool) (nextSleepDurationMs : Int)
  /-- Blocked in `mCv.wait`. -/
  | waiting
  /-- Blocked in `mCv.wait_for`. -/
  | sleeping (nextSleepDurationMs : Int)
  | finished
  deriving DecidableEq

structure State where
  mIsRunning : Bool
  mIsSuspended : Bool
  mNextSleepDurationMs : Int
  mPollingThread : PollingThread
  /-- The calls that have released the lock and are still to call `notify_all`. -/
  toNotify : Nat
  /-- How often `poll` has read the statistics of the sockets. -/
  polls : Nat

def kDefaultPollingInterval : Int := 30000

/-- The monitor as its constructor leaves it. -/
def init : State where
  mIsRunning := true
  mIsSuspended := true
  mNextSleepDurationMs := kDefaultPollingInterval
  mPollingThread := .isRunning
  toNotify := 0
  polls := 0

/-! ## Steps -/

/-- The next critical section of the polling thread. A blocked thread has none. -/
def State.runThread (s : State) : Option State :=
  match s.mPollingThread with
  | .isRunning =>
    some { s with mPollingThread := if s.mIsRunning then .poll else .finished }
  | .poll =>
    some { s with
      mPollingThread := .waitForNextPoll
      polls := if s.mIsSuspended then s.polls else s.polls + 1 }
  | .waitForNextPoll =>
    some { s with mPollingThread := .toWait s.mIsSuspended s.mNextSleepDurationMs }
  | .toWait isSuspended nextSleepDurationMs =>
    some { s with
      mPollingThread := if isSuspended then .waiting else .sleeping nextSleepDurationMs }
  | .waiting | .sleeping _ | .finished => none

def State.timeout (s : State) : Option State :=
  match s.mPollingThread with
  | .sleeping _ => some { s with mPollingThread := .isRunning }
  | _ => none

/-- The critical section of `resumePolling`. -/
def State.resumePolling (s : State) : State :=
  let wasSuspended := s.mIsSuspended
  { s with
    mIsSuspended := false
    toNotify := if wasSuspended then s.toNotify + 1 else s.toNotify }

def State.suspendPolling (s : State) : State := { s with mIsSuspended := true }

def State.setPollingInterval (s : State) (nextSleepDurationMs : Int) : State :=
  { s with mNextSleepDurationMs := nextSleepDurationMs }

/-- The critical section of the destructor, which is called once. -/
def State.destroy (s : State) : Option State :=
  if s.mIsRunning then
    some { s with mIsRunning := false, mIsSuspended := true, toNotify := s.toNotify + 1 }
  else none

/-- A thread that is blocked on `mCv` returns from `waitForNextPoll`. -/
def PollingThread.wake : PollingThread → PollingThread
  | .waiting | .sleeping _ => .isRunning
  | thread => thread

def State.notifyAll (s : State) : Option State :=
  match s.toNotify with
  | 0 => none
  | n + 1 => some { s with toNotify := n, mPollingThread := s.mPollingThread.wake }

inductive Action where
  | runThread
  | timeout
  | notifyAll
  | resumePolling
  | suspendPolling
  | setPollingInterval (nextSleepDurationMs : Int)
  | destroy
  deriving DecidableEq

def step : Action → State → Option State
  | .runThread, s => s.runThread
  | .timeout, s => s.timeout
  | .notifyAll, s => s.notifyAll
  | .resumePolling, s => some s.resumePolling
  | .suspendPolling, s => some s.suspendPolling
  | .setPollingInterval nextSleepDurationMs, s => some (s.setPollingInterval nextSleepDurationMs)
  | .destroy, s => s.destroy

/-- No new call is made: the thread goes on, time passes, and a pending notification is sent. -/
def Action.Own : Action → Prop
  | .runThread | .timeout | .notifyAll => True
  | _ => False

/-- The thread is blocked without a timeout although polling was resumed or the monitor is being
destroyed, and no one will wake it. -/
def State.Stuck (s : State) : Prop :=
  s.mPollingThread = .waiting ∧ (s.mIsSuspended = false ∨ s.mIsRunning = false) ∧ s.toNotify = 0

instance State.decidableStuck (s : State) : Decidable s.Stuck :=
  inferInstanceAs (Decidable (_ ∧ _ ∧ _))

/-! ## Notifications that find the thread -/

/-- The thread does not look at changes before it waits: it has read that polling is suspended, or
seen the monitor running before the destructor began. -/
def State.committed (s : State) : Bool :=
  match s.mPollingThread with
  | .poll | .waitForNextPoll => !s.mIsRunning
  | .toWait isSuspended _ => isSuspended
  | _ => false

/-- No notification is sent to a thread that is not waiting yet and is going to. -/
def InTime (s : State) (a : Action) : Prop := a = .notifyAll → s.committed = false

instance decidableInTime (s : State) (a : Action) : Decidable (InTime s a) :=
  inferInstanceAs (Decidable (_ → _))

/-- A thread that waits without a timeout, or is about to, has read the flags as they are, or a
notification is pending. -/
def Inv (s : State) : Prop :=
  match s.mPollingThread with
  | .poll | .waitForNextPoll => s.mIsRunning = true ∨ 0 < s.toNotify
  | .toWait true _ | .waiting =>
    (s.mIsSuspended = true ∧ s.mIsRunning = true) ∨ 0 < s.toNotify
  | .finished => s.mIsRunning = false
  | _ => True

theorem Inv.init : Inv init := trivial

variable {s s' : State}

theorem Inv.runThread (hs : Inv s) (hstep : s.runThread = some s') : Inv s' := by
  obtain ⟨running, suspended, duration, thread, toNotify, polls⟩ := s
  cases thread with
  | isRunning =>
    cases hstep
    cases running <;> simp [Inv]
  | poll =>
    cases hstep
    exact hs
  | waitForNextPoll =>
    cases hstep
    -- a suspended thread waits for what the other flag says
    cases suspended with
    | true => exact hs.imp_left fun hrunning => ⟨rfl, hrunning⟩
    | false => trivial
  | toWait isSuspended =>
    cases hstep
    cases isSuspended with
    | true => exact hs
    | false => trivial
  | waiting | sleeping | finished => cases hstep

theorem Inv.timeout (hstep : s.timeout = some s') : Inv s' := by
  obtain ⟨running, suspended, duration, thread, toNotify, polls⟩ := s
  cases thread <;> cases hstep
  trivial

open State

/-- What a notification in time is for: it wakes the thread, or the thread has not looked yet. -/
theorem Inv.notifyAll (hs : Inv s) (htime : s.committed = false) (hstep : s.notifyAll = some s') :
    Inv s' := by
  obtain ⟨running, suspended, duration, thread, _ | toNotify, polls⟩ := s
  · cases hstep
  cases hstep
  cases thread with
  | poll | waitForNextPoll => exact .inl (by simpa [committed] using htime)
  | toWait isSuspended =>
    cases htime
    trivial
  | isRunning | waiting | sleeping => trivial
  | finished => exact hs

theorem Inv.of_toNotify (hs : Inv s) (hthread : s'.mPollingThread = s.mPollingThread)
    (hnot : 0 < s'.toNotify) (hrunning : s.mIsRunning = false → s'.mIsRunning = false) :
    Inv s' := by
  unfold Inv at hs ⊢
  rw [hthread]
  split at hs
  · exact .inr hnot
  · exact .inr hnot
  · exact .inr hnot
  · exact .inr hnot
  · exact hrunning hs
  · trivial

/-- A call that is not going to notify does not resume polling. -/
theorem Inv.of_suspended (hs : Inv s) (hthread : s'.mPollingThread = s.mPollingThread)
    (hnot : s'.toNotify = s.toNotify) (hrunning : s'.mIsRunning = s.mIsRunning)
    (hsuspended : s.mIsSuspended = true → s'.mIsSuspended = true) : Inv s' := by
  unfold Inv at hs ⊢
  rw [hthread, hnot, hrunning]
  split at hs
  · exact hs
  · exact hs
  · exact hs.imp_left (And.imp_left hsuspended)
  · exact hs.imp_left (And.imp_left hsuspended)
  · exact hs
  · trivial

theorem Inv.resumePolling (hs : Inv s) : Inv s.resumePolling := by
  cases hsuspended : s.mIsSuspended with
  | true =>
    have hnot : 0 < s.resumePolling.toNotify := by simp [State.resumePolling, hsuspended]
    exact hs.of_toNotify rfl hnot id
  | false =>
    have hnot : s.resumePolling.toNotify = s.toNotify := by
      simp [State.resumePolling, hsuspended]
    refine hs.of_suspended rfl hnot rfl ?_
    intro h
    rw [hsuspended] at h
    cases h

theorem Inv.destroy (hs : Inv s) (hstep : s.destroy = some s') : Inv s' := by
  unfold State.destroy at hstep
  split at hstep
  · cases hstep
    exact hs.of_toNotify rfl (Nat.succ_pos _) fun _ => rfl
  · cases hstep

theorem Inv.step {a : Action} (hs : Inv s) (htime : InTime s a) (hstep : step a s = some s') :
    Inv s' := by
  cases a with
  | runThread => exact hs.runThread hstep
  | timeout => exact Inv.timeout hstep
  | notifyAll => exact hs.notifyAll (htime rfl) hstep
  | resumePolling =>
    cases hstep
    exact hs.resumePolling
  | suspendPolling =>
    cases hstep
    exact hs.of_suspended rfl rfl rfl fun _ => rfl
  | setPollingInterval =>
    cases hstep
    exact hs.of_suspended rfl rfl rfl id
  | destroy => exact hs.destroy hstep

theorem Inv.not_stuck (hs : Inv s) : ¬ s.Stuck := by
  rintro ⟨hthread, hflags, hnot⟩
  simp only [Inv, hthread] at hs
  rcases hs with ⟨hsuspended, hrunning⟩ | hpos
  · rcases hflags with h | h
    · rw [hsuspended] at h
      cases h
    · rw [hrunning] at h
      cases h
  · omega

/-! ## The thread goes on -/

/-- What follows when no new call is made. -/
def Settling (s : State) (a : Action) : Prop := a.Own ∧ InTime s a

/-- How far the thread is from the next poll, or from its end when the monitor has stopped. -/
def State.rank (s : State) : Nat :=
  match s.mPollingThread with
  | .poll => if s.mIsRunning then 1 else 6
  | .waitForNextPoll => 5
  | .toWait _ _ => 4
  | .waiting | .sleeping _ => 3
  | .isRunning => 2
  | .finished => 0

def State.distance (s : State) : Nat := s.rank + 7 * s.toNotify

theorem Inv.enabled (hs : Inv s) (hawake : s.mIsSuspended = false ∨ s.mIsRunning = false) :
    s.mPollingThread = .finished ∨ ∃ a s', Settling s a ∧ TcpSocketMonitor.step a s = some s' := by
  have hstuck := hs.not_stuck
  obtain ⟨running, suspended, duration, thread, toNotify, polls⟩ := s
  have hintime : ∀ {s : State} {a : Action}, a ≠ .notifyAll → InTime s a :=
    fun hne h => absurd h hne
  cases thread with
  | isRunning | poll | waitForNextPoll | toWait =>
    exact .inr ⟨.runThread, _, ⟨trivial, hintime (by simp)⟩, rfl⟩
  | sleeping => exact .inr ⟨.timeout, _, ⟨trivial, hintime (by simp)⟩, rfl⟩
  | waiting =>
    cases toNotify with
    | zero => exact absurd ⟨rfl, hawake, rfl⟩ hstuck
    | succ n => exact .inr ⟨.notifyAll, _, ⟨trivial, fun _ => rfl⟩, rfl⟩
  | finished => exact .inl rfl

/-- The flags stay as they are, and the thread polls or comes closer to what it is to do. -/
structure Advances (s s' : State) : Prop where
  running : s'.mIsRunning = s.mIsRunning
  suspended : s'.mIsSuspended = s.mIsSuspended
  polls : s.polls ≤ s'.polls
  closer : s'.distance < s.distance ∨
    s.mIsRunning = true ∧ (s.mIsSuspended = false → s.polls < s'.polls)

open Advances

theorem Advances.runThread (hstep : s.runThread = some s') : Advances s s' := by
  obtain ⟨running, suspended, duration, thread, toNotify, polls⟩ := s
  cases thread with
  | isRunning =>
    cases hstep
    have hcloser : ∀ b : Bool, distance ⟨b, suspended, duration,
        if b then .poll else .finished, toNotify, polls⟩ < 2 + 7 * toNotify := by
      intro b
      cases b <;> simp [distance, rank]
    exact ⟨rfl, rfl, Nat.le_refl _, .inl (hcloser running)⟩
  | poll =>
    cases hstep
    refine ⟨rfl, rfl, ?_, ?_⟩
    · cases suspended <;> simp
    · cases running with
      | true => exact .inr ⟨rfl, by rintro rfl; simp⟩
      | false => exact .inl (by simp [distance, rank])
  | waitForNextPoll =>
    cases hstep
    exact ⟨rfl, rfl, Nat.le_refl _, .inl (by simp [distance, rank])⟩
  | toWait isSuspended =>
    cases hstep
    refine ⟨rfl, rfl, Nat.le_refl _, .inl ?_⟩
    cases isSuspended <;> simp [distance, rank]
  | waiting | sleeping | finished => cases hstep

theorem Advances.timeout (hstep : s.timeout = some s') : Advances s s' := by
  obtain ⟨running, suspended, duration, thread, toNotify, polls⟩ := s
  cases thread <;> cases hstep
  exact ⟨rfl, rfl, Nat.le_refl _, .inl (by simp [distance, rank])⟩

theorem Advances.notifyAll (hstep : s.notifyAll = some s') : Advances s s' := by
  obtain ⟨running, suspended, duration, thread, _ | toNotify, polls⟩ := s
  · cases hstep
  cases hstep
  refine ⟨rfl, rfl, Nat.le_refl _, .inl ?_⟩
  cases thread <;> simp [distance, rank, PollingThread.wake] <;> omega

theorem Advances.step {a : Action} (hown : a.Own) (hstep : TcpSocketMonitor.step a s = some s') :
    Advances s s' := by
  cases a with
  | runThread => exact runThread hstep
  | timeout => exact timeout hstep
  | notifyAll => exact notifyAll hstep
  | resumePolling | suspendPolling | setPollingInterval | destroy => exact hown.elim

theorem Inv.finishes (hs : Inv s) (hstop : s.mIsRunning = false) :
    Lts.Inevitably TcpSocketMonitor.step Settling (fun t => t.mPollingThread = .finished) s := by
  refine Lts.Inevitably.of_measure (I := fun t => Inv t ∧ t.mIsRunning = false)
    distance ?_ ?_ ⟨hs, hstop⟩
  · rintro t ⟨ht, hstop⟩
    exact ht.enabled (.inr hstop)
  · rintro t a t' ⟨ht, hstop⟩ ⟨hown, htime⟩ hstep
    have hadv := Advances.step hown hstep
    refine .inr ⟨⟨ht.step htime hstep, hadv.running.trans hstop⟩, ?_⟩
    rcases hadv.closer with hcloser | ⟨hrunning, _⟩
    · exact hcloser
    · rw [hstop] at hrunning
      cases hrunning

theorem Inv.polls (hs : Inv s) (hrunning : s.mIsRunning = true)
    (hresumed : s.mIsSuspended = false) :
    Lts.Inevitably TcpSocketMonitor.step Settling (fun t => s.polls < t.polls) s := by
  refine Lts.Inevitably.of_measure
    (I := fun t => Inv t ∧ t.mIsRunning = true ∧ t.mIsSuspended = false ∧ s.polls ≤ t.polls)
    distance ?_ ?_ ⟨hs, hrunning, hresumed, Nat.le_refl _⟩
  · rintro t ⟨ht, hrunning, hresumed, -⟩
    rcases ht.enabled (.inl hresumed) with hfinished | henabled
    · have hstop : t.mIsRunning = false := by simpa only [Inv, hfinished] using ht
      rw [hrunning] at hstop
      cases hstop
    · exact .inr henabled
  · rintro t a t' ⟨ht, hrunning, hresumed, hpolls⟩ ⟨hown, htime⟩ hstep
    have hadv := Advances.step hown hstep
    rcases hadv.closer with hcloser | ⟨-, hpoll⟩
    · have hI := ht.step htime hstep
      exact .inr ⟨⟨hI, hadv.running.trans hrunning, hadv.suspended.trans hresumed,
        Nat.le_trans hpolls hadv.polls⟩, hcloser⟩
    · exact .inl (Nat.lt_of_le_of_lt hpolls (hpoll hresumed))

/-! ## Whole runs -/

/-- Where notifications are in time, the thread is never stuck. -/
theorem no_missed_wakeup {h : List Action} {s : State} (hrun : Lts.Run step InTime init h s) :
    ¬ s.Stuck ∧
      (s.mIsRunning = false →
        Lts.Inevitably step Settling (fun t => t.mPollingThread = .finished) s) ∧
      (s.mIsRunning = true → s.mIsSuspended = false →
        Lts.Inevitably step Settling (fun t => s.polls < t.polls) s) := by
  have hinv : Inv s := hrun.invariant (I := fun _ t => Inv t) Inv.init Inv.step
  exact ⟨hinv.not_stuck, hinv.finishes, hinv.polls⟩

/-- The thread waits, is resumed while it waits, and is destroyed while it sleeps. -/
def sampleActions : List Action :=
  [.runThread, .runThread, .runThread, .runThread, .resumePolling, .notifyAll, .runThread,
    .runThread, .runThread, .runThread, .destroy]

theorem no_missed_wakeup_sample :
    ∃ h s, Lts.Run step InTime init h s ∧ s.mPollingThread = .sleeping 30000 ∧
      s.mIsRunning = false ∧
      Lts.Inevitably step Settling (fun t => t.mPollingThread = .finished) s := by
  obtain ⟨s, hrun, hthread, hstop⟩ : ∃ s, Lts.Run step InTime init sampleActions.reverse s ∧
      s.mPollingThread = .sleeping 30000 ∧ s.mIsRunning = false :=
    Lts.run_of_mem _ (by decide +kernel)
  exact ⟨_, s, hrun, hthread, hstop, (no_missed_wakeup hrun).2.1 hstop⟩

/-- A call, and its notification, between the two critical sections of `waitForNextPoll`. -/
def lateWait (call : Action) : List Action :=
  [.runThread, .runThread, .runThread, call, .notifyAll, .runThread]

/-- Without that condition the thread can be left waiting, by a call that resumes polling and by the
destructor. -/
theorem lost_wakeup :
    (∃ h s, Lts.Run step (fun _ _ => True) init h s ∧ s.Stuck ∧ s.mIsSuspended = false) ∧
      ∃ h s, Lts.Run step (fun _ _ => True) init h s ∧ s.Stuck ∧ s.mIsRunning = false := by
  constructor
  · exact ⟨_, Lts.run_of_mem (lateWait .resumePolling) (by decide +kernel)⟩
  · exact ⟨_, Lts.run_of_mem (lateWait .destroy) (by decide +kernel)⟩

end Netd.TcpSocketMonitor
