import Netd.Resolv.DnsTlsQueryMap

/-!
# DnsTlsTransport

Manages at most one socket at a time, reopens it when it is closed, and reissues the pending
queries.

A step is what a thread does up to the next point where another thread can interfere. The position
of the thread that holds `mLock` is part of the state (`Holder`). A response takes no `mLock`: it
can arrive at every such point, also between two queries that `doConnect` sends.

What the socket and the factory return, and when responses and closures arrive, is part of the
action. `onClosed` has no step while the thread it has to join waits for `mLock`.
-/

namespace Netd

open Option List DnsTlsQueryMap Lts

open DnsTlsQueryMap (QueryFuture QueryPromise kMaxTries)

namespace DnsTlsTransport

/-- Where the thread that holds `mLock` is. -/
inductive Holder where
  /-- `mLock` is free. -/
  | free
  /-- In `doReconnect`, after `cleanup`. -/
  | cleaned
  /-- In `doConnect`, before the socket is created. -/
  | connecting
  /-- In `doConnect`, before `getAll`. -/
  | connected
  /-- Before `sendQuery` of the first of these queries, each with the number of its promise. -/
  | sending (q : QueryFuture) (qs : List QueryFuture)
  deriving DecidableEq

/-- The loop over the queries that are to be sent. -/
def Holder.sendAll : List QueryFuture → Holder
  | [] => free
  | q :: qs => sending q qs

/-- The queries that the holder of `mLock` is going to send. -/
def Holder.queue : Holder → List QueryFuture
  | sending q qs => q :: qs
  | _ => []

/-- `mReconnectThread`: there is none, or it waits for `mLock` in `doReconnect`, or it is
past that. -/
inductive ReconnectThread where
  | none
  | waiting
  | done
  deriving DecidableEq

end DnsTlsTransport

open DnsTlsTransport (Holder ReconnectThread)

/-- The members of the class, and what belongs to the threads that use it. -/
structure DnsTlsTransport where
  mQueries : DnsTlsQueryMap
  mReconnectThread : ReconnectThread
  mClosing : Bool
  /-- `mSocket` is not null. -/
  mSocket : Bool
  holder : Holder
  /-- The promises of the queries that a socket has taken, in order. -/
  sent : List Nat
  /-- The destructor has returned. -/
  destroyed : Bool

namespace DnsTlsTransport

def new : DnsTlsTransport := ⟨.new, .none, false, false, .free, [], false⟩

/-- The steps of the threads. -/
inductive Action where
  /-- `query`, up to `doConnect` or `sendQuery`. -/
  | query (query : List Byte)
  /-- `createDnsTlsSocket` returns. -/
  | connect (created : Bool)
  /-- `getAll` in `doConnect`. -/
  | getAll
  /-- `sendQuery`, with what the socket's `query` returns. -/
  | sendQuery (sent : Bool)
  | onResponse (response : List Byte)
  | onClosed
  /-- `doReconnect`, up to the end of `cleanup`. -/
  | doReconnect
  /-- The test in `doReconnect` whether there is a query left. -/
  | retry
  /-- The locked part of the destructor. -/
  | close
  /-- The rest of the destructor. -/
  | destroy

/-- `mLock` can be taken. -/
def lockFree (s : DnsTlsTransport) : Bool := !s.destroyed && decide (s.holder = .free)

def query (query : List Byte) (s : DnsTlsTransport) : DnsTlsTransport :=
  match s.mQueries.recordQuery query with
  | (none, m) => { s with mQueries := m }
  | (some record, m) =>
    { s with mQueries := m, holder := if s.mSocket then .sending record [] else .connecting }

def connect (created : Bool) (s : DnsTlsTransport) : DnsTlsTransport :=
  if created then { s with mSocket := true, holder := .connected }
  else { s with mSocket := false, mQueries := s.mQueries.clear, holder := .free }

def reissued (s : DnsTlsTransport) : List QueryFuture :=
  s.mQueries.pending.map fun p => ⟨p.query, p.result⟩

/-- Send `q`. The loop ends when the socket does not take it. -/
def sendQuery (q : QueryFuture) (qs : List QueryFuture) (sent : Bool) (s : DnsTlsTransport) :
    DnsTlsTransport :=
  if sent then
    { s with
      mQueries := s.mQueries.markTried q.query.newId
      holder := .sendAll qs
      sent := s.sent ++ [q.result] }
  else { s with holder := .free }

def doReconnect (s : DnsTlsTransport) : DnsTlsTransport :=
  if s.mClosing then { s with mReconnectThread := .done }
  else { s with mReconnectThread := .done, mQueries := s.mQueries.cleanup, holder := .cleaned }

def retry (s : DnsTlsTransport) : DnsTlsTransport :=
  if s.mQueries.isEmpty then { s with mSocket := false, holder := .free }
  else { s with holder := .connecting }

/-- The thread is started, unless the object is about to be destroyed. -/
def onClosed (s : DnsTlsTransport) : DnsTlsTransport :=
  if s.mClosing then s else { s with mReconnectThread := .waiting }

def step : Action → DnsTlsTransport → Option DnsTlsTransport
  | .query q, s => if s.lockFree && !s.mClosing then some (s.query q) else none
  | .connect created, s => if s.holder = .connecting then some (s.connect created) else none
  | .getAll, s =>
    if s.holder = .connected then some { s with holder := .sendAll s.reissued } else none
  | .sendQuery sent, s =>
    match s.holder with
    | .sending q qs => some (s.sendQuery q qs sent)
    | _ => none
  | .onResponse response, s =>
    if s.destroyed then none
    else some { s with mQueries := s.mQueries.onResponse response }
  | .onClosed, s =>
    -- The thread of the last closure is joined while `mLock` is held.
    if s.lockFree && (s.mClosing || s.mReconnectThread ≠ .waiting) then some s.onClosed
    else none
  | .doReconnect, s =>
    if s.lockFree && s.mReconnectThread = .waiting then some s.doReconnect else none
  | .retry, s => if s.holder = .cleaned then some s.retry else none
  | .close, s =>
    if s.lockFree && !s.mClosing then
      some { s with mQueries := s.mQueries.clear, mClosing := true }
    else none
  | .destroy, s =>
    if s.lockFree && s.mClosing && s.mReconnectThread ≠ .waiting then
      some { s with mReconnectThread := .none, mSocket := false, destroyed := true }
    else none

/-! ## The invariant -/

variable {s s' : DnsTlsTransport} {m m' : DnsTlsQueryMap} {sent : List Nat} {mSocket : Bool}
  {q : QueryFuture} {qs : List QueryFuture} {p : QueryPromise} {k : Holder} {a : Action}
  {response : List Byte} {h : List Action}

/-- The pending queries are counted: a query's tries are the times a socket has taken it. -/
structure Counted (m : DnsTlsQueryMap) (sent : List Nat) : Prop where
  wf : m.Wf
  tries : ∀ p ∈ m.pending, p.tries = sent.count p.result
  accepted : ∀ t ∈ sent, t < m.promises.made.length
  bound : ∀ t, sent.count t ≤ kMaxTries

/-- A query about to be sent: a socket can still take it, and no other pending query has its id. -/
structure Sendable (m : DnsTlsQueryMap) (sent : List Nat) (q : QueryFuture) : Prop where
  tries : sent.count q.result < kMaxTries
  made : m.promises.made[q.result]? = some q.query
  alone : ∀ p ∈ m.pending, p.query.newId = q.query.newId → p.result = q.result

/-- What is known at each position of the holder of `mLock`. -/
def Holds (m : DnsTlsQueryMap) (sent : List Nat) (mSocket : Bool) : Holder → Prop
  | .free => mSocket = false → m.pending = []
  | .cleaned => ∀ p ∈ m.pending, p.tries < kMaxTries
  | .connecting => ∀ p ∈ m.pending, p.tries < kMaxTries
  | .connected => mSocket = true ∧ ∀ p ∈ m.pending, p.tries < kMaxTries
  | .sending q qs =>
    mSocket = true ∧ ((q :: qs).map (·.result)).Nodup ∧ ∀ x ∈ q :: qs, Sendable m sent x

structure Inv (s : DnsTlsTransport) : Prop where
  counted : Counted s.mQueries s.sent
  holds : Holds s.mQueries s.sent s.mSocket s.holder
  closing : s.mClosing = true → s.holder = .free ∧ s.mQueries.pending = []
  destroyed : s.destroyed = true → s.mClosing = true

theorem inv_new : new.Inv where
  counted :=
    { wf := wf_new
      tries := fun _ h => absurd h not_mem_nil
      accepted := fun _ h => absurd h not_mem_nil
      bound := fun t => Nat.zero_le _ }
  holds := fun _ => rfl
  closing := by simp [new]
  destroyed := by simp [new]

/-! ## Dropping pending queries -/

/-- Some of the pending queries are dropped. -/
structure Drops (m m' : DnsTlsQueryMap) : Prop where
  wf : m'.Wf
  sub : ∀ p ∈ m'.pending, p ∈ m.pending
  made : m'.promises.made = m.promises.made

theorem drops_onResponse (h : m.Wf) (response : List Byte) : Drops m (m.onResponse response) :=
  ⟨h.onResponse response, fun _ => mem_pending_onResponse, made_onResponse⟩

theorem drops_cleanup (h : m.Wf) : Drops m m.cleanup := by
  refine ⟨h.cleanup, fun p hp => ?_, made_cleanup⟩
  rw [pending_cleanup] at hp
  exact (List.mem_filter.mp hp).1

theorem drops_clear (h : m.Wf) : Drops m m.clear :=
  ⟨h.clear, fun _ hp => absurd hp not_mem_nil, made_clear⟩

theorem Drops.pending_eq_nil (h : Drops m m') (hnil : m.pending = []) : m'.pending = [] := by
  refine eq_nil_iff_forall_not_mem.mpr fun p hp => ?_
  have hmem := h.sub p hp
  rw [hnil] at hmem
  cases hmem

theorem Counted.drop (h : Counted m sent) (hdrop : Drops m m') : Counted m' sent where
  wf := hdrop.wf
  tries p hp := h.tries p (hdrop.sub p hp)
  accepted t ht := by
    rw [hdrop.made]
    exact h.accepted t ht
  bound := h.bound

theorem Sendable.drop (h : Sendable m sent q) (hdrop : Drops m m') : Sendable m' sent q where
  tries := h.tries
  made := by
    rw [hdrop.made]
    exact h.made
  alone p hp := h.alone p (hdrop.sub p hp)

theorem Holds.drop (h : Holds m sent mSocket k) (hdrop : Drops m m') : Holds m' sent mSocket k := by
  cases k with
  | free => exact fun hsock => hdrop.pending_eq_nil (h hsock)
  | cleaned | connecting => exact fun p hp => h p (hdrop.sub p hp)
  | connected => exact ⟨h.1, fun p hp => h.2 p (hdrop.sub p hp)⟩
  | sending q qs => exact ⟨h.1, h.2.1, fun x hx => (h.2.2 x hx).drop hdrop⟩

/-! ## The steps -/

theorem lockFree_iff : s.lockFree = true ↔ s.destroyed = false ∧ s.holder = .free := by
  simp [lockFree]

theorem Inv.not_closing (h : s.Inv) (hhold : s.holder ≠ .free) : s.mClosing ≠ true := by
  intro hclosing
  exact hhold (h.closing hclosing).1

theorem Counted.count_eq_zero (h : Counted m sent) : sent.count m.promises.made.length = 0 :=
  List.count_eq_zero.mpr fun hmem => absurd (h.accepted _ hmem) (lt_irrefl _)

section Record

variable {id : QueryId} {bytes : List Byte}

theorem mem_pending_recordAt (hid : id ∉ m.mQueries.keys) (hp : p ∈ (m.recordAt id bytes).pending) :
    p = ⟨⟨id, bytes⟩, 0, m.promises.made.length⟩ ∨ p ∈ m.pending :=
  mem_cons.mp ((pending_recordAt hid).mem_iff.mp hp)

theorem Counted.recordAt (h : Counted m sent) (hlong : 2 ≤ bytes.length)
    (hid : id ∉ m.mQueries.keys) : Counted (m.recordAt id bytes) sent where
  wf := h.wf.recordAt hlong hid
  tries p hp := by
    rcases mem_pending_recordAt hid hp with rfl | hp
    · exact h.count_eq_zero.symm
    · exact h.tries p hp
  accepted t ht := by
    show t < (m.promises.made ++ [_]).length
    rw [length_append]
    exact Nat.lt_add_right _ (h.accepted t ht)
  bound := h.bound

theorem Counted.sendable_recordAt (h : Counted m sent) (hid : id ∉ m.mQueries.keys) :
    Sendable (m.recordAt id bytes) sent ⟨⟨id, bytes⟩, m.promises.made.length⟩ where
  tries := by
    rw [h.count_eq_zero]
    decide
  made := List.getElem?_concat_length
  alone p hp hnew := by
    rcases mem_pending_recordAt hid hp with rfl | hp
    · rfl
    have hfound := h.wf.find?_newId hp
    rw [show p.query.newId = id from hnew] at hfound
    exact absurd (OrdMap.mem_keys.mpr ⟨p, hfound⟩) hid

theorem Inv.query (h : s.Inv) (bytes : List Byte) (hfree : s.holder = .free)
    (hclosing : s.mClosing = false) : (s.query bytes).Inv := by
  have hidle : s.mSocket = false → s.mQueries.pending = [] := by
    have hholds := h.holds
    rwa [hfree] at hholds
  unfold DnsTlsTransport.query
  rcases recordQuery_cases bytes s.mQueries with ⟨id, hlong, hid, heq⟩ | ⟨-, heq⟩
  · rw [heq]
    refine ⟨h.counted.recordAt hlong hid, ?_, ?_, h.destroyed⟩
    · cases hsock : s.mSocket with
      | true =>
        refine ⟨rfl, nodup_singleton _, fun x hx => ?_⟩
        rw [mem_singleton.mp hx]
        exact h.counted.sendable_recordAt hid
      | false =>
        -- There was no pending query, so only the new one is there.
        intro p hp
        rcases mem_pending_recordAt hid hp with rfl | hp
        · exact (show 0 < kMaxTries by decide)
        · rw [hidle hsock] at hp
          cases hp
    · intro hcl
      rw [hclosing] at hcl
      cases hcl
  · rw [heq]
    exact h

end Record

section Send

theorem Counted.send (h : Counted m sent) (hq : Sendable m sent q) :
    Counted (m.markTried q.query.newId) (sent ++ [q.result]) where
  wf := h.wf.markTried _
  tries p hp := by
    rcases h.wf.mem_markTried hp with ⟨hp, hne⟩ | ⟨x, hx, hid, rfl⟩
    · have hres : q.result ≠ p.result := by
        intro heq
        have hown := h.wf.owner p hp
        rw [← heq, hq.made] at hown
        exact hne (congrArg (·.newId) (Option.some.inj hown)).symm
      rw [count_append, count_singleton, h.tries p hp]
      simp [hres]
    · have hres : x.result = q.result := hq.alone x hx hid
      rw [count_append, ← hres, count_singleton_self, ← h.tries x hx]
  accepted t ht := by
    rw [promises_markTried]
    rcases mem_append.mp ht with ht | ht
    · exact h.accepted t ht
    · rw [mem_singleton.mp ht]
      exact (List.getElem?_eq_some_iff.mp hq.made).1
  bound t := by
    have hbound := h.bound t
    have htry := hq.tries
    rw [count_append, count_singleton]
    split
    · rename_i heq
      rw [← beq_iff_eq.mp heq]
      omega
    · omega

theorem Sendable.send {x : QueryFuture} (hx : Sendable m sent x) (hwf : m.Wf)
    (hne : q.result ≠ x.result) : Sendable (m.markTried q.query.newId) (sent ++ [q.result]) x where
  tries := by
    simpa [hne] using hx.tries
  made := by
    rw [promises_markTried]
    exact hx.made
  alone p hp hnew := by
    rcases hwf.mem_markTried hp with ⟨hp, -⟩ | ⟨y, hy, -, rfl⟩
    · exact hx.alone p hp hnew
    · exact hx.alone y hy hnew

theorem Inv.sendQuery (h : s.Inv) (sent : Bool) (hhold : s.holder = .sending q qs) :
    (s.sendQuery q qs sent).Inv := by
  have hholds := h.holds
  rw [hhold] at hholds
  obtain ⟨hsock, hnodup, hsend⟩ := hholds
  have hclosing := h.not_closing (by simp [hhold])
  unfold DnsTlsTransport.sendQuery
  split
  · have hcounted := h.counted.send (hsend q mem_cons_self)
    refine ⟨hcounted, ?_, fun hcl => absurd hcl hclosing, h.destroyed⟩
    cases qs with
    | nil =>
      intro hnone
      rw [show s.mSocket = false from hnone] at hsock
      cases hsock
    | cons y qs =>
      obtain ⟨hq, hqs⟩ := nodup_cons.mp hnodup
      refine ⟨hsock, hqs, fun x hx => ?_⟩
      have hne : q.result ≠ x.result := fun heq => hq (mem_map.mpr ⟨x, hx, heq.symm⟩)
      exact (hsend x (mem_cons_of_mem _ hx)).send h.counted.wf hne
  · refine ⟨h.counted, ?_, fun hcl => absurd hcl hclosing, h.destroyed⟩
    intro hnone
    rw [show s.mSocket = false from hnone] at hsock
    cases hsock

end Send

section Connect

theorem Inv.connect (h : s.Inv) (created : Bool) (hhold : s.holder = .connecting) :
    (s.connect created).Inv := by
  have hholds := h.holds
  rw [hhold] at hholds
  have hclosing := h.not_closing (by simp [hhold])
  unfold DnsTlsTransport.connect
  split
  · exact ⟨h.counted, ⟨rfl, hholds⟩, fun hcl => absurd hcl hclosing, h.destroyed⟩
  · exact ⟨h.counted.drop (drops_clear h.counted.wf), fun _ => rfl,
      fun hcl => absurd hcl hclosing, h.destroyed⟩

theorem Inv.getAll (h : s.Inv) (hhold : s.holder = .connected) :
    Inv { s with holder := .sendAll s.reissued } := by
  have hholds := h.holds
  rw [hhold] at hholds
  obtain ⟨hsock, htry⟩ := hholds
  have hclosing := h.not_closing (by simp [hhold])
  have hnodup : (s.reissued.map (·.result)).Nodup := by
    have hresults : s.reissued.map (·.result) = s.mQueries.pending.map (·.result) := by
      simp [reissued]
    rw [hresults]
    exact (nodup_append.mp h.counted.wf.balanced.nodup).1
  have hsend : ∀ x ∈ s.reissued, Sendable s.mQueries s.sent x := by
    intro x hx
    obtain ⟨p, hp, rfl⟩ := mem_map.mp hx
    refine ⟨?_, h.counted.wf.owner p hp, fun y hy hnew => ?_⟩
    · show s.sent.count p.result < kMaxTries
      rw [← h.counted.tries p hp]
      exact htry p hp
    · have hfound := h.counted.wf.find?_newId hy
      rw [show y.query.newId = p.query.newId from hnew, h.counted.wf.find?_newId hp] at hfound
      rw [Option.some.inj hfound]
  refine ⟨h.counted, ?_, fun hcl => absurd hcl hclosing, h.destroyed⟩
  cases hqueue : s.reissued with
  | nil =>
    intro hnone
    rw [show s.mSocket = false from hnone] at hsock
    cases hsock
  | cons q qs =>
    rw [hqueue] at hnodup hsend
    exact ⟨hsock, hnodup, hsend⟩

theorem Inv.doReconnect (h : s.Inv) : s.doReconnect.Inv := by
  unfold DnsTlsTransport.doReconnect
  split
  · exact ⟨h.counted, h.holds, h.closing, h.destroyed⟩
  rename_i hclosing
  refine ⟨h.counted.drop (drops_cleanup h.counted.wf), ?_, fun hcl =>
    absurd hcl hclosing, h.destroyed⟩
  intro p hp
  rw [pending_cleanup] at hp
  have htried := (List.mem_filter.mp hp).2
  simpa [triedOut] using htried

theorem Inv.retry (h : s.Inv) (hhold : s.holder = .cleaned) : s.retry.Inv := by
  have hholds := h.holds
  rw [hhold] at hholds
  have hclosing := h.not_closing (by simp [hhold])
  unfold DnsTlsTransport.retry
  split
  · rename_i hempty
    have hnone : s.mQueries.pending = [] := by
      rw [pending, isEmpty_iff.mp hempty, map_nil]
    exact ⟨h.counted, fun _ => hnone, fun hcl => absurd hcl hclosing, h.destroyed⟩
  · exact ⟨h.counted, hholds, fun hcl => absurd hcl hclosing, h.destroyed⟩

end Connect

theorem Inv.onResponse (h : s.Inv) (response : List Byte) :
    Inv { s with mQueries := s.mQueries.onResponse response } := by
  have hdrop := drops_onResponse h.counted.wf response
  exact ⟨h.counted.drop hdrop, h.holds.drop hdrop,
    fun hcl => ⟨(h.closing hcl).1, hdrop.pending_eq_nil (h.closing hcl).2⟩, h.destroyed⟩

theorem Inv.onClosed (h : s.Inv) : s.onClosed.Inv := by
  unfold DnsTlsTransport.onClosed
  split
  · exact h
  · exact ⟨h.counted, h.holds, h.closing, h.destroyed⟩

theorem Inv.close (h : s.Inv) (hfree : s.holder = .free) :
    Inv { s with mQueries := s.mQueries.clear, mClosing := true } := by
  refine ⟨h.counted.drop (drops_clear h.counted.wf), ?_, fun _ => ⟨hfree, rfl⟩, fun _ => rfl⟩
  rw [hfree]
  exact fun _ => rfl

theorem Inv.destroy (h : s.Inv) (hclosing : s.mClosing = true) :
    Inv { s with mReconnectThread := .none, mSocket := false, destroyed := true } := by
  obtain ⟨hfree, hnil⟩ := h.closing hclosing
  refine ⟨h.counted, ?_, h.closing, fun _ => hclosing⟩
  rw [hfree]
  exact fun _ => hnil

theorem Inv.step (h : s.Inv) (hstep : DnsTlsTransport.step a s = some s') : s'.Inv := by
  cases a with
  | query query =>
    obtain ⟨hguard, rfl⟩ := of_guard hstep
    simp only [Bool.and_eq_true, lockFree_iff, Bool.not_eq_true'] at hguard
    exact h.query query hguard.1.2 hguard.2
  | connect created =>
    obtain ⟨hguard, rfl⟩ := of_guard hstep
    exact h.connect created hguard
  | getAll =>
    obtain ⟨hguard, rfl⟩ := of_guard hstep
    exact h.getAll hguard
  | sendQuery sent =>
    simp only [DnsTlsTransport.step] at hstep
    split at hstep
    · next q qs hhold => exact Option.some.inj hstep ▸ h.sendQuery sent hhold
    · cases hstep
  | onResponse response =>
    simp only [DnsTlsTransport.step] at hstep
    split at hstep
    · cases hstep
    · exact Option.some.inj hstep ▸ h.onResponse response
  | onClosed =>
    obtain ⟨-, rfl⟩ := of_guard hstep
    exact h.onClosed
  | doReconnect =>
    obtain ⟨-, rfl⟩ := of_guard hstep
    exact h.doReconnect
  | retry =>
    obtain ⟨hguard, rfl⟩ := of_guard hstep
    exact h.retry hguard
  | close =>
    obtain ⟨hguard, rfl⟩ := of_guard hstep
    simp only [Bool.and_eq_true, lockFree_iff] at hguard
    exact h.close hguard.1.2
  | destroy =>
    obtain ⟨hguard, rfl⟩ := of_guard hstep
    simp only [Bool.and_eq_true] at hguard
    exact h.destroy hguard.1.2

/-! ## No query is stranded -/

/-- The runs, with every interleaving and every outcome. -/
abbrev Run := Lts.Run step (fun _ _ => True) new

theorem run_inv {ok : DnsTlsTransport → Action → Prop} (hrun : Lts.Run step ok new h s) : s.Inv :=
  Lts.Run.invariant (I := fun _ s => s.Inv) inv_new (fun hinv _ hstep => hinv.step hstep) hrun

/-- When `mLock` is free and there is no socket, no query is pending. -/
theorem transport_strands_no_query {h : List Action} (hrun : Run h s) :
    (s.holder = .free → s.mSocket = false → s.mQueries.pending = []) ∧
    (∀ t, s.sent.count t ≤ 3) ∧
    (∀ t < s.mQueries.promises.made.length,
      (t ∈ s.mQueries.pending.map (·.result) ∧ s.mQueries.promises.fulfilled.count t = 0) ∨
      (t ∉ s.mQueries.pending.map (·.result) ∧ s.mQueries.promises.fulfilled.count t = 1)) ∧
    (s.destroyed = true → ∀ t < s.mQueries.promises.made.length,
      s.mQueries.promises.fulfilled.count t = 1) := by
  have hinv := run_inv hrun
  have honce := fun t => hinv.counted.wf.balanced.inHand_or_once (t := t)
  refine ⟨?_, hinv.counted.bound, honce, ?_⟩
  · intro hfree
    have hholds := hinv.holds
    rwa [hfree] at hholds
  · intro hdestroyed t ht
    have hnil := (hinv.closing (hinv.destroyed hdestroyed)).2
    rcases honce t ht with ⟨hpending, -⟩ | ⟨-, hcount⟩
    · rw [hnil] at hpending
      cases hpending
    · exact hcount

/-- The first socket is closed after two queries, the second answers one, and the third cannot be
created. -/
def closures : List Action :=
  [.query [1, 2, 3], .connect true, .getAll, .sendQuery true, .query [1, 2, 4], .sendQuery true,
    .onClosed, .doReconnect, .retry, .connect true, .getAll, .sendQuery true, .sendQuery true,
    .onResponse [0, 0, 9], .onClosed, .doReconnect, .retry, .connect false, .close, .destroy]

theorem transport_strands_no_query_closures :
    ∃ s, Run closures.reverse s ∧ s.destroyed = true ∧ s.sent = [0, 1, 0, 1] ∧
      s.mQueries.promises.made.length = 2 ∧ (∀ t, s.sent.count t ≤ 3) ∧
      ∀ t < 2, s.mQueries.promises.fulfilled.count t = 1 := by
  obtain ⟨s, hrun, hdestroyed, hsent, hmade⟩ : ∃ s, Run closures.reverse s ∧
      s.destroyed = true ∧ s.sent = [0, 1, 0, 1] ∧ s.mQueries.promises.made.length = 2 :=
    run_of_mem _ (by decide +kernel)
  obtain ⟨-, hbound, -, hfulfilled⟩ := transport_strands_no_query hrun
  exact ⟨s, hrun, hdestroyed, hsent, hmade, hbound, hmade ▸ hfulfilled hdestroyed⟩

/-! ## The bytes of a query are read in time -/

/-- The query whose bytes an action reads for a socket. -/
def reads : Action → DnsTlsTransport → Option QueryFuture
  | .sendQuery _, s => s.holder.queue.head?
  | _, _ => none

def answeredId : List Byte → Option QueryId
  | hi :: lo :: _ => some (responseId hi lo)
  | _ => none

/-- A response is not for a query that the holder of `mLock` has still to send. -/
def answersSent (s : DnsTlsTransport) : Action → Prop
  | .onResponse response =>
    ∀ q ∈ s.holder.queue, answeredId response ≠ some q.query.newId
  | _ => True

instance (s : DnsTlsTransport) : (a : Action) → Decidable (s.answersSent a)
  | .onResponse response =>
    inferInstanceAs (Decidable (∀ q ∈ s.holder.queue, answeredId response ≠ some q.query.newId))
  | .query _ | .connect _ | .getAll | .sendQuery _ | .onClosed | .doReconnect | .retry | .close
  | .destroy => isTrue trivial

/-- A query that is to be sent is still pending. -/
def Queued (s : DnsTlsTransport) : Prop :=
  ∀ q ∈ s.holder.queue, ∃ p ∈ s.mQueries.pending, p.query = q.query ∧ p.result = q.result

theorem mem_onResponse (hwf : m.Wf) (hp : p ∈ m.pending)
    (hne : answeredId response ≠ some p.query.newId) : p ∈ (m.onResponse response).pending := by
  rcases onResponse_cases response m with heq | ⟨hi, lo, rest, x, rfl, -, heq⟩
  · rwa [heq]
  rw [heq]
  obtain ⟨id, hmem⟩ := mem_pending.mp hp
  have hid : p.query.newId = id := hwf.filed _ hmem
  refine mem_pending.mpr ⟨id, OrdMap.mem_erase.mpr ⟨hmem, fun heq' => ?_⟩⟩
  exact hne (by rw [hid]; exact congrArg some heq'.symm)

theorem queue_sendAll (l : List QueryFuture) : (Holder.sendAll l).queue = l := by
  cases l <;> rfl

theorem queued_of_queue_nil (h : s.holder.queue = []) : s.Queued := by
  intro q hq
  rw [h] at hq
  cases hq

theorem Queued.query (bytes : List Byte) (hfree : s.holder = .free) : (s.query bytes).Queued := by
  unfold DnsTlsTransport.query
  rcases recordQuery_cases bytes s.mQueries with ⟨id, -, hid, heq⟩ | ⟨-, heq⟩
  · rw [heq]
    cases s.mSocket with
    | true =>
      intro q hq
      rw [mem_singleton.mp hq]
      exact ⟨_, (pending_recordAt hid).mem_iff.mpr mem_cons_self, rfl, rfl⟩
    | false => exact queued_of_queue_nil rfl
  · rw [heq]
    exact queued_of_queue_nil (by rw [hfree]; rfl)

theorem Queued.sendQuery (h : s.Queued) (sent : Bool) (hhold : s.holder = .sending q qs) :
    (s.sendQuery q qs sent).Queued := by
  unfold DnsTlsTransport.sendQuery
  split
  · intro x hx
    have hqs : x ∈ qs := by rwa [show (Holder.sendAll qs).queue = qs from queue_sendAll qs] at hx
    obtain ⟨p, hp, hquery, hres⟩ := h x (by rw [hhold]; exact mem_cons_of_mem _ hqs)
    obtain ⟨y, hy, hyquery, hyresult⟩ := exists_markTried q.query.newId hp
    exact ⟨y, hy, hyquery.trans hquery, hyresult.trans hres⟩
  · exact queued_of_queue_nil rfl

theorem Queued.getAll : Queued { s with holder := .sendAll s.reissued } := by
  intro x hx
  rw [show (Holder.sendAll s.reissued).queue = s.reissued from queue_sendAll _] at hx
  obtain ⟨p, hp, rfl⟩ := mem_map.mp hx
  exact ⟨p, hp, rfl, rfl⟩

theorem Queued.onResponse (h : s.Queued) (hwf : s.mQueries.Wf)
    (hok : s.answersSent (.onResponse response)) :
    Queued { s with mQueries := s.mQueries.onResponse response } := by
  intro q hq
  obtain ⟨p, hp, hquery, hres⟩ := h q hq
  have hne : answeredId response ≠ some p.query.newId := by
    rw [hquery]
    exact hok q hq
  exact ⟨p, mem_onResponse hwf hp hne, hquery, hres⟩

theorem Queued.step (h : s.Queued) (hinv : s.Inv) (hok : s.answersSent a)
    (hstep : DnsTlsTransport.step a s = some s') : s'.Queued := by
  cases a with
  | query bytes =>
    obtain ⟨hguard, rfl⟩ := of_guard hstep
    simp only [Bool.and_eq_true, lockFree_iff] at hguard
    exact Queued.query bytes hguard.1.2
  | connect created =>
    obtain ⟨-, rfl⟩ := of_guard hstep
    cases created with
    | true | false => exact queued_of_queue_nil rfl
  | getAll =>
    obtain ⟨-, rfl⟩ := of_guard hstep
    exact Queued.getAll
  | sendQuery sent =>
    simp only [DnsTlsTransport.step] at hstep
    split at hstep
    · next q qs hhold => exact Option.some.inj hstep ▸ h.sendQuery sent hhold
    · cases hstep
  | onResponse response =>
    simp only [DnsTlsTransport.step] at hstep
    split at hstep
    · cases hstep
    · exact Option.some.inj hstep ▸ h.onResponse hinv.counted.wf hok
  | onClosed =>
    obtain ⟨-, rfl⟩ := of_guard hstep
    rw [DnsTlsTransport.onClosed]
    split
    · exact h
    · exact h
  | doReconnect =>
    obtain ⟨-, rfl⟩ := of_guard hstep
    rw [DnsTlsTransport.doReconnect]
    split
    · exact h
    · exact queued_of_queue_nil rfl
  | retry =>
    obtain ⟨-, rfl⟩ := of_guard hstep
    rw [DnsTlsTransport.retry]
    split
    · exact queued_of_queue_nil rfl
    · exact queued_of_queue_nil rfl
  | close =>
    obtain ⟨hguard, rfl⟩ := of_guard hstep
    simp only [Bool.and_eq_true, lockFree_iff] at hguard
    exact queued_of_queue_nil (by rw [hguard.1.2]; rfl)
  | destroy =>
    obtain ⟨-, rfl⟩ := of_guard hstep
    exact h

theorem run_queued (hrun : Lts.Run step answersSent new h s) : s.Queued := by
  have hboth : s.Inv ∧ s.Queued := by
    refine Lts.Run.invariant (I := fun _ s => s.Inv ∧ s.Queued) ?_ ?_ hrun
    · exact ⟨inv_new, queued_of_queue_nil rfl⟩
    · intro h s a s' hs hok hstep
      exact ⟨hs.1.step hstep, hs.2.step hs.1 hok hstep⟩
  exact hboth.2

/-- In every run without responses to queries still to be sent, the bytes of a query are read for a
socket only while it is pending. -/
theorem reads_while_unfulfilled {h : List Action} (hrun : Lts.Run step answersSent new h s)
    (a : Action) (q : QueryFuture) (hreads : reads a s = some q) :
    (∃ p ∈ s.mQueries.pending, p.query = q.query ∧ p.result = q.result) ∧
      q.result ∉ s.mQueries.promises.fulfilled := by
  cases a with
  | sendQuery sent =>
    obtain ⟨p, hp, hquery, hres⟩ := run_queued hrun q (mem_of_head? hreads)
    refine ⟨⟨p, hp, hquery, hres⟩, ?_⟩
    rw [← hres]
    exact (run_inv hrun).counted.wf.balanced.not_mem_fulfilled (mem_map_of_mem hp)
  | _ => cases hreads

/-- Two queries are reissued on a second socket, and a response arrives when the first
one has been sent. -/
def reissuing (response : List Byte) : List Action :=
  [.query [1, 2, 3], .connect true, .getAll, .sendQuery true, .query [1, 2, 4], .sendQuery true,
    .onClosed, .doReconnect, .retry, .connect true, .getAll, .sendQuery true,
    .onResponse response]

theorem reads_while_unfulfilled_reissuing :
    ∃ s, Lts.Run step answersSent new (reissuing [0, 0, 9]).reverse s ∧
      reads (.sendQuery true) s = some ⟨⟨1, [1, 2, 4]⟩, 1⟩ ∧
      s.mQueries.promises.fulfilled = [0] ∧ 1 ∉ s.mQueries.promises.fulfilled := by
  obtain ⟨s, hrun, hreads, hfulfilled⟩ : ∃ s,
      Lts.Run step answersSent new (reissuing [0, 0, 9]).reverse s ∧
      reads (.sendQuery true) s = some ⟨⟨1, [1, 2, 4]⟩, 1⟩ ∧
      s.mQueries.promises.fulfilled = [0] := run_of_mem _ (by decide +kernel)
  exact ⟨s, hrun, hreads, hfulfilled, (reads_while_unfulfilled hrun _ _ hreads).2⟩

/-- The server guesses the id of the second query and answers it before it is sent. `doConnect` then
reads its bytes. -/
theorem guessed_response_read_after_fulfilment : ∃ s, Run (reissuing [0, 1, 9]).reverse s ∧
      reads (.sendQuery true) s = some ⟨⟨1, [1, 2, 4]⟩, 1⟩ ∧
      (step (.sendQuery true) s).isSome = true ∧ 1 ∈ s.mQueries.promises.fulfilled :=
  run_of_mem _ (by decide +kernel)

end DnsTlsTransport

end Netd
