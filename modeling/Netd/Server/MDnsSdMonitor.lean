import Mathlib.Algebra.Order.Group.Int
import Netd.Lib.Lts
import Netd.Server.MDnsSdListener

/-!
# The arrays of the mDNS monitor

`mLiveCount` is the number of elements that are ready, and `rescan` writes inside of the arrays, as
long as `freeServiceRef` is called for elements that are ready only. A command whose
operation cannot be started makes the count one too low, and so does a second stop of an element
that is marked already.
-/

namespace Netd.MDnsSd

open List State Function Element Lts

variable {s s' : State} {id : Int} {out : Outside}

/-! ## What the steps do to the list -/

/-- The elements with the id, if any, begin with `cur`. -/
structure Found (id : Int) (es l₁ : List Element) (cur : Element) (l₂ : List Element) : Prop where
  eq : es = l₁ ++ cur :: l₂
  mId : cur.mId = id
  before : ∀ e ∈ l₁, e.mId ≠ id

variable {es es' : List Element} {block i j : Nat} {cur : Element} {sockFD : DNSServiceRef → Int}
  {op : Operation} {l1 l2 : List Element} {result : Option Nat}

theorem found_of_find? (h : (es.find? fun e => e.mId = id) = some cur) :
    ∃ l1 l2, Found id es l1 cur l2 := by
  obtain ⟨hid, l1, l2, heq, hbefore⟩ := List.find?_eq_some_iff_append.mp h
  refine ⟨l1, l2, heq, by simpa using hid, ?_⟩
  intro e he
  simpa using hbefore e he

theorem Found.mem (h : Found id es l1 cur l2) : cur ∈ es := by
  rw [h.eq]
  simp

theorem markReady_eq (h : Found id es l1 cur l2) :
    markReady id es = l1 ++ { cur with mReady := .live } :: l2 := by
  obtain ⟨rfl, hid, hbefore⟩ := h
  induction l1 with
  | nil => simp [markReady, hid]
  | cons e l1 ih =>
    have hne := hbefore e mem_cons_self
    have hrest := ih fun x hx => hbefore x (mem_cons_of_mem _ hx)
    simp [markReady, hne, hrest]

theorem freeElement_eq (h : Found id es l1 cur l2) : freeElement id es =
      l1 ++ if cur.mReady = .live then { cur with mReady := .removing, mRef := none } :: l2
        else l2 := by
  obtain ⟨rfl, hid, hbefore⟩ := h
  induction l1 with
  | nil => simp [freeElement, hid]
  | cons e l1 ih =>
    have hne := hbefore e mem_cons_self
    have hrest := ih fun x hx => hbefore x (mem_cons_of_mem _ hx)
    simp [freeElement, hne, hrest]

/-- What `freeServiceRef` makes of a state. -/
inductive Freed (id : Int) (s : State) : State → Prop where
  | unknown (hnone : ∀ e ∈ s.mHead, e.mId ≠ id) : Freed id s s
  | marked {l₁ l₂ : List Element} {cur : Element} (hfound : Found id s.mHead l₁ cur l₂)
      (hready : cur.mReady = .live) : Freed id s
        { s with
          mHead := l₁ ++ { cur with mReady := .removing, mRef := none } :: l₂
          mLiveCount := s.mLiveCount - 1
          mCtrlSocketPair := s.mCtrlSocketPair + 1 }
  | deleted {l₁ l₂ : List Element} {cur : Element} (hfound : Found id s.mHead l₁ cur l₂)
      (hready : cur.mReady ≠ .live) : Freed id s
        { s with mHead := l₁ ++ l₂, mLiveCount := s.mLiveCount - 1 }

theorem freed (id : Int) (s : State) : Freed id s (s.freeServiceRef id) := by
  unfold freeServiceRef
  split
  · rename_i cur hfind
    obtain ⟨l1, l2, hfound⟩ := found_of_find? hfind
    rw [freeElement_eq hfound]
    by_cases hready : cur.mReady = .live
    · rw [if_pos hready, if_pos hready]
      exact .marked hfound hready
    · rw [if_neg hready, if_neg hready]
      exact .deleted hfound hready
  · next hfind => exact .unknown (by simpa using hfind)

/-- What the first step of a command makes of a state. -/
inductive Begun (s : State) : State → Prop where
  | sent (code : ResponseCode) (text : String) : Begun s (s.sendMsg code text)
  | allocating (op : Operation) {id : Int} (hnew : ∀ e ∈ s.mHead, e.mId ≠ id) :
      Begun s { s with handler := .allocating op id }
  | deallocating (str : String) (id : Int) (block : Nat) :
      Begun s { s with handler := .deallocating str id block }

theorem begun_start (op : Operation) (id : Int) (s : State) : Begun s (s.start op id) := by
  unfold start
  split
  · exact .sent _ _
  rename_i hnone
  refine .allocating op ?_
  simpa [lookupServiceRef] using hnone

theorem begun_stop (args : List String) (str : String) (s : State) :
    Begun s (s.stop out args str) := by
  unfold stop
  split
  · dsimp only
    split
    · exact .sent _ _
    · exact .deallocating _ _ _
  · exact .sent _ _

theorem begun_startService (running : Bool) (s : State) : Begun s (s.startService running) := by
  unfold startService
  split
  · exact .sent _ _
  · exact .sent _ _

theorem begun_stopService (s : State) : Begun s s.stopService := by
  unfold stopService
  split
  · exact .sent _ _
  · exact .sent _ _

theorem begun_ite {p : Prop} [Decidable p] {t t' : State} (h : Begun s t) (h' : Begun s t') :
    Begun s (if p then t else t') := by
  split
  · exact h
  · exact h'

theorem begun_runCommand (out : Outside) (running : Bool) (argv : List String) (s : State) :
    Begun s (s.runCommand out running argv) := by
  unfold runCommand
  split
  · -- the commands in their order, without those that have a case for their arguments
    refine begun_ite ?_ (begun_ite (begun_stop _ _ s) (begun_ite ?_
      (begun_ite (begun_stop _ _ s) (begun_ite ?_ (begun_ite (begun_stop _ _ s)
      (begun_ite (begun_startService running s) (begun_ite (begun_stopService s)
      (begun_ite ?_ (begun_ite (begun_stop _ _ s) (begun_ite ?_ (begun_ite (begun_stop _ _ s)
      (.sent _ _))))))))))))
    · split
      · exact begun_start _ _ s
      · exact .sent _ _
    · split
      · exact begun_ite (.sent _ _) (begun_start _ _ s)
      · exact .sent _ _
    · split
      · exact begun_start _ _ s
      · exact .sent _ _
    · split
      · exact begun_start _ _ s
      · exact .sent _ _
    · split
      · exact begun_start _ _ s
      · exact .sent _ _
  · exact .sent _ _

/-! ## Rescanning -/

def live (es : List Element) : Nat := es.countP fun e => e.mReady = .live

@[simp] theorem live_cons (e : Element) (es : List Element) :
    live (e :: es) = live es + if e.mReady = .live then 1 else 0 := by
  simp [live, countP_cons]

@[simp] theorem live_append (es es' : List Element) : live (es ++ es') = live es + live es' := by
  simp [live]

/-- The elements that `rescan` keeps. -/
def kept (es : List Element) : List Element := es.filter fun e => e.mReady ≠ .removing

theorem live_kept (es : List Element) : live (kept es) = live es := by
  unfold live kept
  rw [countP_filter]
  refine countP_congr ?_
  intro e _
  cases e.mReady <;> simp

/-- The loop of `rescan` fills the entries from `i` to `j` with elements that are ready, and leaves
those before. -/
structure Scanned (es : List Element) (i j : Nat) (s s' : State) : Prop where
  le : i ≤ j
  count : j ≤ i + live es
  frame : s' = { s with mPollFds := s'.mPollFds, mPollRefs := s'.mPollRefs }
  before : ∀ k < i, s'.mPollRefs k = s.mPollRefs k
  refs : ∀ k, i ≤ k → k < j → ∃ e ∈ es, e.mReady = .live ∧ s'.mPollRefs k = some e.block

theorem Scanned.nil (i : Nat) (s : State) : Scanned [] i i s s where
  le := Nat.le_refl i
  count := by simp
  frame := rfl
  before _ _ := rfl
  refs k hk hk' := absurd hk (Nat.not_le.mpr hk')

theorem Scanned.skip (h : Scanned es i j s s') (e : Element) : Scanned (e :: es) i j s s' where
  le := h.le
  count := by
    have hcount := h.count
    rw [live_cons]
    omega
  frame := h.frame
  before := h.before
  refs k hk hk' := by
    obtain ⟨x, hx, hrest⟩ := h.refs k hk hk'
    exact ⟨x, mem_cons_of_mem _ hx, hrest⟩

theorem Scanned.write {e : Element} {t : State} (hready : e.mReady = .live)
    (hwrite : s.writePoll i e.block = some t) (h : Scanned es (i + 1) j t s') :
    Scanned (e :: es) i j s s' := by
  unfold writePoll at hwrite
  split at hwrite
  · cases hwrite
    refine ⟨Nat.le_of_succ_le h.le, ?_, h.frame, ?_, ?_⟩
    · have hcount := h.count
      rw [live_cons, if_pos hready]
      omega
    · intro k hk
      rw [h.before k (Nat.lt_succ_of_lt hk)]
      exact update_of_ne (Nat.ne_of_lt hk) _ _
    · intro k hk hk'
      rcases Nat.eq_or_lt_of_le hk with rfl | hlt
      · refine ⟨e, mem_cons_self, hready, ?_⟩
        rw [h.before i (Nat.lt_succ_self i)]
        exact update_self _ _ _
      · obtain ⟨x, hx, hrest⟩ := h.refs k hlt hk'
        exact ⟨x, mem_cons_of_mem _ hx, hrest⟩
  · cases hwrite

theorem rescanFrom_spec (h : rescanFrom sockFD es i s = some (es', j, s')) :
    es' = kept es ∧ Scanned es i j s s' := by
  induction es generalizing es' i s with
  | nil =>
    cases h
    exact ⟨rfl, .nil _ _⟩
  | cons e es ih =>
    simp only [rescanFrom] at h
    cases hready : e.mReady with
    | live =>
      have hkept : kept (e :: es) = e :: kept es := by simp [kept, hready]
      simp only [hready] at h
      split at h
      · obtain ⟨t, hwrite, h⟩ := Option.bind_eq_some_iff.mp h
        obtain ⟨⟨es1, j1, t1⟩, hrest, heq⟩ := Option.bind_eq_some_iff.mp h
        cases heq
        obtain ⟨rfl, hscan⟩ := ih hrest
        exact ⟨hkept.symm, hscan.write hready hwrite⟩
      · obtain ⟨⟨es1, j1, t1⟩, hrest, heq⟩ := Option.bind_eq_some_iff.mp h
        cases heq
        obtain ⟨rfl, hscan⟩ := ih hrest
        exact ⟨hkept.symm, hscan.skip e⟩
    | removing =>
      simp only [hready] at h
      obtain ⟨rfl, hscan⟩ := ih h
      exact ⟨by simp [kept, hready], hscan.skip e⟩
    | pending =>
      simp only [hready] at h
      obtain ⟨⟨es1, j1, t1⟩, hrest, heq⟩ := Option.bind_eq_some_iff.mp h
      cases heq
      obtain ⟨rfl, hscan⟩ := ih hrest
      exact ⟨by simp [kept, hready], hscan.skip e⟩

/-- The number of elements that `rescan` makes an entry for. -/
def watched (sockFD : DNSServiceRef → Int) (es : List Element) : Nat :=
  es.countP fun e => e.mReady = .live ∧ sockFD e.mRef ≠ -1

theorem watched_le_live (sockFD : DNSServiceRef → Int) (es : List Element) :
    watched sockFD es ≤ live es := by
  refine countP_mono_left ?_
  intro e _ hboth
  simp only [decide_eq_true_eq] at hboth ⊢
  exact hboth.1

theorem rescanFrom_isSome (sockFD : DNSServiceRef → Int)
    (hsize : (i + watched sockFD es : Int) ≤ s.mPollSize) : (rescanFrom sockFD es i s).isSome := by
  induction es generalizing i s with
  | nil => rfl
  | cons e es ih =>
    rw [watched, countP_cons, ← watched] at hsize
    cases hready : e.mReady with
    | live =>
      simp only [rescanFrom, hready]
      split
      · rename_i hopen
        rw [if_pos (by simp [hready, hopen])] at hsize
        have hi : (i : Int) < s.mPollSize := by omega
        obtain ⟨r, hr⟩ := Option.isSome_iff_exists.mp
          (ih (s := { s with
            mPollFds := update s.mPollFds i false
            mPollRefs := update s.mPollRefs i (some e.block) })
            (i := i + 1) (by dsimp only; omega))
        simp [writePoll, if_pos hi, hr]
      · obtain ⟨r, hr⟩ := Option.isSome_iff_exists.mp (ih (s := s) (i := i) (by omega))
        simp [hr]
    | removing =>
      simp only [rescanFrom, hready]
      exact ih (by omega)
    | pending =>
      obtain ⟨r, hr⟩ := Option.isSome_iff_exists.mp (ih (s := s) (i := i) (by omega))
      simp [rescanFrom, hready, hr]

theorem rescan_isSome (hsize : (1 + watched sockFD s.mHead : Int) ≤ s.clearPolls.mPollSize) :
    (s.rescan sockFD).isSome := by
  obtain ⟨r, hr⟩ := Option.isSome_iff_exists.mp (rescanFrom_isSome (i := 1) sockFD hsize)
  simp [rescan, hr]

/-- What `rescan` makes of a state. -/
structure Rescanned (s s' : State) : Prop where
  mHead : s'.mHead = kept s.mHead
  mLiveCount : s'.mLiveCount = s.mLiveCount
  handler : s'.handler = s.handler
  monitor : s'.monitor = s.monitor
  refs : ∀ k, 0 < k → k < s'.pollCount →
    ∃ e ∈ s.mHead, e.mReady = .live ∧ s'.mPollRefs k = some e.block

theorem rescan_spec (h : s.rescan sockFD = some s') : Rescanned s s' := by
  obtain ⟨⟨es, j, t⟩, hscan, heq⟩ := Option.bind_eq_some_iff.mp h
  cases heq
  obtain ⟨rfl, hscanned⟩ := rescanFrom_spec hscan
  have hframe := hscanned.frame
  refine ⟨rfl, ?_, ?_, ?_, ?_⟩
  · rw [hframe]
    rfl
  · rw [hframe]
    rfl
  · rw [hframe]
    rfl
  · intro k hk hk'
    exact hscanned.refs k hk hk'

/-! ## Counting the elements that are ready -/

/-- The id of the element that the next step of the command frees. -/
def State.freeing? (s : State) : Option Int :=
  match s.handler with
  | .failing _ id | .stopping _ id => some id
  | _ => none

/-- Only ready elements are freed: the library's functions succeed, and nothing is stopped twice
before it is deleted. -/
def FreesReady (s : State) : Action → Prop
  | .serve _ => ∀ id ∈ s.freeing?, ∀ e ∈ s.mHead, e.mId = id → e.mReady = .live
  | _ => True

instance decidableFreesReady (s : State) (a : Action) : Decidable (FreesReady s a) := by
  cases a <;> unfold FreesReady <;> infer_instance

/-- What a command knows about the elements with its id. -/
def Phase (es : List Element) : HandlerThread → Prop
  | .allocating _ id => ∀ e ∈ es, e.mId ≠ id
  | .calling _ id _ | .failing _ id | .starting _ id => ∀ e ∈ es, e.mId = id → e.mReady = .pending
  | _ => True

theorem Phase.mono {handler : HandlerThread} (h : Phase es handler) (hsub : es' ⊆ es) :
    Phase es' handler := by
  cases handler with
  | allocating op id | calling op id block | failing op id | starting op id =>
    exact fun e he => h e (hsub he)
  | idle | triggering | deallocating | stopping => trivial

structure Counted (es : List Element) (count : Int) (handler : HandlerThread) : Prop where
  ids : (es.map Element.mId).Nodup
  count : count = live es
  phase : Phase es handler

abbrev State.Counted (s : State) : Prop := MDnsSd.Counted s.mHead s.mLiveCount s.handler

section

variable (h : s.Counted)
include h

theorem Counted.begun (hbegun : Begun s s') : s'.Counted := by
  cases hbegun with
  | sent code text => exact ⟨h.ids, h.count, trivial⟩
  | allocating op hnew => exact ⟨h.ids, h.count, hnew⟩
  | deallocating str id block => exact ⟨h.ids, h.count, trivial⟩

theorem Counted.allocate (hnew : ∀ e ∈ s.mHead, e.mId ≠ id) (block : Nat) :
    State.Counted { s.allocateServiceRef id with handler := .calling op id block } := by
  refine ⟨?_, ?_, ?_⟩
  · refine nodup_cons.mpr ⟨?_, h.ids⟩
    intro hmem
    obtain ⟨e, he, heq⟩ := mem_map.mp hmem
    exact hnew e he heq
  · simpa [allocateServiceRef] using h.count
  · intro e he hid
    rcases mem_cons.mp he with rfl | hold
    · rfl
    · exact absurd hid (hnew e hold)

theorem Counted.setRef (ref : DNSServiceRef)
    (hphase : ∀ e ∈ s.mHead, e.mId = id → e.mReady = .pending) :
    State.Counted { s.setRef block ref with handler := .starting op id } := by
  have hids : (s.mHead.map fun e => if e.block = block then { e with mRef := ref } else e).map
      mId = s.mHead.map mId := by
    rw [map_map]
    refine map_congr_left ?_
    intro e _
    dsimp only [comp]
    split <;> rfl
  have hlive : live (s.mHead.map fun e => if e.block = block then { e with mRef := ref } else e) =
      live s.mHead := by
    unfold live
    rw [countP_map]
    refine countP_congr ?_
    intro e _
    dsimp only [comp]
    split <;> rfl
  refine ⟨?_, ?_, ?_⟩
  · show (List.map mId _).Nodup
    rw [State.setRef, hids]
    exact h.ids
  · show s.mLiveCount = _
    rw [State.setRef, hlive]
    exact h.count
  · intro e he hid
    obtain ⟨x, hx, rfl⟩ := mem_map.mp he
    split at hid <;> split <;> exact hphase x hx hid

theorem Counted.startMonitoring (hphase : ∀ e ∈ s.mHead, e.mId = id → e.mReady = .pending)
    (hany : (s.mHead.any fun e => e.mId = id) = true) :
    State.Counted { s.startMonitoring id with handler := .triggering op } := by
  obtain ⟨cur, hcur⟩ : ∃ cur, (s.mHead.find? fun e => e.mId = id) = some cur := by
    refine Option.isSome_iff_exists.mp ?_
    rwa [List.find?_isSome, ← any_eq_true]
  obtain ⟨l1, l2, hfound⟩ := found_of_find? hcur
  have hpending := hphase cur hfound.mem hfound.mId
  refine ⟨?_, ?_, trivial⟩
  · show (List.map mId (markReady id s.mHead)).Nodup
    have hids := h.ids
    rw [hfound.eq] at hids
    rw [markReady_eq hfound]
    simpa using hids
  · show s.mLiveCount + 1 = _
    have hcount := h.count
    rw [hfound.eq] at hcount
    rw [State.startMonitoring, markReady_eq hfound, hcount]
    simp only [live_append, live_cons, hpending, reduceCtorEq, if_false, if_true]
    omega

theorem Counted.freed (hready : ∀ e ∈ s.mHead, e.mId = id → e.mReady = .live)
    (hfreed : Freed id s s') (code : ResponseCode) (text : String) :
    (s'.sendMsg code text).Counted := by
  cases hfreed with
  | unknown _ => exact ⟨h.ids, h.count, trivial⟩
  | @marked l1 l2 cur hfound hlive =>
    have hids := h.ids
    have hcount := h.count
    rw [hfound.eq] at hids hcount
    refine ⟨?_, ?_, trivial⟩
    · show (List.map mId _).Nodup
      simpa [sendMsg] using hids
    · show s.mLiveCount - 1 = _
      rw [hcount]
      simp only [sendMsg, live_append, live_cons, hlive, reduceCtorEq, if_false, if_true]
      omega
  | @deleted l1 l2 cur hfound hnot =>
    exact absurd (hready cur hfound.mem hfound.mId) hnot

theorem Counted.serve (hok : FreesReady s (.serve result)) (hs : s.serve result = some s') :
    s'.Counted := by
  have hphase := h.phase
  unfold State.serve at hs
  cases hhandler : s.handler with
  | idle =>
    simp only [hhandler] at hs
    cases hs
  | allocating op id =>
    simp only [hhandler] at hs hphase
    cases hs
    exact h.allocate hphase _
  | calling op id block =>
    simp only [hhandler] at hs hphase
    cases result with
    | some ref =>
      cases hs
      exact h.setRef _ hphase
    | none =>
      cases hs
      exact ⟨h.ids, h.count, hphase⟩
  | failing op id | stopping op id =>
    simp only [hhandler] at hs
    cases hs
    exact h.freed (hok id (by simp [freeing?, hhandler])) (MDnsSd.freed id s) _ _
  | starting op id =>
    simp only [hhandler] at hs hphase
    split at hs
    · rename_i hany
      cases hs
      exact h.startMonitoring hphase hany
    · cases hs
      exact ⟨h.ids, h.count, trivial⟩
  | triggering op | deallocating str id block =>
    simp only [hhandler] at hs
    cases hs
    exact ⟨h.ids, h.count, trivial⟩

theorem Counted.rescanned (hs : Rescanned s s') : s'.Counted := by
  have hsub : kept s.mHead ⊆ s.mHead := filter_sublist.subset
  unfold State.Counted
  rw [hs.mHead, hs.mLiveCount, hs.handler]
  refine ⟨?_, ?_, h.phase.mono hsub⟩
  · exact h.ids.sublist (filter_sublist.map _)
  · rw [live_kept]
    exact h.count

end

/-- The steps of the monitor thread: it rescans, or leaves all but its own place. -/
theorem runMonitor_cases (hs : s.runMonitor sockFD = some s') :
    (∃ i, s.monitor = .processing i ∧ s' = s.nextEntry i) ∨
      s' = { s with monitor := .control } ∨ s' = { s with monitor := .polling } ∨
      ∃ t, Rescanned s t ∧ s' = { t with monitor := .polling } := by
  unfold runMonitor at hs
  split at hs
  · cases hs
  · rename_i i hi
    split at hs
    · cases hs
      exact .inl ⟨i, hi, rfl⟩
    · cases hs
      exact .inr (.inl rfl)
  · unfold runControl at hs
    split at hs
    · obtain ⟨t, hrescan, heq⟩ := Option.bind_eq_some_iff.mp hs
      cases heq
      have hspec := rescan_spec hrescan
      exact .inr (.inr (.inr ⟨t, ⟨hspec.mHead, hspec.mLiveCount, hspec.handler,
        hspec.monitor, hspec.refs⟩, rfl⟩))
    · cases hs
      exact .inr (.inr (.inl rfl))

theorem Counted.step {a : Action} (h : s.Counted) (hok : FreesReady s a)
    (hs : step out a s = some s') : s'.Counted := by
  cases a with
  | command running argv =>
    simp only [MDnsSd.step] at hs
    split at hs
    · cases hs
      exact h.begun (begun_runCommand out running argv s)
    · cases hs
  | serve result => exact h.serve hok hs
  | poll ready =>
    simp only [MDnsSd.step] at hs
    split at hs
    · cases hs
      unfold poll
      split
      · exact h
      · exact h
    · cases hs
  | monitor sockFD =>
    rcases runMonitor_cases hs with ⟨i, -, rfl⟩ | rfl | rfl | ⟨t, ht, rfl⟩
    · exact h
    · exact h
    · exact h
    · have hrescanned : t.Counted := h.rescanned ht
      exact hrescanned

theorem Counted.rescan_isSome (h : s.Counted) (sockFD : DNSServiceRef → Int) :
    (s.rescan sockFD).isSome := by
  have hcount := h.count
  have hwatched := watched_le_live sockFD s.mHead
  refine MDnsSd.rescan_isSome ?_
  simp only [clearPolls]
  split <;> omega

/-- In every interleaving in which only ready elements are freed, `mLiveCount` counts the ready
ones, and a rescan stays inside the arrays. -/
theorem polls_fit {h : List Action} (hrun : Lts.Run (step out) FreesReady init h s) :
    s.mLiveCount = live s.mHead ∧ ∀ sockFD, (s.rescan sockFD).isSome := by
  have hinv : s.Counted := hrun.invariant (I := fun _ t => t.Counted)
    ⟨nodup_nil, rfl, trivial⟩ Counted.step
  exact ⟨hinv.count, hinv.rescan_isSome⟩

/-- The ids of the samples are the lengths of the arguments. -/
def sampleOutside : Outside := ⟨fun s => s.length, fun s => s.length⟩

/-- The steps of a `discover` command for which the library gives a reference or not. -/
def discoverActions (id : String) (result : Option Nat) : List Action :=
  [.command true ["mdnssd", "discover", id, "_http._tcp"], .serve none, .serve result, .serve none,
    .serve none]

/-- The steps of a `stop-discover` command. -/
def stopActions (id : String) : List Action :=
  [.command true ["mdnssd", "stop-discover", id], .serve none, .serve none]

/-- The next poll, and what the monitor thread does up to the end of a rescan. -/
def rescanActions : List Action := [.poll [], .monitor fun _ => 7, .monitor fun _ => 7]

theorem polls_fit_sample :
    ∃ h s, Lts.Run (step sampleOutside) FreesReady init h s ∧ s.mHead.length = 2 ∧
      s.mLiveCount = 1 ∧ s.mLiveCount = live s.mHead ∧ ∀ sockFD, (s.rescan sockFD).isSome := by
  let as := discoverActions "a" (some 1) ++ discoverActions "aa" (some 2) ++ stopActions "a"
  obtain ⟨s, hrun, hlen, hcount⟩ : ∃ s,
      Lts.Run (step sampleOutside) FreesReady init as.reverse s ∧
      s.mHead.length = 2 ∧ s.mLiveCount = 1 := run_of_mem _ (by decide +kernel)
  exact ⟨_, s, hrun, hlen, hcount, polls_fit hrun⟩

/-- The arguments of a number of commands, all different. -/
def ids (n : Nat) : List String := (List.range n).map fun k => String.ofList (List.replicate k 'a')

/-- A `discover` that fails makes the count negative. After ten more that succeed, a rescan writes
outside of the arrays. -/
theorem rescan_overflows :
    (∃ h s, Lts.Run (step sampleOutside) (fun _ _ => True) init h s ∧ live s.mHead = 0 ∧
      s.mLiveCount = -1) ∧
    ∃ h s, Lts.Run (step sampleOutside) (fun _ _ => True) init h s ∧
      s.mLiveCount ≠ live s.mHead ∧ s.rescan (fun _ => 7) = none := by
  constructor
  · exact ⟨_, run_of_mem ((discoverActions "a" none).take 4) (by decide +kernel)⟩
  · exact ⟨_, run_of_mem ((discoverActions "a" none).take 4 ++
      (ids 10).flatMap fun id => discoverActions id (some 1)) (by decide +kernel)⟩

/-! ## The elements that the entries point into -/

/-- No element is freed that is marked already. -/
def FreesOnce (s : State) : Action → Prop
  | .serve _ => ∀ id ∈ s.freeing?, ∀ e ∈ s.mHead, e.mId = id → e.mReady ≠ .removing
  | _ => True

instance decidableFreesOnce (s : State) (a : Action) : Decidable (FreesOnce s a) := by
  cases a <;> unfold FreesOnce <;> infer_instance

/-- If the step rescans, the arrays have an entry for every element that is found. -/
def RescanFits (s : State) : Action → Prop
  | .monitor sockFD => s.monitor = .control → s.mPollFds 0 = true →
      (1 + watched sockFD s.mHead : Int) ≤ s.clearPolls.mPollSize
  | _ => True

instance decidableRescanFits (s : State) (a : Action) : Decidable (RescanFits s a) := by
  cases a <;> unfold RescanFits <;> infer_instance

/-- The monitor thread goes on, unless it waits in `poll`. -/
theorem runMonitor_isSome (hpolling : s.monitor ≠ .polling)
    (hfits : RescanFits s (.monitor sockFD)) : (s.runMonitor sockFD).isSome := by
  unfold runMonitor
  cases hmon : s.monitor with
  | polling => exact absurd hmon hpolling
  | processing i =>
    dsimp only
    split <;> rfl
  | control =>
    unfold runControl
    dsimp only
    split
    · rename_i hbyte
      obtain ⟨t, ht⟩ := Option.isSome_iff_exists.mp (rescan_isSome
        (s := { s with mCtrlSocketPair := s.mCtrlSocketPair - 1 }) (hfits hmon hbyte))
      simp [ht]
    · rfl

def Held (es : List Element) (block : Nat) : Prop := ∃ e ∈ es, e.block = block ∧ e.mReady ≠ .pending

structure Pointed (es : List Element) (pollCount : Nat) (mPollRefs : Nat → Option Nat)
    (monitor : MonitorThread) : Prop where
  refs : ∀ k, 0 < k → k < pollCount → ∃ block, mPollRefs k = some block ∧ Held es block
  index : ∀ i, monitor = .processing i → 0 < i

abbrev State.Pointed (s : State) : Prop := MDnsSd.Pointed s.mHead s.pollCount s.mPollRefs s.monitor

/-- A step of a command keeps the elements that have been ready. -/
theorem Pointed.mono {pollCount : Nat} {mPollRefs : Nat → Option Nat} {monitor : MonitorThread}
    (h : Pointed es pollCount mPollRefs monitor) (hheld : ∀ block, Held es block → Held es' block) :
    Pointed es' pollCount mPollRefs monitor where
  refs k hk hk' := by
    obtain ⟨block, hblock, hmem⟩ := h.refs k hk hk'
    exact ⟨block, hblock, hheld block hmem⟩
  index := h.index

theorem held_markReady (h : Held es block) : Held (markReady id es) block := by
  induction es with
  | nil => exact h
  | cons cur es ih =>
    obtain ⟨e, he, hblock, hready⟩ := h
    simp only [markReady]
    split
    · rcases mem_cons.mp he with rfl | hrest
      · exact ⟨_, mem_cons_self, hblock, by simp⟩
      · exact ⟨e, mem_cons_of_mem _ hrest, hblock, hready⟩
    rcases mem_cons.mp he with rfl | hrest
    · exact ⟨e, mem_cons_self, hblock, hready⟩
    · obtain ⟨x, hx, hspec⟩ := ih ⟨e, hrest, hblock, hready⟩
      exact ⟨x, mem_cons_of_mem _ hx, hspec⟩

theorem held_setRef {block' : Nat} {ref : DNSServiceRef} (h : Held s.mHead block') :
    Held (s.setRef block ref).mHead block' := by
  obtain ⟨e, he, hblock, hready⟩ := h
  refine ⟨_, mem_map_of_mem he, ?_⟩
  split
  · exact ⟨hblock, hready⟩
  · exact ⟨hblock, hready⟩

theorem held_freed (h : Held s.mHead block) (hok : ∀ e ∈ s.mHead, e.mId = id → e.mReady ≠ .removing)
    (hfreed : Freed id s s') : Held s'.mHead block := by
  obtain ⟨e, he, hblock, hready⟩ := h
  cases hfreed with
  | unknown _ => exact ⟨e, he, hblock, hready⟩
  | @marked l1 l2 cur hfound hlive =>
    rw [hfound.eq] at he
    rcases mem_append.mp he with hl | hr
    · exact ⟨e, mem_append_left _ hl, hblock, hready⟩
    rcases mem_cons.mp hr with rfl | hr
    · exact ⟨_, mem_append_right _ mem_cons_self, hblock, by simp⟩
    · exact ⟨e, mem_append_right _ (mem_cons_of_mem _ hr), hblock, hready⟩
  | @deleted l1 l2 cur hfound hnot =>
    -- the element that is deleted has never been ready
    have hpending : cur.mReady = .pending := by
      have hmarked := hok cur hfound.mem hfound.mId
      cases hcur : cur.mReady with
      | pending => rfl
      | live => exact absurd hcur hnot
      | removing => exact absurd hcur hmarked
    rw [hfound.eq] at he
    rcases mem_append.mp he with hl | hr
    · exact ⟨e, mem_append_left _ hl, hblock, hready⟩
    rcases mem_cons.mp hr with rfl | hr
    · exact absurd hpending hready
    · exact ⟨e, mem_append_right _ hr, hblock, hready⟩

theorem Pointed.serve (h : s.Pointed) (hok : FreesOnce s (.serve result))
    (hs : s.serve result = some s') : s'.Pointed := by
  have hfreed : ∀ id ∈ s.freeing?, ∀ code text,
      ((s.freeServiceRef id).sendMsg code text).Pointed := by
    intro id hid code text
    have hcases := freed id s
    have hrest : (s.freeServiceRef id).pollCount = s.pollCount ∧
        (s.freeServiceRef id).mPollRefs = s.mPollRefs ∧
        (s.freeServiceRef id).monitor = s.monitor := by
      generalize s.freeServiceRef id = t at hcases
      cases hcases <;> exact ⟨rfl, rfl, rfl⟩
    have hmono := h.mono fun block hheld => held_freed hheld (hok id hid) hcases
    simp only [sendMsg, hrest]
    exact hmono
  unfold State.serve at hs
  cases hhandler : s.handler with
  | idle =>
    simp only [hhandler] at hs
    cases hs
  | allocating op id =>
    simp only [hhandler] at hs
    cases hs
    refine h.mono ?_
    rintro block ⟨e, he, hspec⟩
    exact ⟨e, mem_cons_of_mem _ he, hspec⟩
  | calling op id block =>
    simp only [hhandler] at hs
    cases result with
    | some ref =>
      cases hs
      exact h.mono fun _ => held_setRef
    | none =>
      cases hs
      exact h
  | failing op id | stopping op id =>
    simp only [hhandler] at hs
    cases hs
    exact hfreed id (by simp [freeing?, hhandler]) _ _
  | starting op id =>
    simp only [hhandler] at hs
    split at hs
    · cases hs
      exact h.mono fun _ => held_markReady
    · cases hs
      exact h
  | triggering op | deallocating str id block =>
    simp only [hhandler] at hs
    cases hs
    exact h

theorem Pointed.rescanned (hs : Rescanned s s') :
    MDnsSd.Pointed s'.mHead s'.pollCount s'.mPollRefs .polling where
  refs k hk hk' := by
    obtain ⟨e, he, hlive, hblock⟩ := hs.refs k hk hk'
    refine ⟨e.block, hblock, e, ?_, rfl, by simp [hlive]⟩
    rw [hs.mHead]
    exact mem_filter.mpr ⟨he, by simp [hlive]⟩
  index i hi := by cases hi

theorem Pointed.step {a : Action} (h : s.Pointed) (hok : FreesOnce s a)
    (hs : step out a s = some s') : s'.Pointed := by
  cases a with
  | command running argv =>
    simp only [MDnsSd.step] at hs
    split at hs
    · have hbegun := begun_runCommand out running argv s
      cases hs
      generalize s.runCommand out running argv = t at hbegun
      cases hbegun with
      | sent code text | allocating op hnew | deallocating str id block => exact h
    · cases hs
  | serve result => exact h.serve hok hs
  | poll ready =>
    simp only [MDnsSd.step] at hs
    split at hs
    · cases hs
      unfold poll
      split
      · refine ⟨h.refs, ?_⟩
        rintro i hi
        cases hi
        exact Nat.one_pos
      · exact h
    · cases hs
  | monitor sockFD =>
    rcases runMonitor_cases hs with ⟨i, hi, rfl⟩ | rfl | rfl | ⟨t, ht, rfl⟩
    · refine ⟨h.refs, ?_⟩
      rintro j hj
      cases hj
      exact Nat.succ_pos i
    · exact ⟨h.refs, fun i hi => by cases hi⟩
    · exact ⟨h.refs, fun i hi => by cases hi⟩
    · have hpointed := Pointed.rescanned ht
      exact hpointed

/-- In every interleaving in which nothing is stopped twice before it is deleted and each rescan
fits the arrays, the entry that the monitor thread is about to use is in an element that is not
deleted. The monitor thread has a next step then. -/
theorem polls_not_deleted {h : List Action}
    (hrun : Lts.Run (step out) (fun s a => FreesOnce s a ∧ RescanFits s a) init h s) :
    (∀ i, s.Processes i → ∃ e ∈ s.mHead, s.mPollRefs i = some e.block) ∧
      ∀ sockFD, s.monitor ≠ .polling → RescanFits s (.monitor sockFD) →
        (step out (.monitor sockFD) s).isSome := by
  refine ⟨?_, fun sockFD => runMonitor_isSome⟩
  have hinv : s.Pointed := by
    refine hrun.invariant (I := fun _ t => t.Pointed) ⟨?_, ?_⟩ fun h hok => h.step hok.1
    · intro k hk hk'
      exact absurd hk' (Nat.not_lt.mpr hk)
    · intro i hi
      cases hi
  rintro i ⟨hi, hlt, -⟩
  obtain ⟨block, hblock, e, he, rfl, -⟩ := hinv.refs i (hinv.index i hi) hlt
  exact ⟨e, he, hblock⟩

/-- One operation is polled, one cannot be started, and the first is stopped while the monitor
thread is about to look at its entry. -/
def sampleProcessing : List Action :=
  discoverActions "a" (some 1) ++ rescanActions ++ (discoverActions "aa" none).take 4 ++
    [.poll [1]] ++ stopActions "a"

instance State.decidableProcesses (s : State) (i : Nat) : Decidable (s.Processes i) :=
  inferInstanceAs (Decidable (_ ∧ _ ∧ _))

theorem polls_not_deleted_sample :
    ∃ h s, Lts.Run (step sampleOutside) (fun s a => FreesOnce s a ∧ RescanFits s a) init h s ∧
      s.Processes 1 ∧ ∃ e ∈ s.mHead, s.mPollRefs 1 = some e.block := by
  obtain ⟨s, hrun, hprocesses⟩ : ∃ s, Lts.Run (step sampleOutside)
      (fun s a => FreesOnce s a ∧ RescanFits s a) init sampleProcessing.reverse s ∧
      s.Processes 1 :=
    run_of_mem _ (by decide +kernel)
  exact ⟨_, s, hrun, hprocesses, (polls_not_deleted hrun).1 1 hprocesses⟩

/-- The operation is stopped once more: its element is deleted, and the monitor thread uses it. -/
theorem stopped_twice :
    ∃ h s, Lts.Run (step sampleOutside) (fun _ _ => True) init h s ∧ s.Processes 1 ∧
      ∃ block, s.mPollRefs 1 = some block ∧ ∀ e ∈ s.mHead, e.block ≠ block := by
  obtain ⟨s, hrun, hprocesses, hblock, hdeleted⟩ : ∃ s, Lts.Run (step sampleOutside)
      (fun _ _ => True) init (sampleProcessing ++ stopActions "a").reverse s ∧
      s.Processes 1 ∧ s.mPollRefs 1 = some 0 ∧ ∀ e ∈ s.mHead, e.block ≠ 0 :=
    run_of_mem _ (by decide +kernel)
  exact ⟨_, s, hrun, hprocesses, 0, hblock, hdeleted⟩

end Netd.MDnsSd
