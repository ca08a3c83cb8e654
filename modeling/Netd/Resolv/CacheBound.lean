import Netd.Resolv.CacheKeys

/-!
# The size of a cache

`_resolv_cache_add` makes room in a full cache by removing the entry that was used least recently.
It looks the entry up by its own query, which works for a query that has all the records its header
counts. With such queries a cache never has more than `max_entries` entries.

A query that ends before its additional record is accepted and never found again, and none of its
entries can be removed before it has expired (`fill_spec`).
-/

namespace Netd.ResCache

open Links List Cache DnsPacket OrdMap Netd.ResCache.System Option Function

variable {parser : NsParser} {h : List Action} {s s' : System} {a : Action}

/-! ## Complete queries -/

/-- A query that is added to a cache has all the records that its header counts. -/
def CompleteAdd : Action → Prop
  | .add _ query _ _ _ _ =>
    (init query).checkQuery = true → DnsPacket.Complete query
  | _ => True

/-- A cache that is not too large and whose entries can be removed. -/
structure Cache.Bounded (c : Cache) : Prop where
  selfEqual : c.SelfEqual
  numEntries : c.numEntries ≤ c.maxEntries
  missed : c.missed = 0

theorem Cache.Bounded.of_empty {c : Cache} (hnone : ∀ x, c.view.content x = none)
    (hnum : c.numEntries = 0) (hmiss : c.missed = 0) : c.Bounded := by
  refine ⟨fun x k hk => ?_, by omega, hmiss⟩
  rw [hnone] at hk
  cases hk

theorem Effect.bounded {r : Option Cache.LookupResult} (he : Effect parser a s r s')
    (ha : CompleteAdd a) (h : ∀ n c, s.caches.find? n = some c → c.Bounded) :
    ∀ n c, s'.caches.find? n = some c → c.Bounded := by
  -- Only the cache of one network changes.
  have hinsert : ∀ m d, d.Bounded → ∀ n c, (s.caches.insert m d).find? n = some c → c.Bounded :=
    fun m d hd => forall_insert h hd
  cases he with
  | nothing _ _ _ => exact h
  | created _ _ => exact hinsert _ _ (.of_empty (fun _ => rfl) rfl rfl)
  | flushed _ hc _ hnone hmiss hnum =>
    exact hinsert _ _ (.of_empty hnone hnum (hmiss.trans (h _ _ hc).missed))
  | deleted _ =>
    exact fun n c hc => h n c (find?_of_erase hc).2
  | looked _ _ _ hc _ hfew hmiss _ _ =>
    have hd := h _ _ hc
    have hle := hfew.numEntries
    have hmax := hfew.maxEntries
    have hnum := hd.numEntries
    refine hinsert _ _ ⟨hd.selfEqual.mono hfew, ?_, hmiss.trans hd.missed⟩
    omega
  | @added n answer block now now' key c c' haction hkey hc _ hgrows hbound =>
    have hd := h _ _ hc
    obtain ⟨hmiss, hnum⟩ := hbound hd.selfEqual hd.numEntries
    subst haction
    refine hinsert _ _ ⟨fun x k hk => ?_, ?_, hmiss.trans hd.missed⟩
    · have hk' : c'.view.content x = some k := hk
      rcases hgrows.content x k hk' with hold | ⟨-, rfl⟩
      · exact hd.selfEqual x k hold
      · simp only [queryEquals, ne_eq]
        exact isEqualQuery_self true (length_of_checkQuery hkey.checked)
          (ha hkey.checked)
    · show c'.numEntries ≤ c'.maxEntries
      rw [hgrows.maxEntries]
      exact hnum
  | failed _ hc =>
    have hd := h _ _ hc
    exact hinsert _ _ ⟨hd.selfEqual, hd.numEntries, hd.missed⟩

/-! ## Queries that are not complete -/

namespace Cache

variable {c : Cache} {chain : Nat → List Nat} {mru m₁ : List Nat} {now : TimeT}

/-- Entries that cannot be removed: they do not equal themselves and are not stale. -/
def Stuck (c : Cache) (now : TimeT) : Prop :=
  ∀ x k, c.view.content x = some k →
    queryEquals true k.query k.query = false ∧ now.toInt < k.expires.toInt

/-- Nothing is removed as expired. -/
theorem removeExpiredFrom_fresh
    (hfresh : ∀ x k, c.view.content x = some k → now.toInt < k.expires.toInt) {fuel : Nat}
    {rest : List Nat} (h : Shape c.view chain (m₁ ++ rest)) (hfuel : rest.length ≤ fuel) :
    removeExpiredFrom now fuel rest.head? c = some c := by
  induction rest generalizing m₁ fuel with
  | nil => simp [removeExpiredFrom]
  | cons x rest ih =>
    obtain ⟨fuel, rfl⟩ : ∃ n, fuel = n + 1 :=
      Nat.exists_eq_succ_of_ne_zero (Nat.ne_of_gt (Nat.lt_of_lt_of_le (Nat.succ_pos _) hfuel))
    obtain ⟨k, hk⟩ := (h.recency.mem_mru x).mp (by simp)
    obtain ⟨e, he, rfl, -, hnext, -⟩ := find?_of_content hk
    have hrest : e.mruNext = rest.head? := hnext.trans h.recency.next_mem
    have hlater : ¬ e.expires.toInt ≤ now.toInt := not_le.mpr (hfresh x _ hk)
    have h' : Shape c.view chain ((m₁ ++ [x]) ++ rest) := by simpa using h
    simp [removeExpiredFrom, he, hlater, hrest, ih h' (Nat.le_of_succ_le_succ hfuel)]

theorem removeExpired_fresh (h : Shape c.view chain mru)
    (hfresh : ∀ x k, c.view.content x = some k → now.toInt < k.expires.toInt) :
    c.removeExpired now = some c := by
  have hfirst : c.mruNext = mru.head? := h.recency.next_head
  have hlen := length_le_of_content h.recency.nodup fun x hx => (h.recency.mem_mru x).mp hx
  have h' : Shape c.view chain ([] ++ mru) := h
  rw [removeExpired, hfirst]
  exact removeExpiredFrom_fresh hfresh h' (Nat.le_succ_of_le hlen)

theorem removeOldest_stuck (hstuck : Stuck c now) (h : Shape c.view chain mru) :
    c.removeOldest = some { c with missed := c.missed + 1 } := by
  have hlast : c.mruPrev = (mru.map some).getLast?.getD none := h.recency.ring.prev_head
  rcases eq_nil_or_concat mru with rfl | ⟨m, x, rfl⟩
  · obtain ⟨e, he⟩ : ∃ e, c.mruEntry none = some e := ⟨_, rfl⟩
    obtain ⟨slot, hlook, hread⟩ := lookupP_head h he
    have hnone : c.mruPrev = none := hlast
    simp [removeOldest, hnone, he, hlook, hread]
  · rw [concat_eq_append] at h hlast
    have hprev : c.mruPrev = some x := by simpa using hlast
    obtain ⟨k, hk⟩ := (h.recency.mem_mru x).mp (by simp)
    obtain ⟨e, he, rfl, -⟩ := find?_of_content hk
    obtain ⟨slot, found, hlook, hread, hdiscarded⟩ := discard_spec h he
    cases hdiscarded with
    | found hself =>
      have hnot : queryEquals true e.query e.query = false := (hstuck x _ hk).1
      rw [hnot] at hself
      cases hself
    | missing _ => simp [removeOldest, hprev, mruEntry, he, hlook, hread]

/-- Another answer is added to a cache that has room or whose entries cannot be removed. -/
theorem add_stuck (parser : NsParser) (now' : TimeT)
    (hstuck : c.maxEntries ≤ c.numEntries → Stuck c now) (h : Shape c.view chain mru) {key : Entry}
    (hkey : IsKey key) (hno : ∀ b, ¬ Matches c.view key none b) (answer : List Byte)
    (httl : 0 < answerGetTTL parser answer) {x : Nat} (hnew : c.view.content x = none) :
    ∃ c' chain', c.add parser key answer (some x) now now' = some c' ∧
      Shape c'.view chain' (x :: mru) ∧
      c'.view.content = update c.view.content x
        (some (newContent key answer (answerGetTTL parser answer) now')) ∧
      c'.maxEntries = c.maxEntries ∧ c'.numEntries = c.numEntries + 1 ∧
      c'.missed = if c.numEntries ≥ c.maxEntries then c.missed + 1 else c.missed := by
  -- What the end of the addition does, on this cache or on the one with one more miss.
  let last := endSlot Slot.hlink (.head (key.hash.toNat % c.maxEntries))
    (chain (key.hash.toNat % c.maxEntries))
  have hstore : ∀ n, ∃ c' chain', ({ c with missed := n } : Cache).store last key answer
        (answerGetTTL parser answer) (some x) now' = some c' ∧ Shape c'.view chain' (x :: mru) ∧
      c'.view.content = update c.view.content x
        (some (newContent key answer (answerGetTTL parser answer) now')) ∧
      c'.maxEntries = c.maxEntries ∧ c'.numEntries = c.numEntries + 1 ∧ c'.missed = n := by
    intro n
    obtain ⟨c', chain', hc', hshape, hcontent, hmax, -, hmiss, hnum⟩ :=
      addP_spec (shape_missed h n) hkey hno hnew answer (answerGetTTL parser answer) now'
    have hfree : c.mem.contains x = false := by
      have hnone : c.mem.find? x = none := by simpa [view] using hnew
      simp [OrdMap.contains, hnone]
    refine ⟨c', chain', ?_, hshape, hcontent, hmax, hnum, hmiss⟩
    simp only [store, httl, hfree]
    exact hc'
  have hlook : ∀ n, ({ c with missed := n } : Cache).lookupP key none = some last ∧
      ({ c with missed := n } : Cache).read last = some none := by
    intro n
    obtain ⟨slot, found, hlook, hread, hfound⟩ := lookupP_key (shape_missed h n).table key
    cases found with
    | none =>
      obtain ⟨rfl, -⟩ := hfound
      exact ⟨hlook, hread⟩
    | some b => exact absurd hfound.1 (hno b)
  obtain ⟨hlook0, hread0⟩ := hlook c.missed
  by_cases hfull : c.numEntries ≥ c.maxEntries
  · obtain ⟨c', chain', hc', hshape, hcontent, hmax, hnum, hmiss⟩ := hstore (c.missed + 1)
    obtain ⟨hlook1, hread1⟩ := hlook (c.missed + 1)
    refine ⟨c', chain', ?_, hshape, hcontent, hmax, hnum, by rw [if_pos hfull, hmiss]⟩
    have hroom : c.makeRoom now = some { c with missed := c.missed + 1 } := by
      have hexpired := removeExpired_fresh h fun y k hk => (hstuck hfull y k hk).2
      simp [makeRoom, hexpired, hfull, removeOldest_stuck (hstuck hfull) h]
    simp [add, hlook0, hread0, hfull, hroom, hlook1, hread1, hc']
  · obtain ⟨c', chain', hc', hshape, hcontent, hmax, hnum, hmiss⟩ := hstore c.missed
    refine ⟨c', chain', ?_, hshape, hcontent, hmax, hnum, by rw [if_neg hfull, hmiss]⟩
    simp [add, hlook0, hread0, hfull, hc']

end Cache

/-- A query for the address of `a` that counts an additional record and ends before it. -/
def cutQuery : List Byte := [0, 7, 1, 0, 0, 1, 0, 0, 0, 0, 0, 1, 1, 97, 0, 0, 1, 0, 1]

/-- The time at which all the answers to the query come. -/
def hoardTime : TimeT := 1000

/-- Answers to some queries, all at one time and each in a block of its own. -/
def fill (q : Nat → List Byte) : Nat → List Action
  | 0 => [.create 100]
  | k + 1 => .add 100 (q k) [1, 2, 3] (some k) hoardTime hoardTime :: fill q k

/-- Every answer takes an entry, if no query equals an earlier one and a full cache keeps its
entries. -/
theorem fill_spec (parser : NsParser) (q : Nat → List Byte)
    (httl : answerGetTTL parser [1, 2, 3] = 60) (hq : ∀ k, (entryInitKey (q k)).isSome)
    (hdiffers : ∀ x k, x < k → queryEquals false (q x) (q k) = false) (k : Nat)
    (hstuck : configMaxEntries < k → ∀ x, queryEquals true (q x) (q x) = false) :
    ∃ s c chain, Reaches parser (fill q k) s ∧ s.caches.find? 100 = some c ∧ c.numEntries = k ∧
      c.maxEntries = configMaxEntries ∧ c.missed = k - configMaxEntries ∧
      Shape c.view chain (List.range k).reverse ∧ ∀ x m, c.view.content x = some m →
        m.query = q x ∧ m.expires = hoardTime + 60 := by
  induction k with
  | zero =>
    obtain ⟨chain, mru, hshape⟩ := sound_create.shape
    obtain rfl : mru = [] := eq_nil_iff_forall_not_mem.mpr fun x hx => by
      obtain ⟨m, hm⟩ := (hshape.recency.mem_mru x).mp hx
      cases hm
    exact ⟨init.getResCacheForNet 100, .create, chain, .step _ .start trivial rfl, rfl, rfl,
      rfl, rfl, hshape, fun x m hm => by cases hm⟩
  | succ k ih =>
    obtain ⟨s, c, chain, hrun, hc, hnum, hmax, hmiss, hshape, hcontent⟩ :=
      ih fun hlt => hstuck (Nat.lt_succ_of_lt hlt)
    obtain ⟨key, hinit⟩ := isSome_iff_exists.mp (hq k)
    obtain ⟨hkey, hquery⟩ := isKey_of_entryInitKey hinit
    have hfull : c.maxEntries ≤ c.numEntries → c.Stuck hoardTime := by
      intro hle x m hm
      obtain ⟨hq, hexpires⟩ := hcontent x m hm
      rw [hq, hexpires]
      exact ⟨hstuck (by omega) x, by decide⟩
    have hno : ∀ b, ¬ Cache.Matches c.view key none b := by
      rintro b ⟨m, hm, -, hequal⟩
      rw [(hcontent b m hm).1, hquery] at hequal
      have hb : b < k := by simpa using (hshape.recency.mem_mru b).mpr ⟨m, hm⟩
      cases (hdiffers b k hb).symm.trans hequal
    have hnew : c.view.content k = none := by
      by_contra hsome
      obtain ⟨m, hm⟩ := ne_none_iff_exists'.mp hsome
      simpa using (hshape.recency.mem_mru k).mpr ⟨m, hm⟩
    obtain ⟨c', chain', hadd, hshape', hcontent', hmax', hnum', hmiss'⟩ :=
      add_stuck parser hoardTime hfull hshape hkey hno [1, 2, 3] (by rw [httl]; decide) hnew
    refine ⟨{ s with caches := s.caches.insert 100 (c'.notify key) }, c'.notify key, chain',
      hrun.step _ trivial ?_, find?_insert_self .., ?_, hmax'.trans hmax, ?_, ?_,
      fun x m hm => ?_⟩
    · simp [step, perform, resolvCacheAdd, hinit, hc, hadd]
    · show c'.numEntries = _
      rw [hnum', hnum]
      rfl
    · show c'.missed = _
      rw [hmiss', hnum, hmax, hmiss]
      split <;> omega
    · rw [range_succ, reverse_append]
      exact shape_pending hshape' _
    · have hm' : c'.view.content x = some m := hm
      rw [hcontent'] at hm'
      by_cases hx : x = k
      · rw [hx, update_self] at hm'
        cases hm'
        exact ⟨by rw [hx]; exact hquery, by rw [httl]; rfl⟩
      · rw [update_of_ne hx] at hm'
        exact hcontent x m hm'

/-- If only complete queries are added, no cache exceeds `max_entries`, and an entry to be removed
is always found in the hash table. -/
theorem cache_bounded (hrun : Lts.Run (step parser) (fun _ a => CompleteAdd a) System.init h s) :
    ∀ n c, s.caches.find? n = some c → c.numEntries ≤ c.maxEntries ∧ c.missed = 0 := by
  have hinv : s.Sound ∧ ∀ n c, s.caches.find? n = some c → c.Bounded := by
    refine Lts.Run.invariant
      (I := fun _ s => s.Sound ∧ ∀ n c, s.caches.find? n = some c → c.Bounded) ?_ ?_ hrun
    · refine ⟨sound_init, fun n c hc => ?_⟩
      cases hc
    · rintro h s a s' ⟨hsound, hbounded⟩ ha hstep
      obtain ⟨r, t, hperform, heffect⟩ := perform_effect parser a hsound
      have ht : t = s' := by simpa [step, hperform] using hstep
      subst ht
      exact ⟨heffect.sound hsound, heffect.bounded ha hbounded⟩
  intro n c hc
  exact ⟨(hinv.2 n c hc).numEntries, (hinv.2 n c hc).missed⟩

/-- A query for the address of `a`, with some bytes behind it. -/
def longQuery (k : Nat) : List Byte := sampleQuery 7 ++ List.replicate k 0

theorem checkQuery_longQuery (k : Nat) : (init (longQuery k)).checkQuery = true :=
  checkQuery_append (by decide) (show _ = some ([] ++ []) by decide +kernel) (by decide +kernel)

theorem complete_longQuery (k : Nat) : DnsPacket.Complete (longQuery k) := by
  simp [DnsPacket.Complete, longQuery, sampleQuery, afterRecords, int16At, byteAt, DnsPacket.init,
    dnsHeaderSize, skipEach, skipQuestion, skipLabels, skipBytes]

/-- One more answer is added to a full cache, whose oldest entry makes room. -/
theorem cache_bounded_full :
    ∃ s s' c, Lts.Run (step sampleParser) (fun _ a => CompleteAdd a) System.init
        (.add 100 (longQuery 640) [1, 2, 3] (some 640) hoardTime hoardTime :: fill longQuery 640)
        s' ∧
      Reaches sampleParser (fill longQuery 640) s ∧
      (∃ d, s.caches.find? 100 = some d ∧ d.numEntries = d.maxEntries) ∧
      s'.caches.find? 100 = some c ∧ c.numEntries ≤ c.maxEntries ∧ c.missed = 0 := by
  have hdiffers : ∀ x k, x < k → queryEquals false (longQuery x) (longQuery k) = false := by
    intro x k hlt
    have hlen : (longQuery x).length ≠ (longQuery k).length := by
      simp only [longQuery, length_append, length_replicate]
      omega
    rw [queryEquals, if_pos hlen]
  obtain ⟨s, d, chain, hrun, hd, hnum, hmax, -, hshape, -⟩ :=
    fill_spec sampleParser longQuery (by decide)
    (fun k => by simp [entryInitKey, checkQuery_longQuery]) hdiffers 640
    fun hlt => absurd hlt (lt_irrefl _)
  have hcomplete : ∀ k, ∀ a ∈ fill longQuery k, CompleteAdd a := by
    intro k
    induction k with
    | zero => simp [fill, CompleteAdd]
    | succ k ih =>
      intro a ha
      rcases mem_cons.mp ha with rfl | hrest
      · exact fun _ => complete_longQuery k
      · exact ih a hrest
  obtain ⟨key, hkey⟩ := entryInitKey_eq_some (checkQuery_longQuery 640)
  obtain ⟨c, -, -, hadd, -⟩ := add_spec hshape (isKey_of_entryInitKey hkey).1 sampleParser [1, 2, 3]
    (some 640) hoardTime hoardTime
  have hstep : step sampleParser (.add 100 (longQuery 640) [1, 2, 3] (some 640) hoardTime hoardTime)
      s = some { s with caches := s.caches.insert 100 (c.notify key) } := by
    simp [step, perform, resolvCacheAdd, hkey, hd, hadd]
  have hlast : CompleteAdd (.add 100 (longQuery 640) [1, 2, 3] (some 640) hoardTime hoardTime) :=
    fun _ => complete_longQuery 640
  have hrun' := (hrun.of_forall_mem fun a ha _ => hcomplete 640 a ha).step _ hlast hstep
  exact ⟨s, _, _, hrun', hrun, ⟨d, hd, by rw [hnum, hmax]; rfl⟩, find?_insert_self ..,
    cache_bounded hrun' 100 _ (find?_insert_self ..)⟩

/-- 641 answers at one time make 641 entries, and the oldest is not found in the hash table. -/
theorem hoard_exceeds_bound : (init cutQuery).checkQuery = true ∧
      ∃ s c, Reaches sampleParser (fill (fun _ => cutQuery) 641) s ∧ s.caches.find? 100 = some c ∧
        c.maxEntries < c.numEntries ∧ 0 < c.missed := by
  refine ⟨by decide +kernel, ?_⟩
  have hdiffers : ∀ same, queryEquals same cutQuery cutQuery = false := by decide +kernel
  obtain ⟨s, c, chain, hrun, hc, hnum, hmax, hmiss, -⟩ :=
    fill_spec sampleParser (fun _ => cutQuery) (by decide)
      (fun _ => by decide +kernel) (fun _ _ _ => hdiffers false) 641 fun _ _ => hdiffers true
  refine ⟨s, c, hrun, hc, ?_, ?_⟩
  · rw [hnum, hmax]
    decide
  · rw [hmiss]
    decide

/-! ## Answers that are not cached -/

namespace Cache

variable {c : Cache} {chain : Nat → List Nat} {mru : List Nat} {now : TimeT}
  {content : Nat → Option Content} {a : Nat} {k : Content}

theorem length_unexpired_le (content : Nat → Option Content) (now : TimeT) (l : List Nat) :
    (unexpired content now l).length ≤ l.length := by
  induction l with
  | nil => exact le_refl _
  | cons a rest ih =>
    rw [unexpired]
    split
    · simpa using ih
    · split
      · simpa using ih
      · split
        · exact le_trans ih (Nat.le_succ _)
        · exact le_refl _

theorem mem_unexpired {l : List Nat} (ha : a ∈ l) (hk : content a = some k)
    (hfresh : now.toInt < k.expires.toInt) : a ∈ unexpired content now l := by
  induction l with
  | nil => cases ha
  | cons b rest ih =>
    rw [unexpired]
    rcases mem_cons.mp ha with rfl | hrest
    · rw [hk]
      simp [hfresh]
    · split
      · exact mem_cons_of_mem _ (ih hrest)
      · split
        · exact mem_cons_of_mem _ (ih hrest)
        · split
          · exact ih hrest
          · exact ha

/-- Every entry that has not expired is still there. -/
def Keeps (now : TimeT) (c c' : Cache) : Prop :=
  ∀ a k, c.view.content a = some k → now.toInt < k.expires.toInt → c'.view.content a = some k

theorem keeps_iff {chain' : Nat → List Nat} {mru' : List Nat} {c' : Cache}
    (hshape : Shape c'.view chain' mru') (hfewer : Fewer c c') : Keeps now c c' ↔
      ∀ a k, c.view.content a = some k → now.toInt < k.expires.toInt → a ∈ mru' := by
  refine ⟨fun hkeeps a k hk hfresh => ?_, fun hall a k hk hfresh => ?_⟩
  · exact (hshape.recency.mem_mru a).mpr ⟨k, hkeeps a k hk hfresh⟩
  · obtain ⟨m, hm⟩ := (hshape.recency.mem_mru a).mp (hall a k hk hfresh)
    rw [hm, ← hk, hfewer.content a m hm]

/-- The entries that have expired make no room, and the one that was used least recently of the
others has not expired and is found. -/
def Crowded (c : Cache) (mru : List Nat) (now : TimeT) : Prop :=
  c.maxEntries ≤ (unexpired c.view.content now mru).length ∧
    ∃ a k, (unexpired c.view.content now mru).getLast? = some a ∧ c.view.content a = some k ∧
      queryEquals true k.query k.query = true ∧ now.toInt < k.expires.toInt

theorem makeRoom_keeps (h : Shape c.view chain mru) (now : TimeT) :
    ∃ c' chain' mru', c.makeRoom now = some c' ∧ Shape c'.view chain' mru' ∧
      (Keeps now c c' ↔ ¬ Crowded c mru now) := by
  obtain ⟨c1, chain1, hc1, hshape, hfewer, -⟩ := removeExpired_spec h now
  have hstays : ∀ a k, c.view.content a = some k → now.toInt < k.expires.toInt →
      a ∈ unexpired c.view.content now mru :=
    fun a k hk => mem_unexpired ((h.recency.mem_mru a).mpr ⟨k, hk⟩) hk
  have hnum : c1.numEntries = (unexpired c.view.content now mru).length := hshape.recency.num
  have hmax := hfewer.maxEntries
  by_cases hfull : c1.numEntries ≥ c1.maxEntries
  · obtain ⟨c2, chain2, mru2, hc2, hshape2, hfewer2, -, hremoved⟩ := removeOldest_spec hshape
    refine ⟨c2, chain2, mru2, by simp [makeRoom, hc1, hfull, hc2], hshape2, ?_⟩
    rw [keeps_iff hshape2 (hfewer.trans hfewer2).toFewer, Crowded]
    have hle : c.maxEntries ≤ (unexpired c.view.content now mru).length := by omega
    generalize unexpired c.view.content now mru = l at hle hstays hshape hremoved
    cases hremoved with
    | empty => simpa using hstays
    | @missing m b k hk hself =>
      have hk' := hfewer.content b k hk
      simp [hk', hself]
      exact fun a k hk hfresh => by simpa using hstays a k hk hfresh
    | @found _ b k hk hself =>
      have hk' := hfewer.content b k hk
      have hout : b ∉ mru2 := by
        have hnodup := hshape.recency.nodup
        rw [nodup_append] at hnodup
        exact fun hb => hnodup.2.2 b hb b mem_cons_self rfl
      constructor
      · rintro hall ⟨-, a, m, hlast, hm, -, hfresh⟩
        obtain rfl : b = a := by simpa using hlast
        exact hout (hall b m hm hfresh)
      · intro hnot a m hm hfresh
        rcases mem_append.mp (hstays a m hm hfresh) with hin | hlast
        · exact hin
        · obtain rfl := mem_singleton.mp hlast
          obtain rfl : k = m := some_inj.mp (hk'.symm.trans hm)
          exact absurd ⟨hle, a, k, by simp, hm, hself, hfresh⟩ hnot
  · refine ⟨c1, chain1, _, by simp [makeRoom, hc1, hfull], hshape, ?_⟩
    rw [keeps_iff hshape hfewer.toFewer]
    refine ⟨fun _ hcrowded => ?_, fun _ => hstays⟩
    have hle := hcrowded.1
    omega

end Cache

/-- A parser for which the empty answer is malformed. -/
def pickyParser : NsParser :=
  ⟨fun answer => if answer = [] then none else sampleParser.nsInitparse answer, fun _ => none⟩

def crowd (k : Nat) : List Byte := if k = 0 then sampleQuery 7 else cutQuery

end Netd.ResCache
