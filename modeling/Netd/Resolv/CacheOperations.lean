import Netd.Resolv.CacheTable

/-!
# The operations of the cache

Each operation of `res_cache.cpp` on a sound cache has a result, and the cache it leaves is sound.
A lookup and the removals bring no new entries, and `add` at most the one that was asked for.
-/

namespace Netd.ResCache

open Option Slot

open Function (update update_eq_self update_idem update_of_ne update_self)

open Links List Cache Netd.ResCache.System

namespace Cache

variable {c : Cache} {chain : Nat → List Nat} {mru l₁ l₂ m₁ m₂ : List Nat} {a i : Nat}

/-! ## Moving an entry to the front -/

theorem bump_spec (h : Shape c.view chain (m₁ ++ a :: m₂)) :
    ∃ c1 c', c.entryMruRemove a = some c1 ∧ c1.entryMruAdd a = some c' ∧
      Shape c'.view chain (a :: (m₁ ++ m₂)) ∧ Shrinks c c' ∧ c'.missed = c.missed := by
  obtain ⟨k, hk⟩ := (h.recency.mem_mru a).mp (by simp)
  obtain ⟨c1, hc1, hv1⟩ := entryMruRemove_view h.recency
  have hring1 : Ring c1.view.next c1.view.prev none ((m₁ ++ m₂).map some) := by
    rw [hv1]
    exact h.recency.ring_remove
  have hcontent1 : c1.view.content = c.view.content := by rw [hv1]
  have hfirst : Valid c1.view (c1.view.next none) := by
    refine valid_next_head hring1 fun b hb => ?_
    rw [hcontent1, ← h.recency.mem_mru]
    simp only [mem_append] at hb ⊢
    tauto
  have ha1 : (c1.view.content a).isSome := by
    rw [hcontent1, hk]
    rfl
  obtain ⟨c2, hc2, hv2⟩ := entryMruAdd_view ha1 hfirst
  have hnotin : some a ∉ none :: (m₁ ++ m₂).map some := by
    simpa using h.recency.not_mem_removed
  have hring2 := hring1.insert hnotin
  have hcontent2 : c2.view.content = c.view.content := by rw [hv2, hv1]
  have hlink2 : c2.view.link = c.view.link := by rw [hv2, hv1]
  have hmax2 : c2.view.maxEntries = c.view.maxEntries := by rw [hv2, hv1]
  have hnum2 : c2.view.numEntries = c.view.numEntries := by rw [hv2, hv1]
  have hpending2 : c2.view.pendingRequests = c.view.pendingRequests := by rw [hv2, hv1]
  have hmiss2 : c2.view.missed = c.view.missed := by rw [hv2, hv1]
  refine ⟨c1, c2, hc1, hc2, ⟨⟨?_, h.table.nodup, ?_⟩, ⟨?_, ?_, ?_⟩, ?_⟩,
    ⟨⟨?_, hmax2, le_of_eq hnum2⟩, hpending2⟩, hmiss2⟩
  · rw [hlink2]
    exact h.table.chains
  · rw [hcontent2, hmax2]
    exact h.table.mem_chain
  · rw [hv2]
    exact hring2
  · intro b
    rw [hcontent2, ← h.recency.mem_mru]
    simp only [mem_append, mem_cons]
    tauto
  · rw [hnum2, h.recency.num]
    simp only [length_append, length_cons]
    omega
  · rw [hcontent2]
    exact h.keyed
  · intro b m hm
    rwa [hcontent2] at hm

/-! ## Additions -/

/-- A search key of a query that can be cached. -/
structure IsKey (key : Entry) : Prop where
  hash : key.hash = entryHash key.query
  checked : (DnsPacket.init key.query).checkQuery = true

variable {key : Entry}

theorem isKey_of_entryInitKey {query : List Byte} (h : entryInitKey query = some key) :
    IsKey key ∧ key.query = query := by
  simp only [entryInitKey] at h
  split at h
  · rename_i hchecked
    cases h
    exact ⟨⟨rfl, hchecked⟩, rfl⟩
  · cases h

def newContent (key : Entry) (answer : List Byte) (ttl : BitVec 32) (now : TimeT) : Content :=
  ⟨key.hash, key.query, answer, ttl.setWidth 64 + now⟩

/-- The number of an entry is only for the log: the view does not have it. -/
theorem modify_id_view {k : Content} (hk : c.view.content a = some k) (id : Int) :
    ∃ c', (c.modify a fun e => { e with id := id }) = some c' ∧ c'.view = c.view := by
  obtain ⟨e, he, hcontent, hlink, hnext, hprev⟩ := find?_of_content hk
  refine ⟨_, by rw [modify, he, map_some], ?_⟩
  have hsame : Entry.content { e with id := id } = k := hcontent
  rw [view_insert, hsame, ← hk]
  simp only [hlink, hnext, hprev, update_eq_self]

/-- `_cache_add_p` links a block in at the end of a chain and at the front of the MRU list. -/
theorem addP_view {k : Content} {slot : Slot} (hslot : ValidSlot c.view slot)
    (hk : c.view.content a = some k) (hfirst : Valid c.view (c.view.next none)) :
    ∃ c', c.addP slot a = some c' ∧ c'.view =
      { c.view with
        link := update c.view.link slot (some a)
        next := update (update c.view.next (some a) (c.view.next none)) none
          (some a)
        prev := update (update c.view.prev (some a) none) (c.view.next none)
          (some a)
        numEntries := c.numEntries + 1 } := by
  obtain ⟨c1, hc1, hv1⟩ := write_view (some a) hslot
  have hk1 : (view { c1 with lastId := c1.lastId + 1 }).content a = some k := by
    show c1.view.content a = some k
    rw [hv1]
    exact hk
  obtain ⟨c2, hc2, hv2⟩ := modify_id_view hk1 (c1.lastId + 1)
  replace hv2 : c2.view = c1.view := hv2
  rw [hv1] at hv2
  have ha2 : (c2.view.content a).isSome := by
    rw [hv2, hk]
    rfl
  have hfirst2 : Valid c2.view (c2.view.next none) := by
    rw [hv2]
    exact hfirst
  obtain ⟨c3, hc3, hv3⟩ := entryMruAdd_view ha2 hfirst2
  rw [hv2] at hv3
  have hnum3 : c3.numEntries = c.numEntries := congrArg View.numEntries hv3
  refine ⟨{ c3 with numEntries := c3.numEntries + 1 }, ?_, ?_⟩
  · simp only [addP, hc1, hc2, hc3, bind_eq_bind, bind_some]
  · show { c3.view with numEntries := c3.numEntries + 1 } = _
    rw [hv3, hnum3]

/-- `_cache_add_p`, with the new block. -/
theorem addP_spec (h : Shape c.view chain mru) (hkey : IsKey key)
    (hno : ∀ b, ¬ Matches c.view key none b) (hnew : c.view.content a = none) (answer : List Byte)
    (ttl : BitVec 32) (now : TimeT) :
    ∃ c' chain', ({ c with mem := c.mem.insert a { entryAlloc key answer with
          expires := ttl.setWidth 64 + now } } : Cache).addP
        (endSlot hlink (.head (key.hash.toNat % c.maxEntries))
          (chain (key.hash.toNat % c.maxEntries))) a = some c' ∧
      Shape c'.view chain' (a :: mru) ∧
      c'.view.content = update c.view.content a (some (newContent key answer ttl now)) ∧
      c'.maxEntries = c.maxEntries ∧ c'.pendingRequests = c.pendingRequests ∧
      c'.missed = c.missed ∧ c'.numEntries = c.numEntries + 1 := by
  set e : Entry := { entryAlloc key answer with expires := ttl.setWidth 64 + now } with he
  set c0 : Cache := { c with mem := c.mem.insert a e } with hc0
  set i := key.hash.toNat % c.maxEntries with hi
  have hv0 := view_insert c a e
  have hcontent0 : c0.view.content =
      update c.view.content a (some (newContent key answer ttl now)) := by rw [hv0]; rfl
  have hk0 : c0.view.content a = some (newContent key answer ttl now) := by
    rw [hcontent0, update_self]
  have hslot : ValidSlot c0.view (endSlot hlink (.head i) (chain i)) := by
    intro b hb
    have hmem := h.table.validSlot (i := i) endSlot_mem_slots b hb
    rw [hcontent0]
    by_cases hba : b = a
    · rw [hba, update_self]
      rfl
    · rwa [update_of_ne hba]
  -- The block is not linked in yet.
  have hfresh := h.recency.not_mem_of_new hnew
  have hout : some a ∉ none :: mru.map some := by simpa using hfresh
  have hring0 : Ring c0.view.next c0.view.prev none (mru.map some) := by
    rw [hv0]
    exact h.recency.ring.update_of_not_mem hout _ _
  have hfirst : Valid c0.view (c0.view.next none) := by
    refine valid_next_head hring0 fun b hb => ?_
    rw [hcontent0, update_of_ne (by rintro rfl; exact hfresh hb), ← h.recency.mem_mru]
    exact hb
  obtain ⟨c', hc', hv'⟩ := addP_view hslot hk0 hfirst
  have hcontent : c'.view.content =
      update c.view.content a (some (newContent key answer ttl now)) := by
    rw [hv']
    exact hcontent0
  have hmax : c'.maxEntries = c.maxEntries := congrArg View.maxEntries hv'
  have hnum : c'.numEntries = c.numEntries + 1 := congrArg View.numEntries hv'
  refine ⟨c', update chain i (chain i ++ [a]), hc', ⟨?_, ?_, ?_⟩, hcontent, hmax,
    congrArg View.pendingRequests hv', congrArg View.missed hv', hnum⟩
  · refine h.table.append hnew (k := newContent key answer ttl now) rfl ?_ hcontent hmax
    rw [hv', hv0]
    rfl
  · refine h.recency.insert ?_ hcontent hnum
    rw [hv']
    exact hring0.insert hout
  · rw [hcontent]
    refine h.keyed.insert a hkey.hash hkey.checked fun b m hb heq => ?_
    by_contra hequal
    exact hno b ⟨m, hb, heq, by simpa [newContent] using hequal⟩

/-- What an operation that may add one entry does to the rest of the cache. -/
structure Grows (c c' : Cache) (added : Content → Prop) : Prop where
  content : ∀ a k, c'.view.content a = some k → c.view.content a = some k ∨ added k
  maxEntries : c'.maxEntries = c.maxEntries
  pendingRequests : c'.pendingRequests = c.pendingRequests

theorem Shrinks.grows {c' : Cache} (h : Shrinks c c') (added : Content → Prop) :
    Grows c c' added := ⟨fun a k hk => .inl (h.content a k hk), h.maxEntries, h.pendingRequests⟩

/-- The entries that an addition of an answer can bring. -/
def Added (key : Entry) (answer : List Byte) (ttl : BitVec 32) (now : TimeT) (k : Content) : Prop :=
  0 < ttl ∧ k = newContent key answer ttl now

/-- The end of `_resolv_cache_add`. -/
theorem store_spec (h : Shape c.view chain mru) (hkey : IsKey key)
    (hno : ∀ b, ¬ Matches c.view key none b) (answer : List Byte) (ttl : BitVec 32)
    (block : Option Nat) (now : TimeT) :
    ∃ c' chain' mru',
      c.store (endSlot hlink (.head (key.hash.toNat % c.maxEntries))
        (chain (key.hash.toNat % c.maxEntries))) key answer ttl block now = some c' ∧
      Shape c'.view chain' mru' ∧ Grows c c' (Added key answer ttl now) ∧ c'.missed = c.missed ∧
      c'.numEntries ≤ c.numEntries + 1 := by
  have hsame : ∃ chain' mru', Shape c.view chain' mru' ∧
      Grows c c (Added key answer ttl now) ∧ c.missed = c.missed ∧
      c.numEntries ≤ c.numEntries + 1 :=
    ⟨chain, mru, h, (Shrinks.refl c).grows _, rfl, by omega⟩
  unfold store
  split
  · rename_i httl
    cases block with
    | none => exact ⟨c, hsame.imp fun _ => Exists.imp fun _ hs => ⟨rfl, hs⟩⟩
    | some a =>
      by_cases hused : c.mem.contains a = true
      · simp only [hused]
        exact ⟨c, hsame.imp fun _ => Exists.imp fun _ hs => ⟨rfl, hs⟩⟩
      simp only [hused]
      have hnew : c.view.content a = none := by
        have hnone : c.mem.find? a = none := by simpa [OrdMap.contains] using hused
        simp [view, hnone]
      obtain ⟨c', chain', hc', hshape, hcontent, hmax, hpending, hmiss, hnum⟩ :=
        addP_spec h hkey hno hnew answer ttl now
      refine ⟨c', chain', a :: mru, hc', hshape, ⟨fun b k hk => ?_, hmax, hpending⟩,
        hmiss, le_of_eq hnum⟩
      rw [hcontent] at hk
      by_cases hb : b = a
      · rw [hb, update_self] at hk
        exact .inr ⟨httl, (some.inj hk).symm⟩
      · rw [update_of_ne hb] at hk
        exact .inl hk
  · exact ⟨c, hsame.imp fun _ => Exists.imp fun _ hs => ⟨rfl, hs⟩⟩

/-- Room is made in a full cache. -/
theorem makeRoom_spec (h : Shape c.view chain mru) (now : TimeT) :
    ∃ c' chain' mru', c.makeRoom now = some c' ∧ Shape c'.view chain' mru' ∧ Shrinks c c' ∧
      (SelfEqual c → 0 < c.maxEntries → c.numEntries ≤ c.maxEntries →
        c'.missed = c.missed ∧ c'.numEntries < c.maxEntries) := by
  obtain ⟨c1, chain1, hc1, hshape1, hshrinks1, hmiss1⟩ := removeExpired_spec h now
  by_cases hfull : c1.numEntries ≥ c1.maxEntries
  · obtain ⟨c2, chain2, mru2, hc2, hshape2, hshrinks2, hbound, -⟩ := removeOldest_spec hshape1
    refine ⟨c2, chain2, mru2, ?_, hshape2, hshrinks1.trans hshrinks2, fun hall hpos hle => ?_⟩
    · simp [makeRoom, hc1, hfull, hc2]
    · have hnum1 : c1.numEntries = (unexpired c.view.content now mru).length :=
        hshape1.recency.num
      have hne : unexpired c.view.content now mru ≠ [] := by
        intro hnil
        rw [hshrinks1.maxEntries, hnum1, hnil] at hfull
        simp only [length_nil] at hfull
        omega
      obtain ⟨hmiss2, hnum2⟩ := hbound (hall.mono hshrinks1.toFewer) hne
      have hle1 := hshrinks1.numEntries
      exact ⟨hmiss2.trans (hmiss1 hall), by omega⟩
  · refine ⟨c1, chain1, _, ?_, hshape1, hshrinks1, fun hall _ _ => ⟨hmiss1 hall, ?_⟩⟩
    · simp [makeRoom, hc1, hfull]
    · rw [hshrinks1.maxEntries] at hfull
      omega

/-- A key that is looked up: the entry behind the slot matches it, or no entry does. -/
theorem lookupP_key (h : Table c.view chain) (key : Entry) :
    ∃ slot found, c.lookupP key none = some slot ∧ c.read slot = some found ∧
      match found with
      | none => slot = endSlot hlink (.head (key.hash.toNat % c.maxEntries))
            (chain (key.hash.toNat % c.maxEntries)) ∧
          ∀ b, ¬ Matches c.view key none b
      | some a => Matches c.view key none a ∧ ∃ l₁ l₂,
          chain (key.hash.toNat % c.maxEntries) = l₁ ++ a :: l₂ ∧
          slot = endSlot hlink (.head (key.hash.toNat % c.maxEntries)) l₁ := by
  obtain ⟨l₁, l₂, hsplit, hlook, hread, hno, hyes⟩ := lookupP_spec h key none
  refine ⟨_, _, hlook, hread, ?_⟩
  cases l₂ with
  | nil =>
    rw [append_nil] at hsplit
    exact ⟨by rw [hsplit], no_match_of_chain h key none (hsplit ▸ hno)⟩
  | cons a l₂ => exact ⟨hyes a rfl, l₁, l₂, hsplit, rfl⟩

/-- `_resolv_cache_add` on a cache. -/
theorem add_spec (h : Shape c.view chain mru) (hkey : IsKey key) (parser : NsParser)
    (answer : List Byte) (block : Option Nat) (now now' : TimeT) :
    ∃ c' chain' mru', c.add parser key answer block now now' = some c' ∧
      Shape c'.view chain' mru' ∧
      Grows c c' (Added key answer (answerGetTTL parser answer) now') ∧
      (SelfEqual c → 0 < c.maxEntries → c.numEntries ≤ c.maxEntries →
        c'.missed = c.missed ∧ c'.numEntries ≤ c.maxEntries) := by
  obtain ⟨slot, found, hlook, hread, hfound⟩ := lookupP_key h.table key
  cases found with
  | some a =>
    refine ⟨c, chain, mru, ?_, h, (Shrinks.refl c).grows _, fun _ _ hle => ⟨rfl, hle⟩⟩
    simp [add, hlook, hread]
  | none =>
    obtain ⟨rfl, hno⟩ := hfound
    by_cases hfull : c.numEntries ≥ c.maxEntries
    · obtain ⟨c1, chain1, mru1, hc1, hshape1, hshrinks1, hroom⟩ := makeRoom_spec h now
      obtain ⟨slot1, found1, hlook1, hread1, hfound1⟩ := lookupP_key hshape1.table key
      cases found1 with
      | some a =>
        refine ⟨c1, chain1, mru1, ?_, hshape1, hshrinks1.grows _, fun hall hpos hle => ?_⟩
        · simp [add, hlook, hread, hfull, hc1, hlook1, hread1]
        · obtain ⟨hmiss, hlt⟩ := hroom hall hpos hle
          exact ⟨hmiss, le_of_lt hlt⟩
      | none =>
        obtain ⟨rfl, hno1⟩ := hfound1
        obtain ⟨c2, chain2, mru2, hc2, hshape2, hgrows, hmiss2, hnum2⟩ :=
          store_spec hshape1 hkey hno1 answer (answerGetTTL parser answer) block now'
        refine ⟨c2, chain2, mru2, ?_, hshape2, ⟨fun a k hk => (hgrows.content a k hk).imp_left
          (hshrinks1.content a k), hgrows.maxEntries.trans hshrinks1.maxEntries,
          hgrows.pendingRequests.trans hshrinks1.pendingRequests⟩, fun hall hpos hle => ?_⟩
        · simp [add, hlook, hread, hfull, hc1, hlook1, hread1, hc2]
        · obtain ⟨hmiss, hlt⟩ := hroom hall hpos hle
          exact ⟨hmiss2.trans hmiss, by omega⟩
    · obtain ⟨c2, chain2, mru2, hc2, hshape2, hgrows, hmiss2, hnum2⟩ :=
        store_spec h hkey hno answer (answerGetTTL parser answer) block now'
      refine ⟨c2, chain2, mru2, ?_, hshape2, hgrows, fun _ _ _ => ⟨hmiss2, by omega⟩⟩
      simp [add, hlook, hread, hfull, hc2]

/-! ## Lookups -/

/-- An answer that a lookup may return: of a matching entry that is not stale and fits into the
buffer. -/
def Answers (c : Cache) (key : Entry) (answersize : Int) (now : TimeT) (r : LookupResult) : Prop :=
  r.status = .found → ∃ a k, c.view.content a = some k ∧ k.hash = key.hash ∧
    queryEquals false k.query key.query = true ∧ now.toInt < k.expires.toInt ∧
    r.written = k.answer ∧ r.answerlen = some k.answer.length ∧
    (k.answer.length : Int) ≤ answersize

theorem answers_of_miss {answersize : Int} {now : TimeT} {r : LookupResult}
    (h : r.status ≠ .found) : Answers c key answersize now r := fun hfound => absurd hfound h

/-- What a lookup does with the slot it has found. -/
theorem takeAnswer_spec (h : Shape c.view chain mru) {slot : Slot}
    (hlook : c.lookupP key none = some slot) (answersize : Int) (now : TimeT) :
    ∃ r c' chain' mru', c.takeAnswer slot answersize now = some (r, c') ∧
      Shape c'.view chain' mru' ∧ Shrinks c c' ∧ c'.missed = c.missed ∧
      Answers c key answersize now r := by
  obtain ⟨slot', found, hlook', hread, hfound⟩ := lookupP_key h.table key
  rw [hlook] at hlook'
  cases hlook'
  cases found with
  | none =>
    refine ⟨.miss .notfound, c, chain, mru, ?_, h, .refl c, rfl,
      answers_of_miss (by simp [LookupResult.miss])⟩
    simp [takeAnswer, hread]
  | some a =>
    obtain ⟨⟨k, hk, hhash, hequal⟩, l₁, l₂, hsplit, rfl⟩ := hfound
    obtain ⟨e, he, hcontent, -⟩ := find?_of_content hk
    obtain ⟨m₁, m₂, rfl⟩ := append_of_mem ((h.recency.mem_mru _).mpr ⟨k, hk⟩)
    have hexpires : e.expires = k.expires := by rw [← hcontent]; rfl
    have hanswer : e.answer = k.answer := by rw [← hcontent]; rfl
    by_cases hstale : now.toInt ≥ k.expires.toInt
    · obtain ⟨c', hc', hshape, hshrinks, hmiss, -⟩ := removeP_spec h hsplit
      refine ⟨.miss .notfound, c', _, _, ?_, hshape, hshrinks, hmiss,
        answers_of_miss (by simp [LookupResult.miss])⟩
      simp [takeAnswer, hread, he, hexpires, hstale, hc']
    · by_cases hlong : (k.answer.length : Int) > answersize
      · refine ⟨⟨.unsupported, some k.answer.length, []⟩, c, chain, _, ?_, h, .refl c, rfl,
          answers_of_miss (by simp)⟩
        simp [takeAnswer, hread, he, hexpires, hanswer, hstale, hlong]
      have hanswers : Answers c key answersize now
          ⟨.found, some k.answer.length, k.answer⟩ := fun _ =>
        ⟨a, k, hk, hhash, by simpa using hequal, not_le.mp hstale, rfl, rfl, not_lt.mp hlong⟩
      by_cases hfirst : c.mruNext = some a
      · refine ⟨_, c, chain, _, ?_, h, .refl c, rfl, hanswers⟩
        simp [takeAnswer, hread, he, hexpires, hanswer, hstale, hlong, hfirst]
      obtain ⟨c1, c', hc1, hc', hshape, hshrinks, hmiss⟩ := bump_spec h
      refine ⟨_, c', chain, _, ?_, hshape, hshrinks, hmiss, hanswers⟩
      simp [takeAnswer, hread, he, hexpires, hanswer, hstale, hlong, hfirst, hc1, hc']

theorem shape_pending (h : Shape c.view chain mru) (l : List PendingReqInfo) :
    Shape ({ c with pendingRequests := l } : Cache).view chain mru :=
  ⟨⟨h.table.chains, h.table.nodup, h.table.mem_chain⟩,
    ⟨h.recency.ring, h.recency.mem_mru, h.recency.num⟩, h.keyed⟩

/-- A lookup leaves the pending requests, adds its own if there is none for its hash, or waits for
that one. -/
inductive Pends (c : Cache) (key : Entry) (flags : Flags) (caller : Nat) :
    LookupOutcome → List PendingReqInfo → Prop where
  | answered (r : LookupResult) : Pends c key flags caller (.returned r) c.pendingRequests
  | requested : flags.noCacheStore = false → (∀ ri ∈ c.pendingRequests, ri.hash ≠ key.hash) →
      Pends c key flags caller (.returned (.miss .notfound))
        (c.pendingRequests ++ [⟨key.hash, caller⟩])
  | waits {ri : PendingReqInfo} : ri ∈ c.pendingRequests →
      Pends c key flags caller (.waits ri) c.pendingRequests

/-- `_resolv_cache_lookup` on a cache, up to the wait. -/
theorem lookup_spec (h : Shape c.view chain mru) (key : Entry) (answersize : Int) (flags : Flags)
    (caller : Nat) (alloc : Bool) (now : TimeT) :
    ∃ outcome c' chain' mru',
      c.lookup key answersize flags caller alloc now = some (outcome, c') ∧
      Shape c'.view chain' mru' ∧ Fewer c c' ∧ c'.missed = c.missed ∧
      Pends c key flags caller outcome c'.pendingRequests ∧
      ∀ r, outcome = .returned r → Answers c key answersize now r := by
  obtain ⟨slot, found, hlook, hread, -⟩ := lookupP_key h.table key
  cases found with
  | some a =>
    obtain ⟨r, c', chain', mru', htake, hshape, hshrinks, hmissed, hanswers⟩ :=
      takeAnswer_spec h hlook answersize now
    refine ⟨.returned r, c', chain', mru', ?_, hshape, hshrinks.toFewer, hmissed,
      hshrinks.pendingRequests ▸ .answered r, ?_⟩
    · simp [lookup, hlook, hread, htake]
    · rintro r' hr
      cases hr
      exact hanswers
  | none =>
    by_cases hstore : flags.noCacheStore = true
    · refine ⟨.returned (.miss .skip), c, chain, mru, ?_, h, .refl c, rfl, .answered _, ?_⟩
      · simp [lookup, hlook, hread, hstore]
      · rintro r hr
        cases hr
        exact answers_of_miss (by simp [LookupResult.miss])
    · cases hpending : c.pendingRequests.find? fun ri => ri.hash = key.hash with
      | some ri =>
        refine ⟨.waits ri, c, chain, mru, ?_, h, .refl c, rfl,
          .waits (mem_of_find?_eq_some hpending), ?_⟩
        · simp [lookup, hlook, hread, hstore, checkPendingRequest, hpending]
        · rintro r hr
          cases hr
      | none =>
        have hmiss : ∀ r, LookupOutcome.returned (.miss .notfound) = .returned r →
            Answers c key answersize now r := by
          rintro r hr
          cases hr
          exact answers_of_miss (by simp [LookupResult.miss])
        cases alloc with
        | true =>
          refine ⟨.returned (.miss .notfound), _, chain, mru, ?_,
            shape_pending h (c.pendingRequests ++ [⟨key.hash, caller⟩]),
            ⟨fun _ _ hk => hk, rfl, le_refl _⟩, rfl, .requested (by simpa using hstore) ?_,
            hmiss⟩
          · simp [lookup, hlook, hread, hstore, checkPendingRequest, hpending]
          · intro ri hri
            simpa using List.find?_eq_none.mp hpending ri hri
        | false =>
          refine ⟨.returned (.miss .notfound), c, chain, mru, ?_, h, .refl c, rfl,
            .answered _, hmiss⟩
          simp [lookup, hlook, hread, hstore, checkPendingRequest, hpending]

/-- `_resolv_cache_lookup` after the wait. -/
theorem lookupAgain_spec (h : Shape c.view chain mru) (key : Entry) (answersize : Int)
    (now : TimeT) :
    ∃ r c' chain' mru', c.lookupAgain key answersize now = some (r, c') ∧
      Shape c'.view chain' mru' ∧ Shrinks c c' ∧ c'.missed = c.missed ∧
      Answers c key answersize now r := by
  obtain ⟨slot, found, hlook, -, -⟩ := lookupP_key h.table key
  obtain ⟨r, c', chain', mru', htake, hres⟩ := takeAnswer_spec h hlook answersize now
  exact ⟨r, c', chain', mru', by simp [lookupAgain, hlook, htake], hres⟩

/-! ## Flushing -/

/-- The entries of one chain are freed, from the first one on. -/
theorem flushChain_spec {fuel : Nat} {l : List Nat} (h : Table c.view chain) (hl : chain i = l)
    (hfuel : l.length ≤ fuel) :
    ∃ c', c.flushChain i fuel = some c' ∧ Table c'.view (update chain i []) ∧
      c'.maxEntries = c.maxEntries ∧ c'.missed = c.missed := by
  induction l generalizing c chain fuel with
  | nil =>
    have hsplit : chain i = [] ++ [] := hl
    have hhead : c.entries i = none := h.link_endSlot hsplit
    refine ⟨c, ?_, ?_, rfl, rfl⟩
    · unfold flushChain
      simp [hhead]
    · rw [← hl, update_eq_self]
      exact h
  | cons a l ih =>
    obtain ⟨fuel, rfl⟩ : ∃ n, fuel = n + 1 :=
      Nat.exists_eq_succ_of_ne_zero (Nat.ne_of_gt (Nat.lt_of_lt_of_le (Nat.succ_pos _) hfuel))
    have hsplit : chain i = [] ++ a :: l := hl
    have hhead : c.entries i = some a := h.link_endSlot hsplit
    obtain ⟨k, hk, -⟩ := (h.mem_chain i a).mp (by simp [hl])
    obtain ⟨e, he, -, hlink, -⟩ := find?_of_content hk
    have hval : ValidSlot c.view (.head i) := by
      intro b hb
      cases hb
    obtain ⟨c1, hc1, hv1⟩ := write_view e.hlink hval
    have hview := view_erase c1 a
    rw [hv1] at hview
    have htable : Table ({ c1 with mem := c1.mem.erase a } : Cache).view
        (update chain i ([] ++ l)) := by
      refine h.remove hsplit ?_ (by rw [hview]) (by rw [hview])
      rw [hview, hlink]
      rfl
    obtain ⟨c2, hc2, htable2, hmax2, hmiss2⟩ :=
      ih htable (update_self ..) (Nat.le_of_succ_le_succ hfuel)
    refine ⟨c2, ?_, ?_, ?_, ?_⟩
    · unfold flushChain
      simp only [hhead, he, hc1, bind_eq_bind, bind_some]
      exact hc2
    · rwa [update_idem] at htable2
    · rw [hmax2]
      exact congrArg View.maxEntries hv1
    · rw [hmiss2]
      exact congrArg View.missed hv1

theorem flushChains_spec (indices : List Nat) (h : Table c.view chain) :
    ∃ c' chain', c.flushChains indices = some c' ∧ Table c'.view chain' ∧
      (∀ i, i ∈ indices ∨ chain i = [] → chain' i = []) ∧ c'.maxEntries = c.maxEntries ∧
      c'.missed = c.missed := by
  induction indices generalizing c chain with
  | nil => exact ⟨c, chain, rfl, h, by simp, rfl, rfl⟩
  | cons nn indices ih =>
    have hlen := length_le_of_content (h.nodup nn) fun a ha =>
      ((h.mem_chain nn a).mp ha).imp fun _ hk => hk.1
    obtain ⟨c1, hc1, htable1, hmax1, hmiss1⟩ := flushChain_spec h rfl (Nat.le_succ_of_le hlen)
    obtain ⟨c2, chain2, hc2, htable2, hempty2, hmax2, hmiss2⟩ := ih htable1
    refine ⟨c2, chain2, ?_, htable2, fun i hi => ?_, hmax2.trans hmax1, hmiss2.trans hmiss1⟩
    · simp only [flushChains, foldlM_cons, hc1]
      exact hc2
    · refine hempty2 i ?_
      by_cases hnn : i = nn
      · exact .inr (by rw [hnn, update_self])
      rcases hi with hmem | hnil
      · exact .inl ((mem_cons.mp hmem).resolve_left hnn)
      · exact .inr (by rw [update_of_ne hnn, hnil])

/-- `cache_flush_locked` leaves an empty cache and frees every entry. -/
theorem flush_spec (h : Table c.view chain) (hpos : 0 < c.maxEntries) :
    ∃ c', c.flush = some c' ∧ Shape c'.view (fun _ => []) [] ∧ (∀ a, c'.view.content a = none) ∧
      c'.pendingRequests = [] ∧ c'.numEntries = 0 ∧ c'.maxEntries = c.maxEntries ∧
      c'.missed = c.missed := by
  obtain ⟨c1, chain1, hc1, htable1, hempty1, hmax1, hmiss1⟩ :=
    flushChains_spec (List.range c.maxEntries) h
  have hnone : ∀ a, c1.view.content a = none := by
    intro a
    cases hk : c1.view.content a with
    | none => rfl
    | some k =>
      have hbucket : k.hash.toNat % c1.view.maxEntries ∈ List.range c.maxEntries := by
        rw [show c1.view.maxEntries = c.maxEntries from hmax1, mem_range]
        exact Nat.mod_lt _ hpos
      have hmem := (htable1.mem_chain _ a).mpr ⟨k, hk, rfl⟩
      rw [hempty1 _ (.inl hbucket)] at hmem
      cases hmem
  have hchains : ∀ i, chain1 i = [] := by
    intro i
    rw [eq_nil_iff_forall_not_mem]
    intro a ha
    obtain ⟨k, hk, -⟩ := (htable1.mem_chain i a).mp ha
    rw [hnone] at hk
    cases hk
  let c2 : Cache :=
    { c1 with
      pendingRequests := [], mruPrev := none, mruNext := none, numEntries := 0, lastId := 0 }
  have hc2 : c.flush = some c2 := by
    simp only [flush, hc1]
    rfl
  have hnone2 : ∀ a, c2.view.content a = none := hnone
  refine ⟨c2, hc2,
    ⟨⟨fun i => ?_, by simp, fun i a => ?_⟩, ⟨ring_nil rfl rfl, fun a => ?_, rfl⟩, ⟨?_, ?_, ?_⟩⟩,
    hnone, rfl, rfl, hmax1, hmiss1⟩
  · have hchain := htable1.chains i
    rwa [hchains i] at hchain
  · have hmem := htable1.mem_chain i a
    rwa [hchains i] at hmem
  · simp [hnone2]
  · simp [hnone2]
  · simp [hnone2]
  · simp [hnone2]

/-! ## Sound caches -/

structure Sound (c : Cache) : Prop where
  maxEntries : c.maxEntries = configMaxEntries
  shape : ∃ chain mru, Shape c.view chain mru

theorem sound_create : Sound create := by
  refine ⟨rfl, fun _ => [], [], ⟨fun i => chain_nil.mpr rfl, by simp, fun i a => ?_⟩,
    ⟨ring_nil rfl rfl, fun a => ?_, rfl⟩, ⟨?_, ?_, ?_⟩⟩
  · simp [create, view]
  · simp [create, view]
  · intro a k hk
    simp [create, view] at hk
  · intro a k hk
    simp [create, view] at hk
  · intro a b k m hk
    simp [create, view] at hk

theorem Sound.pos (h : Sound c) : 0 < c.maxEntries := by
  rw [h.maxEntries]
  decide

theorem Sound.notify (h : Sound c) (key : Entry) : Sound (c.notify key) := by
  obtain ⟨chain, mru, hshape⟩ := h.shape
  exact ⟨h.maxEntries, chain, mru, shape_pending hshape _⟩

/-- The structure of a cache, with the chains of its buckets and its MRU list. -/
structure WellFormed (c : Cache) (chain : Nat → List Nat) (mru : List Nat) : Prop where
  chains : ∀ i < c.maxEntries, Chain c.view.link Slot.hlink (.head i) (chain i)
  ring : Ring c.view.next c.view.prev none (mru.map some)
  num_chains : c.numEntries = ((List.range c.maxEntries).map fun i => (chain i).length).sum
  num_mru : c.numEntries = mru.length
  perm : mru.Perm ((List.range c.maxEntries).flatMap chain)
  bucket : ∀ i < c.maxEntries, ∀ a ∈ chain i, ∃ e, c.mem.find? a = some e ∧
    e.hash.toNat % c.maxEntries = i ∧ e.hash = entryHash e.query
  distinct : ∀ a ∈ mru, ∀ b ∈ mru, a ≠ b → ∀ e f, c.mem.find? a = some e →
    c.mem.find? b = some f → ¬ (e.hash = f.hash ∧ entryEquals false e f = true)

theorem perm_chains (h : Shape c.view chain mru) (hpos : 0 < c.maxEntries) :
    mru.Perm ((List.range c.maxEntries).flatMap chain) := by
  have hnodup : ((List.range c.maxEntries).flatMap chain).Nodup := by
    rw [nodup_flatMap]
    refine ⟨fun i _ => h.table.nodup i, nodup_range.imp fun {i j} hij => ?_⟩
    intro a hi hj
    obtain ⟨k, hk, hki⟩ := (h.table.mem_chain i a).mp hi
    obtain ⟨m, hm, hmj⟩ := (h.table.mem_chain j a).mp hj
    rw [hk] at hm
    cases hm
    exact hij (hki.symm.trans hmj)
  refine (perm_ext_iff_of_nodup h.recency.nodup hnodup).mpr fun a => ?_
  rw [h.recency.mem_mru, mem_flatMap]
  constructor
  · rintro ⟨k, hk⟩
    refine ⟨k.hash.toNat % c.maxEntries, mem_range.mpr (Nat.mod_lt _ hpos), ?_⟩
    exact (h.table.mem_chain _ a).mpr ⟨k, hk, rfl⟩
  · rintro ⟨i, -, hi⟩
    obtain ⟨k, hk, -⟩ := (h.table.mem_chain i a).mp hi
    exact ⟨k, hk⟩

theorem Sound.wellFormed (h : Sound c) : ∃ chain mru, WellFormed c chain mru := by
  obtain ⟨chain, mru, hshape⟩ := h.shape
  have hperm := perm_chains hshape h.pos
  have hnum : c.numEntries = mru.length := hshape.recency.num
  refine ⟨chain, mru, fun i _ => hshape.table.chains i, hshape.recency.ring, ?_, hnum, hperm, ?_,
    ?_⟩
  · rw [hnum, hperm.length_eq, length_flatMap]
  · intro i _ a ha
    obtain ⟨k, hk, hbucket⟩ := (hshape.table.mem_chain i a).mp ha
    obtain ⟨e, he, rfl, -⟩ := find?_of_content hk
    exact ⟨e, he, hbucket, hshape.keyed.hash hk⟩
  · rintro a - b - hab e f he hf ⟨hhash, hequal⟩
    have hdistinct := hshape.keyed.distinct (content_of_find? he) (content_of_find? hf) hab hhash
    rw [entryEquals_eq] at hequal
    rw [show e.content.query = e.query from rfl, show f.content.query = f.query from rfl,
      hequal] at hdistinct
    cases hdistinct

end Cache

/-! ## Steps -/

/-- What a lookup asks for. -/
structure Request where
  netid : Nat
  query : List Byte
  answersize : Int
  now : TimeT

/-- The lookup that an action begins or goes on with. -/
def request (s : System) : Action → Option Request
  | .lookup netid query answersize _ _ _ now => some ⟨netid, query, answersize, now⟩
  | .wake i now => s.waiting[i]?.map fun w => ⟨w.netid, w.key.query, w.answersize, now⟩
  | _ => none

/-- Every cache is sound, and the threads that wait have a query that can be cached. -/
structure System.Sound (s : System) : Prop where
  caches : ∀ n c, s.caches.find? n = some c → c.Sound
  waiting : ∀ w ∈ s.waiting, Cache.IsKey w.key

/-- Everything that an action can do. -/
inductive Effect (parser : NsParser) (a : Action) (s : System) :
    Option Cache.LookupResult → System → Prop where
  | nothing {r : Option Cache.LookupResult} {waiting : List Waiter} :
      (∀ x, r = some x → x.status ≠ .found) → waiting ⊆ s.waiting →
      (∀ n c, s.caches.find? n = some c → a ≠ .delete n ∧ a ≠ .flush n) →
      Effect parser a s r { s with waiting := waiting }
  | created {n : Nat} : a = .create n → s.caches.find? n = none →
      Effect parser a s none { s with caches := s.caches.insert n .create }
  | flushed {n : Nat} {c c' : Cache} : a = .flush n → s.caches.find? n = some c → c'.Sound →
      (∀ x, c'.view.content x = none) → c'.missed = c.missed → c'.numEntries = 0 →
      Effect parser a s none { s with caches := s.caches.insert n c' }
  | deleted {n : Nat} : a = .delete n → Effect parser a s none { s with caches := s.caches.erase n }
  | looked {q : Request} {key : Entry} {c c' : Cache} {r : Option Cache.LookupResult}
      {waiting : List Waiter} :
      request s a = some q → Cache.IsKey key → key.query = q.query →
      s.caches.find? q.netid = some c → c'.Sound → c.Fewer c' → c'.missed = c.missed →
      (∀ x, r = some x → c.Answers key q.answersize q.now x) →
      (∀ w ∈ waiting, w ∈ s.waiting ∨ w.key = key) →
      Effect parser a s r ⟨s.caches.insert q.netid c', waiting⟩
  | added {n : Nat} {answer : List Byte} {block : Option Nat} {now now' : TimeT} {key : Entry}
      {c c' : Cache} :
      a = .add n key.query answer block now now' → Cache.IsKey key →
      s.caches.find? n = some c → c'.Sound →
      c.Grows c' (Cache.Added key answer (answerGetTTL parser answer) now') →
      (c.SelfEqual → c.numEntries ≤ c.maxEntries →
        c'.missed = c.missed ∧ c'.numEntries ≤ c.maxEntries) →
      Effect parser a s none { s with caches := s.caches.insert n (c'.notify key) }
  | failed {n : Nat} {query : List Byte} {flags : Flags} {key : Entry} {c : Cache} :
      a = .queryFailed n query flags → s.caches.find? n = some c →
      Effect parser a s none { s with caches := s.caches.insert n (c.notify key) }

namespace System

variable {s : System} {parser : NsParser}

theorem flush_effect (h : s.Sound) (netid : Nat) :
    ∃ s', s.flush netid = some s' ∧ Effect parser (.flush netid) s none s' := by
  unfold flush
  cases hc : s.caches.find? netid with
  | none =>
    refine ⟨s, rfl, .nothing (by simp) (List.Subset.refl _) fun n c hn => ⟨by simp, ?_⟩⟩
    rintro heq
    cases heq
    rw [hc] at hn
    cases hn
  | some c =>
    have hsound := h.caches netid c hc
    obtain ⟨chain, mru, hshape⟩ := hsound.shape
    obtain ⟨c', hc', hshape', hnone, -, hnum, hmax, hmiss⟩ := flush_spec hshape.table hsound.pos
    have hsound' : c'.Sound := ⟨hmax.trans hsound.maxEntries, _, _, hshape'⟩
    exact ⟨_, by simp [hc'], .flushed rfl hc hsound' hnone hmiss hnum⟩

theorem delete_effect (h : s.Sound) (netid : Nat) :
    ∃ s', s.resolvDeleteCacheForNet netid = some s' ∧ Effect parser (.delete netid) s none s' := by
  unfold resolvDeleteCacheForNet
  cases hc : s.caches.find? netid with
  | none =>
    refine ⟨s, rfl, .nothing (by simp) (List.Subset.refl _) fun n c hn => ⟨?_, by simp⟩⟩
    rintro heq
    cases heq
    rw [hc] at hn
    cases hn
  | some c =>
    have hsound := h.caches netid c hc
    obtain ⟨chain, mru, hshape⟩ := hsound.shape
    obtain ⟨c', hc', -⟩ := flush_spec hshape.table hsound.pos
    exact ⟨_, by simp [hc'], .deleted rfl⟩

/-- A lookup that returns without looking into a cache. -/
theorem miss_effect {a : Action} {status : ResSend.CacheStatus} {waiting : List Waiter}
    (hstat : status ≠ .found) (hwait : waiting ⊆ s.waiting)
    (ha : ∀ n, a ≠ .delete n ∧ a ≠ .flush n) :
    Effect parser a s (some (.miss status)) { s with waiting := waiting } := by
  refine .nothing (fun x hx => ?_) hwait fun n c _ => ha n
  cases hx
  exact hstat

theorem lookup_effect (h : s.Sound) (netid : Nat) (query : List Byte) (answersize : Int)
    (flags : Flags) (caller : Nat) (alloc : Bool) (now : TimeT) :
    ∃ r s', s.resolvCacheLookup netid query answersize flags caller alloc now = some (r, s') ∧
      Effect parser (.lookup netid query answersize flags caller alloc now) s r s' := by
  unfold resolvCacheLookup
  split
  · exact ⟨_, _, rfl, miss_effect (by simp) (List.Subset.refl _) (by simp)⟩
  cases hkey : entryInitKey query with
  | none => exact ⟨_, _, rfl, miss_effect (by simp) (List.Subset.refl _) (by simp)⟩
  | some key =>
    obtain ⟨hiskey, hquery⟩ := isKey_of_entryInitKey hkey
    cases hc : s.caches.find? netid with
    | none => exact ⟨_, _, rfl, miss_effect (by simp) (List.Subset.refl _) (by simp)⟩
    | some c =>
      have hsound := h.caches netid c hc
      obtain ⟨chain, mru, hshape⟩ := hsound.shape
      obtain ⟨outcome, c', chain', mru', hlook, hshape', hfew, hmiss, -, hanswers⟩ :=
        lookup_spec hshape key answersize flags caller alloc now
      have hsound' : c'.Sound := ⟨hfew.maxEntries.trans hsound.maxEntries, chain', mru', hshape'⟩
      cases outcome with
      | returned r =>
        refine ⟨some r, ⟨s.caches.insert netid c', s.waiting⟩, by simp [hlook],
          .looked (q := ⟨netid, query, answersize, now⟩) rfl hiskey hquery hc hsound'
            hfew hmiss (fun x hx => ?_) fun w hw => .inl hw⟩
        cases hx
        exact hanswers r rfl
      | waits ri =>
        refine ⟨none, ⟨s.caches.insert netid c', s.waiting ++ [⟨netid, key, answersize, ri⟩]⟩,
          by simp [hlook],
          .looked (q := ⟨netid, query, answersize, now⟩) rfl hiskey hquery hc hsound'
            hfew hmiss (by simp) fun w hw => ?_⟩
        rcases mem_append.mp hw with hw | hw
        · exact .inl hw
        · rw [mem_singleton.mp hw]
          exact .inr rfl

theorem wake_effect (h : s.Sound) (i : Nat) (now : TimeT) :
    ∃ r s', s.wake i now = some (r, s') ∧ Effect parser (.wake i now) s r s' := by
  unfold wake
  cases hw : s.waiting[i]? with
  | none => exact ⟨none, s, rfl, .nothing (by simp) (List.Subset.refl _) (by simp)⟩
  | some w =>
    have hsub : s.waiting.eraseIdx i ⊆ s.waiting := eraseIdx_subset
    cases hc : s.caches.find? w.netid with
    | none =>
      exact ⟨some (.miss .notfound), _, by simp [hc], miss_effect (by simp) hsub (by simp)⟩
    | some c =>
      have hsound := h.caches w.netid c hc
      obtain ⟨chain, mru, hshape⟩ := hsound.shape
      obtain ⟨r, c', chain', mru', hlook, hshape', hshrinks, hmiss, hanswers⟩ :=
        lookupAgain_spec hshape w.key w.answersize now
      have hsound' : c'.Sound := ⟨hshrinks.maxEntries.trans hsound.maxEntries, chain', mru',
        hshape'⟩
      have hreq : request s (.wake i now) =
          some ⟨w.netid, w.key.query, w.answersize, now⟩ := by simp [request, hw]
      refine ⟨some r, ⟨s.caches.insert w.netid c', s.waiting.eraseIdx i⟩,
        by simp [hc, hlook],
        .looked hreq (h.waiting w (mem_of_getElem? hw)) rfl hc hsound'
          hshrinks.toFewer hmiss (fun x hx => ?_) fun w' hw' => .inl (hsub hw')⟩
      cases hx
      exact hanswers

theorem add_effect (h : s.Sound) (netid : Nat) (query answer : List Byte) (block : Option Nat)
    (now now' : TimeT) :
    ∃ s', s.resolvCacheAdd parser netid query answer block now now' = some s' ∧
      Effect parser (.add netid query answer block now now') s none s' := by
  unfold resolvCacheAdd
  cases hkey : entryInitKey query with
  | none => exact ⟨s, rfl, .nothing (by simp) (List.Subset.refl _) (by simp)⟩
  | some key =>
    obtain ⟨hiskey, rfl⟩ := isKey_of_entryInitKey hkey
    cases hc : s.caches.find? netid with
    | none => exact ⟨s, rfl, .nothing (by simp) (List.Subset.refl _) (by simp)⟩
    | some c =>
      have hsound := h.caches netid c hc
      obtain ⟨chain, mru, hshape⟩ := hsound.shape
      obtain ⟨c', chain', mru', hadd, hshape', hgrows, hbound⟩ :=
        add_spec hshape hiskey parser answer block now now'
      have hsound' : c'.Sound := ⟨hgrows.maxEntries.trans hsound.maxEntries, chain', mru', hshape'⟩
      exact ⟨_, by simp [hadd], .added rfl hiskey hc hsound' hgrows fun hall =>
        hbound hall hsound.pos⟩

theorem queryFailed_effect (netid : Nat) (query : List Byte) (flags : Flags) :
    Effect parser (.queryFailed netid query flags) s none
      (s.resolvCacheQueryFailed netid query flags) := by
  unfold resolvCacheQueryFailed
  split
  · exact .nothing (by simp) (List.Subset.refl _) (by simp)
  cases entryInitKey query with
  | none => exact .nothing (by simp) (List.Subset.refl _) (by simp)
  | some key =>
    cases hc : s.caches.find? netid with
    | none => exact .nothing (by simp) (List.Subset.refl _) (by simp)
    | some c => exact .failed rfl hc

theorem create_effect (netid : Nat) :
    Effect parser (.create netid) s none (s.getResCacheForNet netid) := by
  unfold getResCacheForNet
  cases hc : s.caches.find? netid with
  | some c => exact .nothing (by simp) (List.Subset.refl _) (by simp)
  | none => exact .created rfl hc

end System

variable {s : System}

theorem perform_effect (parser : NsParser) (a : Action) (h : s.Sound) :
    ∃ r s', perform parser a s = some (r, s') ∧ Effect parser a s r s' := by
  cases a with
  | create netid => exact ⟨none, _, rfl, create_effect netid⟩
  | flush netid =>
    obtain ⟨s', hs', heffect⟩ := flush_effect h netid
    exact ⟨none, s', by simp [perform, hs'], heffect⟩
  | delete netid =>
    obtain ⟨s', hs', heffect⟩ := delete_effect h netid
    exact ⟨none, s', by simp [perform, hs'], heffect⟩
  | lookup netid query answersize flags caller alloc now =>
    exact lookup_effect h netid query answersize flags caller alloc now
  | wake i now => exact wake_effect h i now
  | add netid query answer block now now' =>
    obtain ⟨s', hs', heffect⟩ := add_effect h netid query answer block now now'
    exact ⟨none, s', by simp [perform, hs'], heffect⟩
  | queryFailed netid query flags =>
    exact ⟨none, _, rfl, queryFailed_effect netid query flags⟩

/-! ## Runs -/

theorem System.Sound.insert (h : s.Sound) (n : Nat) {c : Cache} (hc : c.Sound)
    {waiting : List Waiter} (hwait : ∀ w ∈ waiting, Cache.IsKey w.key) :
    System.Sound ⟨s.caches.insert n c, waiting⟩ :=
  ⟨OrdMap.forall_insert h.caches hc, hwait⟩

theorem Effect.sound {parser : NsParser} {a : Action} {s' : System} {r : Option Cache.LookupResult}
    (he : Effect parser a s r s') (h : s.Sound) : s'.Sound := by
  cases he with
  | nothing _ hwait _ => exact ⟨h.caches, fun w hw => h.waiting w (hwait hw)⟩
  | created _ _ => exact h.insert _ sound_create h.waiting
  | flushed _ _ hc' _ _ _ => exact h.insert _ hc' h.waiting
  | deleted _ =>
    exact ⟨fun m d hd => h.caches m d (OrdMap.find?_of_erase hd).2, h.waiting⟩
  | looked _ hkey _ _ hc' _ _ _ hwait =>
    refine h.insert _ hc' fun w hw => ?_
    rcases hwait w hw with hold | hnew
    · exact h.waiting w hold
    · rw [hnew]
      exact hkey
  | added _ _ _ hc' _ _ => exact h.insert _ (hc'.notify _) h.waiting
  | failed _ hc => exact h.insert _ ((h.caches _ _ hc).notify _) h.waiting

theorem sound_init : init.Sound := by
  refine ⟨fun n c hc => ?_, fun w hw => ?_⟩
  · cases hc
  · cases hw

theorem exec_sound (parser : NsParser) (as : List Action) (h : s.Sound) :
    ∃ s', Lts.exec (step parser) (fun _ _ => True) as s = some s' ∧ s'.Sound := by
  induction as generalizing s with
  | nil => exact ⟨s, rfl, h⟩
  | cons a as ih =>
    obtain ⟨r, s1, hs1, heffect⟩ := perform_effect parser a h
    obtain ⟨s', hs', hsound'⟩ := ih (heffect.sound h)
    exact ⟨s', by simp [Lts.exec, step, hs1, hs'], hsound'⟩

/-- Every sequence of calls runs to its end and leaves every cache well formed: the chains and the
MRU list have the same entries, as many as are counted, each in its bucket, no two equal. -/
theorem runs_sound (parser : NsParser) (as : List Action) :
    ∃ s, Lts.exec (step parser) (fun _ _ => True) as init = some s ∧
      ∀ n c, s.caches.find? n = some c → ∃ chain mru, c.WellFormed chain mru := by
  obtain ⟨s, hs, hsound⟩ := exec_sound parser as sound_init
  exact ⟨s, hs, fun n c hc => (hsound.caches n c hc).wellFormed⟩

end Netd.ResCache
