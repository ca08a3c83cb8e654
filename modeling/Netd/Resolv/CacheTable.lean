import Netd.Lib.Links
import Netd.Resolv.ResCache

/-!
# The structure of a cache

The links of a cache are read as functions (`View`). On these the two lists of the cache are
those of `Netd.Links`: the collision chains (`Table`) and the circular MRU list (`Recency`).
`Keyed` has what is true of the entries themselves, and a cache is sound (`Shape`) if it has all
three.
-/

namespace Netd.ResCache

open Slot

open Function (update update_apply update_eq_self update_of_ne update_self)

open Links List Option DnsPacket OrdMap

/-! ## The view -/

/-- What an entry keeps as long as it is in a cache. -/
structure Content where
  hash : BitVec 32
  query : List Byte
  answer : List Byte
  expires : TimeT

def Entry.content (e : Entry) : Content := ⟨e.hash, e.query, e.answer, e.expires⟩

/-- `entry_equals`, on the queries. -/
def queryEquals (same : Bool) (q₁ q₂ : List Byte) : Bool :=
  if q₁.length ≠ q₂.length then false
  else isEqualQuery same (init q₁) (init q₂)

theorem entryEquals_eq (same : Bool) (e1 e2 : Entry) :
    entryEquals same e1 e2 = queryEquals same e1.query e2.query := rfl

/-- A cache as functions on its links. -/
@[ext] structure View where
  link : Slot → Option Nat
  next : Option Nat → Option Nat
  prev : Option Nat → Option Nat
  content : Nat → Option Content
  maxEntries : Nat
  numEntries : Int
  pendingRequests : List PendingReqInfo
  missed : Nat

namespace Cache

variable {c c' : Cache} {p : Option Nat}

def view (c : Cache) : View where
  link slot := (c.read slot).join
  next p := match p with
    | none => c.mruNext
    | some a => (c.mem.find? a).bind Entry.mruNext
  prev p := match p with
    | none => c.mruPrev
    | some a => (c.mem.find? a).bind Entry.mruPrev
  content a := (c.mem.find? a).map Entry.content
  maxEntries := c.maxEntries
  numEntries := c.numEntries
  pendingRequests := c.pendingRequests
  missed := c.missed

/-- What the memory has at an address with some content. -/
theorem find?_of_content {a : Nat} {k : Content} (h : c.view.content a = some k) :
    ∃ e, c.mem.find? a = some e ∧ e.content = k ∧ e.hlink = c.view.link (.hlink a) ∧
      e.mruNext = c.view.next (some a) ∧ e.mruPrev = c.view.prev (some a) := by
  obtain ⟨e, he, hk⟩ := map_eq_some_iff.mp h
  refine ⟨e, he, hk, ?_, ?_, ?_⟩
  · simp [view, read, he]
  · simp [view, he]
  · simp [view, he]

theorem content_of_find? {a : Nat} {e : Entry} (h : c.mem.find? a = some e) :
    c.view.content a = some e.content := by simp [view, h]

/-- What a write to one address of the memory does. -/
theorem view_mem (c : Cache) {mem : OrdMap Nat Entry} {a : Nat} {o : Option Entry}
    (hmem : ∀ b, mem.find? b = if b = a then o else c.mem.find? b) :
    ({ c with mem := mem } : Cache).view =
      { c.view with
        link := update c.view.link (.hlink a) (o.map Entry.hlink).join
        next := update c.view.next (some a) (o.bind Entry.mruNext)
        prev := update c.view.prev (some a) (o.bind Entry.mruPrev)
        content := update c.view.content a (o.map Entry.content) } := by
  apply View.ext
  · funext slot
    cases slot with
    | head index => simp [view, read]
    | hlink b => by_cases hb : b = a <;> simp [view, read, hmem, hb]
  · funext p
    cases p with
    | none => simp [view]
    | some b => by_cases hb : b = a <;> simp [view, hmem, hb]
  · funext p
    cases p with
    | none => simp [view]
    | some b => by_cases hb : b = a <;> simp [view, hmem, hb]
  · funext b
    by_cases hb : b = a <;> simp [view, hmem, hb]
  all_goals rfl

theorem view_insert (c : Cache) (a : Nat) (e : Entry) :
    ({ c with mem := c.mem.insert a e } : Cache).view =
      { c.view with
        link := update c.view.link (.hlink a) e.hlink
        next := update c.view.next (some a) e.mruNext
        prev := update c.view.prev (some a) e.mruPrev
        content := update c.view.content a (some e.content) } :=
  view_mem c (find?_insert c.mem a e)

theorem view_erase (c : Cache) (a : Nat) : ({ c with mem := c.mem.erase a } : Cache).view =
      { c.view with
        link := update c.view.link (.hlink a) none
        next := update c.view.next (some a) none
        prev := update c.view.prev (some a) none
        content := update c.view.content a none } :=
  view_mem c (find?_erase c.mem a)

/-! ## Writes -/

/-- A pointer of the MRU list that can be followed. -/
def Valid (v : View) (p : Option Nat) : Prop := ∀ a ∈ p, (v.content a).isSome

/-- A slot that can be written to. -/
def ValidSlot (v : View) (slot : Slot) : Prop := ∀ a, slot = .hlink a → (v.content a).isSome

theorem setMruNext_view (v : Option Nat) (hp : Valid c.view p) : ∃ c', c.setMruNext v p = some c' ∧
      c'.view = { c.view with next := update c.view.next p v } := by
  cases p with
  | none =>
    refine ⟨_, rfl, View.ext rfl ?_ rfl rfl rfl rfl rfl rfl⟩
    funext q
    cases q <;> simp [view]
  | some a =>
    obtain ⟨k, hk⟩ := isSome_iff_exists.mp (hp a rfl)
    obtain ⟨e, he, hcontent, hlink, -, hprev⟩ := find?_of_content hk
    refine ⟨_, by rw [setMruNext, modify, he, map_some], ?_⟩
    rw [view_insert]
    simp only [Entry.content, hlink, hprev, update_eq_self]
    rw [← Entry.content, hcontent, ← hk, update_eq_self]

theorem setMruPrev_view (v : Option Nat) (hp : Valid c.view p) : ∃ c', c.setMruPrev v p = some c' ∧
      c'.view = { c.view with prev := update c.view.prev p v } := by
  cases p with
  | none =>
    refine ⟨_, rfl, View.ext rfl rfl ?_ rfl rfl rfl rfl rfl⟩
    funext q
    cases q <;> simp [view]
  | some a =>
    obtain ⟨k, hk⟩ := isSome_iff_exists.mp (hp a rfl)
    obtain ⟨e, he, hcontent, hlink, hnext, -⟩ := find?_of_content hk
    refine ⟨_, by rw [setMruPrev, modify, he, map_some], ?_⟩
    rw [view_insert]
    simp only [Entry.content, hlink, hnext, update_eq_self]
    rw [← Entry.content, hcontent, ← hk, update_eq_self]

theorem write_view {slot : Slot} (v : Option Nat) (hslot : ValidSlot c.view slot) :
    ∃ c', c.write v slot = some c' ∧
      c'.view = { c.view with link := update c.view.link slot v } := by
  cases slot with
  | head index =>
    refine ⟨_, rfl, View.ext ?_ rfl rfl rfl rfl rfl rfl rfl⟩
    funext q
    cases q with
    | head j => by_cases hj : j = index <;> simp [view, read, update_apply, hj]
    | hlink a => simp [view, read]
  | hlink a =>
    obtain ⟨k, hk⟩ := isSome_iff_exists.mp (hslot a rfl)
    obtain ⟨e, he, hcontent, -, hnext, hprev⟩ := find?_of_content hk
    refine ⟨_, by rw [write, modify, he, map_some], ?_⟩
    rw [view_insert]
    simp only [Entry.content, hnext, hprev, update_eq_self]
    rw [← Entry.content, hcontent, ← hk, update_eq_self]

theorem read_of_valid {slot : Slot} (h : ValidSlot c.view slot) :
    c.read slot = some (c.view.link slot) := by
  cases slot with
  | head index => rfl
  | hlink a =>
    obtain ⟨k, hk⟩ := isSome_iff_exists.mp (h a rfl)
    obtain ⟨e, he, -, hlink, -, -⟩ := find?_of_content hk
    rw [read, he, map_some, hlink]

end Cache

/-! ## The invariant -/

/-- The collision chains. An entry is in the chain of its hash and in no other. -/
structure Table (v : View) (chain : Nat → List Nat) : Prop where
  chains : ∀ i, Chain v.link Slot.hlink (.head i) (chain i)
  nodup : ∀ i, (chain i).Nodup
  mem_chain : ∀ i a, a ∈ chain i ↔ ∃ k, v.content a = some k ∧ k.hash.toNat % v.maxEntries = i

/-- The MRU list. It has all entries, and their number is the one that is kept. -/
structure Recency (v : View) (mru : List Nat) : Prop where
  ring : Ring v.next v.prev none (mru.map some)
  mem_mru : ∀ a, a ∈ mru ↔ ∃ k, v.content a = some k
  num : v.numEntries = mru.length

/-- Each entry has the hash of its query, which can be cached, and no two are equal. -/
structure Keyed (content : Nat → Option Content) : Prop where
  hash : ∀ {a k}, content a = some k → k.hash = entryHash k.query
  checked : ∀ {a k}, content a = some k → (init k.query).checkQuery = true
  distinct : ∀ {a b k m}, content a = some k → content b = some m → a ≠ b →
    k.hash = m.hash → queryEquals false k.query m.query = false

structure Shape (v : View) (chain : Nat → List Nat) (mru : List Nat) : Prop where
  table : Table v chain
  recency : Recency v mru
  keyed : Keyed v.content

theorem Recency.nodup {v : View} {mru : List Nat} (h : Recency v mru) : mru.Nodup :=
  (nodup_cons.mp h.ring.nodup).2.of_map

variable {content : Nat → Option Content} {l : List Nat} {p : Slot}

theorem Keyed.mono {content' : Nat → Option Content} (h : Keyed content)
    (hsub : ∀ a k, content' a = some k → content a = some k) : Keyed content' where
  hash ha := h.hash (hsub _ _ ha)
  checked ha := h.checked (hsub _ _ ha)
  distinct ha hb hne heq := h.distinct (hsub _ _ ha) (hsub _ _ hb) hne heq

theorem content_of_update_none {a b : Nat} {k : Content}
    (h : update content a none b = some k) : b ≠ a ∧ content b = some k := by
  by_cases hb : b = a
  · rw [hb, update_self] at h
    cases h
  · rw [update_of_ne hb] at h
    exact ⟨hb, h⟩

theorem queryEquals_symm {same : Bool} {q q' : List Byte}
    (hq : (init q).checkQuery = true) (hq' : (init q').checkQuery = true)
    (h : queryEquals same q q' = true) : queryEquals same q' q = true := by
  have hlen : q.length = q'.length := by
    by_contra hne
    simp [queryEquals, hne] at h
  simp only [queryEquals, hlen, ne_eq] at h ⊢
  exact isEqualQuery_symm same (length_of_checkQuery hq)
    (length_of_checkQuery hq') h

/-- A new entry that equals none of the others. -/
theorem Keyed.insert (h : Keyed content) (a : Nat) {k : Content}
    (hhash : k.hash = entryHash k.query) (hchecked : (init k.query).checkQuery = true)
    (hno : ∀ b m, content b = some m → m.hash = k.hash →
      queryEquals false m.query k.query = false) : Keyed (update content a (some k)) where
  hash {b m} hb := by
    by_cases hba : b = a
    · rw [hba, update_self] at hb
      cases hb
      exact hhash
    · rw [update_of_ne hba] at hb
      exact h.hash hb
  checked {b m} hb := by
    by_cases hba : b = a
    · rw [hba, update_self] at hb
      cases hb
      exact hchecked
    · rw [update_of_ne hba] at hb
      exact h.checked hb
  distinct {b d m n} hb hd hbd heq := by
    by_cases hba : b = a
    · have hda : d ≠ a := fun hda => hbd (hba.trans hda.symm)
      rw [hba, update_self] at hb
      cases hb
      rw [update_of_ne hda] at hd
      -- The new entry comes first, and the comparison was made the other way round.
      by_contra hequal
      have hsymm := queryEquals_symm hchecked (h.checked hd) (Bool.eq_true_of_not_eq_false hequal)
      rw [hno d n hd heq.symm] at hsymm
      cases hsymm
    · rw [update_of_ne hba] at hb
      by_cases hda : d = a
      · rw [hda, update_self] at hd
        cases hd
        exact hno b m hb heq
      · rw [update_of_ne hda] at hd
        exact h.distinct hb hd hbd heq

namespace Table

variable {v v' : View} {chain : Nat → List Nat} {i : Nat} {l₁ l₂ : List Nat} {a : Nat}

theorem slots_nodup (h : Table v chain) (i : Nat) : (slots hlink (.head i) (chain i)).Nodup := by
  refine nodup_cons.mpr ⟨by simp, (h.nodup i).map fun x y hxy => ?_⟩
  exact hlink.inj hxy

theorem slots_disjoint (h : Table v chain) {j : Nat} (hi : p ∈ slots hlink (.head i) (chain i))
    (hj : p ∈ slots hlink (.head j) (chain j)) : i = j := by
  cases p with
  | head k =>
    have hik : k = i := by simpa [slots] using hi
    have hjk : k = j := by simpa [slots] using hj
    rw [← hik, hjk]
  | hlink a =>
    have hai : a ∈ chain i := by simpa [slots] using hi
    have haj : a ∈ chain j := by simpa [slots] using hj
    obtain ⟨k, hk, hki⟩ := (h.mem_chain i a).mp hai
    obtain ⟨m, hm, hmj⟩ := (h.mem_chain j a).mp haj
    rw [hk] at hm
    cases hm
    rw [← hki, hmj]

theorem validSlot (h : Table v chain) (hp : p ∈ slots hlink (.head i) (chain i)) :
    Cache.ValidSlot v p := by
  rintro a rfl
  have ha : a ∈ chain i := by simpa [slots] using hp
  obtain ⟨k, hk, -⟩ := (h.mem_chain i a).mp ha
  rw [hk]
  rfl

theorem endSlot_mem (hsplit : chain i = l₁ ++ l₂) :
    endSlot hlink (.head i) l₁ ∈ slots hlink (.head i) (chain i) := by
  have hmem : endSlot hlink (.head i) l₁ ∈ slots hlink (.head i) l₁ := endSlot_mem_slots
  rw [hsplit]
  simp only [slots, mem_cons, map_append, mem_append] at hmem ⊢
  tauto

theorem link_endSlot (h : Table v chain) (hsplit : chain i = l₁ ++ l₂) :
    v.link (endSlot hlink (.head i) l₁) = l₂.head? := by
  have hchain := h.chains i
  rw [hsplit, chain_append] at hchain
  cases l₂ with
  | nil => exact chain_nil.mp hchain.2
  | cons a l₂ => exact (chain_cons.mp hchain.2).1

/-- The chains without an entry that is taken out and freed. -/
theorem remove (h : Table v chain) (hsplit : chain i = l₁ ++ a :: l₂)
    (hlink : v'.link = update (update v.link
      (endSlot hlink (.head i) l₁) (v.link (.hlink a))) (.hlink a) none)
    (hcontent : v'.content = update v.content a none)
    (hmax : v'.maxEntries = v.maxEntries) : Table v' (update chain i (l₁ ++ l₂)) := by
  have hnodup := h.nodup i
  rw [hsplit, nodup_middle, nodup_cons] at hnodup
  obtain ⟨ha, hrest⟩ := hnodup
  have hai : a ∈ chain i := by simp [hsplit]
  refine ⟨fun j => ?_, fun j => ?_, fun j b => ?_⟩
  · by_cases hj : j = i
    · subst hj
      rw [update_self, hlink]
      have hchain := h.chains j
      have hslots := h.slots_nodup j
      rw [hsplit] at hchain hslots
      refine (hchain.unlink hslots).congr fun q hq => update_of_ne ?_ _ _
      rintro rfl
      exact ha (by simpa [slots] using hq)
    · rw [update_of_ne hj, hlink]
      refine (h.chains j).congr fun q hq => ?_
      have hqa : q ≠ .hlink a := by
        rintro rfl
        exact hj (h.slots_disjoint hq (by simpa [slots] using hai))
      have hqe : q ≠ endSlot Slot.hlink (.head i) l₁ := by
        rintro rfl
        exact hj (h.slots_disjoint hq (endSlot_mem hsplit))
      rw [update_of_ne hqa, update_of_ne hqe]
  · by_cases hj : j = i
    · rw [hj, update_self]
      exact hrest
    · rw [update_of_ne hj]
      exact h.nodup j
  · rw [hcontent, hmax]
    have hother : (∃ k, update v.content a none b = some k ∧
        k.hash.toNat % v.maxEntries = j) ↔ b ≠ a ∧ b ∈ chain j := by
      rw [h.mem_chain]
      constructor
      · rintro ⟨k, hk, hbucket⟩
        obtain ⟨hne, hk⟩ := content_of_update_none hk
        exact ⟨hne, k, hk, hbucket⟩
      · rintro ⟨hne, k, hk, hbucket⟩
        exact ⟨k, by rwa [update_of_ne hne], hbucket⟩
    rw [hother]
    by_cases hj : j = i
    · rw [hj, update_self, hsplit]
      simp only [mem_append, mem_cons] at ha ⊢
      constructor
      · intro hb
        refine ⟨?_, by tauto⟩
        rintro rfl
        exact ha hb
      · tauto
    · rw [update_of_ne hj]
      refine ⟨fun hb => ⟨?_, hb⟩, And.right⟩
      rintro rfl
      exact hj (h.slots_disjoint (p := .hlink b) (by simpa [slots] using hb)
        (by simpa [slots] using hai))

/-- The chains with a new entry at the end of the chain of its hash. -/
theorem append (h : Table v chain) {k : Content} (hnew : v.content a = none)
    (hi : k.hash.toNat % v.maxEntries = i)
    (hlink : v'.link = update (update v.link (.hlink a) none)
      (endSlot hlink (.head i) (chain i)) (some a))
    (hcontent : v'.content = update v.content a (some k))
    (hmax : v'.maxEntries = v.maxEntries) : Table v' (update chain i (chain i ++ [a])) := by
  have hfresh : ∀ j, a ∉ chain j := by
    intro j hj
    obtain ⟨m, hm, -⟩ := (h.mem_chain j a).mp hj
    rw [hnew] at hm
    cases hm
  -- The new block is not yet part of any chain.
  have hchains : ∀ j, Chain (update v.link (.hlink a) none) Slot.hlink (.head j)
      (chain j) := by
    intro j
    refine (h.chains j).congr fun q hq => update_of_ne ?_ _ _
    rintro rfl
    exact hfresh j (by simpa [slots] using hq)
  have hslots : (slots Slot.hlink (.head i) (chain i ++ [a])).Nodup := by
    refine nodup_cons.mpr ⟨by simp, ?_⟩
    refine List.Nodup.map (fun x y hxy => Slot.hlink.inj hxy) ?_
    rw [nodup_append]
    refine ⟨h.nodup i, nodup_singleton a, ?_⟩
    rintro x hx y hy rfl
    rw [mem_singleton] at hy
    exact hfresh i (hy ▸ hx)
  refine ⟨fun j => ?_, fun j => ?_, fun j b => ?_⟩
  · by_cases hj : j = i
    · subst hj
      rw [update_self, hlink]
      exact (hchains j).append hslots (update_self ..)
    rw [update_of_ne hj, hlink]
    refine (hchains j).congr fun q hq => update_of_ne ?_ _ _
    rintro rfl
    exact hj (h.slots_disjoint hq endSlot_mem_slots)
  · by_cases hj : j = i
    · rw [hj, update_self]
      exact (nodup_cons.mp hslots).2.of_map
    · rw [update_of_ne hj]
      exact h.nodup j
  · rw [hcontent, hmax]
    by_cases hb : b = a
    · subst hb
      by_cases hj : j = i
      · rw [hj, update_self]
        simp [hi]
      · rw [update_of_ne hj]
        simp [hfresh j, hi, Ne.symm hj]
    · rw [update_of_ne hb, ← h.mem_chain]
      by_cases hj : j = i
      · rw [hj, update_self]
        simp [hb]
      · rw [update_of_ne hj]

end Table

theorem valid_next_head {v : View} (hring : Ring v.next v.prev none (l.map some))
    (hmem : ∀ b ∈ l, ∃ k, v.content b = some k) : Cache.Valid v (v.next none) := by
  intro b hb
  rw [hring.next_head] at hb
  cases l with
  | nil => cases hb
  | cons x l =>
    cases mem_some_iff.mp hb
    obtain ⟨k, hk⟩ := hmem b (by simp)
    rw [hk]
    rfl

namespace Recency

variable {v v' : View} {mru l₁ l₂ : List Nat} {a : Nat}

theorem ring_split (h : Recency v (l₁ ++ a :: l₂)) :
    Ring v.next v.prev none (l₁.map some ++ some a :: l₂.map some) := by
  have hring := h.ring
  rwa [map_append, map_cons] at hring

theorem next_head (h : Recency v mru) : v.next none = mru.head? := by
  rw [h.ring.next_head]
  cases mru <;> rfl

theorem next_mem (h : Recency v (l₁ ++ a :: l₂)) : v.next (some a) = l₂.head? := by
  rw [h.ring_split.next_mem]
  cases l₂ <;> rfl

theorem around (h : Recency v (l₁ ++ a :: l₂)) :
    Cache.Valid v (v.prev (some a)) ∧ Cache.Valid v (v.next (some a)) ∧
      v.prev (some a) ≠ some a ∧ v.next (some a) ≠ some a := by
  obtain ⟨hprev, hnext⟩ := h.ring_split.around_mem
  have hval : ∀ b, b ∈ l₁ ++ a :: l₂ → (v.content b).isSome := by
    intro b hb
    obtain ⟨k, hk⟩ := (h.mem_mru b).mp hb
    rw [hk]
    rfl
  have hnodup := h.nodup
  rw [nodup_middle, nodup_cons, mem_append] at hnodup
  refine ⟨fun b hb => ?_, fun b hb => ?_, fun heq => ?_, fun heq => ?_⟩
  · rw [mem_def.mp hb] at hprev
    exact hval b (mem_append_left _ (by simpa using hprev))
  · rw [mem_def.mp hb] at hnext
    exact hval b (mem_append_right _ (mem_cons_of_mem a (by simpa using hnext)))
  · rw [heq] at hprev
    exact hnodup.1 (.inl (by simpa using hprev))
  · rw [heq] at hnext
    exact hnodup.1 (.inr (by simpa using hnext))

theorem not_mem_of_new (h : Recency v mru) (hnew : v.content a = none) : a ∉ mru := by
  intro hmem
  obtain ⟨m, hm⟩ := (h.mem_mru a).mp hmem
  rw [hnew] at hm
  cases hm

theorem not_mem_removed (h : Recency v (l₁ ++ a :: l₂)) : a ∉ l₁ ++ l₂ := by
  have hnodup := h.nodup
  rw [nodup_middle, nodup_cons] at hnodup
  exact hnodup.1

theorem ring_remove (h : Recency v (l₁ ++ a :: l₂)) :
    Ring (update v.next (v.prev (some a)) (v.next (some a)))
      (update v.prev (v.next (some a)) (v.prev (some a))) none ((l₁ ++ l₂).map some) := by
  have hring := h.ring_split.remove
  rwa [← map_append] at hring

/-- The list with a new entry at its front. -/
theorem insert (h : Recency v mru) {k : Content}
    (hring : Ring v'.next v'.prev none ((a :: mru).map some))
    (hcontent : v'.content = update v.content a (some k))
    (hnum : v'.numEntries = v.numEntries + 1) : Recency v' (a :: mru) := by
  refine ⟨hring, ?_, ?_⟩
  · intro b
    rw [hcontent, mem_cons, h.mem_mru]
    by_cases hb : b = a
    · subst hb
      simp
    · simp [hb]
  · rw [hnum, h.num]
    simp

/-- The chains without an entry that is taken out and freed. -/
theorem remove (h : Recency v (l₁ ++ a :: l₂))
    (hring : Ring v'.next v'.prev none ((l₁ ++ l₂).map some))
    (hcontent : v'.content = update v.content a none)
    (hnum : v'.numEntries = v.numEntries - 1) : Recency v' (l₁ ++ l₂) := by
  refine ⟨hring, ?_, ?_⟩
  · intro b
    have hb := h.mem_mru b
    rw [hcontent]
    by_cases hba : b = a
    · subst hba
      simpa using h.not_mem_removed
    · rw [update_of_ne hba, ← hb]
      simp [hba]
  · have hlen : (l₁ ++ a :: l₂).length = (l₁ ++ l₂).length + 1 := by simp; omega
    rw [hnum, h.num, hlen]
    omega

end Recency

/-! ## The operations on the links -/

namespace Cache

variable {c : Cache} {chain : Nat → List Nat} {mru l₁ l₂ m₁ m₂ : List Nat} {a i : Nat}

theorem entryMruRemove_view (h : Recency c.view (m₁ ++ a :: m₂)) :
    ∃ c', c.entryMruRemove a = some c' ∧ c'.view =
      { c.view with
        next := update c.view.next (c.view.prev (some a)) (c.view.next (some a))
        prev := update c.view.prev (c.view.next (some a)) (c.view.prev (some a)) } := by
  obtain ⟨hprev, hnext, hne, -⟩ := h.around
  obtain ⟨k, hk⟩ := (h.mem_mru a).mp (by simp)
  obtain ⟨e, he, -, -, hen, hep⟩ := find?_of_content hk
  obtain ⟨c1, hc1, hv1⟩ := setMruNext_view (c.view.next (some a)) hprev
  have hk1 : c1.view.content a = some k := by rw [hv1]; exact hk
  obtain ⟨e1, he1, -, -, hen1, hep1⟩ := find?_of_content hk1
  -- The first write is not to the entry itself, so its links are read again unchanged.
  have hn1 : e1.mruNext = c.view.next (some a) := by
    rw [hen1, hv1]
    exact update_of_ne (Ne.symm hne) _ _
  have hp1 : e1.mruPrev = c.view.prev (some a) := by rw [hep1, hv1]
  have hnext1 : Valid c1.view (c.view.next (some a)) := by rw [hv1]; exact hnext
  obtain ⟨c2, hc2, hv2⟩ := setMruPrev_view (c.view.prev (some a)) hnext1
  refine ⟨c2, ?_, ?_⟩
  · simp [entryMruRemove, he, hen, hep, hc1, he1, hn1, hp1, hc2]
  · rw [hv2, hv1]

theorem entryMruAdd_view (ha : (c.view.content a).isSome)
    (hfirst : Valid c.view (c.view.next none)) :
    ∃ c', c.entryMruAdd a = some c' ∧ c'.view =
      { c.view with
        next := update (update c.view.next (some a) (c.view.next none)) none
          (some a)
        prev := update (update c.view.prev (some a) none) (c.view.next none)
          (some a) } := by
  have hval : Valid c.view (some a) := by
    intro b hb
    cases mem_some_iff.mp hb
    exact ha
  obtain ⟨c1, hc1, hv1⟩ := setMruNext_view (c.view.next none) hval
  obtain ⟨c2, hc2, hv2⟩ := setMruPrev_view (c := c1) (p := some a) none (by rw [hv1]; exact hval)
  obtain ⟨c3, hc3, hv3⟩ := setMruNext_view (c := c2) (p := none) (some a) (by intro b hb; cases hb)
  have hfirst3 : Valid c3.view (c.view.next none) := by rw [hv3, hv2, hv1]; exact hfirst
  obtain ⟨c4, hc4, hv4⟩ := setMruPrev_view (some a) hfirst3
  refine ⟨c4, ?_, by rw [hv4, hv3, hv2, hv1]⟩
  have hmod1 : (c.modify a fun e => { e with mruNext := c.mruNext }) = some c1 := hc1
  have hmod2 : (c1.modify a fun e => { e with mruPrev := none }) = some c2 := hc2
  have hlast : c3.setMruPrev (some a) c.mruNext = some c4 := hc4
  simp [entryMruAdd, hmod1, hmod2, hc3, hlast]

/-! ## Lookups -/

theorem length_le_of_content (hnodup : l.Nodup) (hmem : ∀ a ∈ l, ∃ k, c.view.content a = some k) :
    l.length ≤ c.mem.entries.length := by
  have hsub : l ⊆ c.mem.keys := by
    intro a ha
    obtain ⟨k, hk⟩ := hmem a ha
    obtain ⟨e, he, -⟩ := find?_of_content hk
    exact mem_keys.mpr ⟨e, he⟩
  have hlen := (subperm_of_subset hnodup hsub).length_le
  rwa [OrdMap.keys, length_map] at hlen

/-- The entry at `a` is found with the key. -/
def Matches (v : View) (key : Entry) (keyPtr : Option Nat) (a : Nat) : Prop :=
  ∃ k, v.content a = some k ∧ k.hash = key.hash ∧
    queryEquals (keyPtr = some a) k.query key.query = true

/-- The loop stops behind the entries that do not match. -/
theorem lookupFrom_spec (key : Entry) (keyPtr : Option Nat) {fuel : Nat}
    (hchain : Chain c.view.link hlink p l) (hp : ValidSlot c.view p)
    (hmem : ∀ a ∈ l, ∃ k, c.view.content a = some k) (hfuel : l.length < fuel) :
    ∃ l₁ l₂, l = l₁ ++ l₂ ∧ c.lookupFrom key keyPtr fuel p = some (endSlot hlink p l₁) ∧
      (∀ a ∈ l₁, ¬ Matches c.view key keyPtr a) ∧
      ∀ a ∈ l₂.head?, Matches c.view key keyPtr a := by
  induction l generalizing p fuel with
  | nil =>
    obtain ⟨fuel, rfl⟩ := Nat.exists_eq_succ_of_ne_zero (Nat.ne_of_gt hfuel)
    simp [lookupFrom, read_of_valid hp, chain_nil.mp hchain, endSlot]
  | cons a l ih =>
    obtain ⟨fuel, rfl⟩ := Nat.exists_eq_succ_of_ne_zero (Nat.ne_of_gt (Nat.zero_lt_of_lt hfuel))
    obtain ⟨hlink, hrest⟩ := chain_cons.mp hchain
    obtain ⟨k, hk⟩ := hmem a (by simp)
    obtain ⟨e, he, hcontent, -⟩ := find?_of_content hk
    have hhash : e.hash = k.hash := by rw [← hcontent]; rfl
    have hquery : e.query = k.query := by rw [← hcontent]; rfl
    have hstep : c.lookupFrom key keyPtr (fuel + 1) p =
        if k.hash = key.hash ∧ queryEquals (keyPtr = some a) k.query key.query = true then some p
        else c.lookupFrom key keyPtr fuel (.hlink a) := by
      simp [lookupFrom, read_of_valid hp, hlink, he, entryEquals_eq, hhash, hquery]
    by_cases hmatch : Matches c.view key keyPtr a
    · refine ⟨[], a :: l, rfl, ?_, by simp, ?_⟩
      · obtain ⟨m, hm, heq⟩ := hmatch
        rw [hk] at hm
        cases hm
        rw [hstep, if_pos heq]
        rfl
      · intro b hb
        cases mem_some_iff.mp hb
        exact hmatch
    · have hval : ValidSlot c.view (.hlink a) := by
        intro b hb
        cases hb
        rw [hk]
        rfl
      obtain ⟨l₁, l₂, rfl, hlook, hno, hyes⟩ :=
        ih hrest hval (fun b hb => hmem b (mem_cons_of_mem a hb))
          (Nat.lt_of_succ_lt_succ hfuel)
      refine ⟨a :: l₁, l₂, rfl, ?_, ?_, hyes⟩
      · rw [hstep, if_neg (fun heq => hmatch ⟨k, hk, heq⟩), hlook]
        rfl
      · intro b hb
        rcases mem_cons.mp hb with rfl | hb
        · exact hmatch
        · exact hno b hb

/-- `_cache_lookup_p` gives a slot of the key's chain: behind it is the entry that matches, or
nothing. -/
theorem lookupP_spec (h : Table c.view chain) (key : Entry) (keyPtr : Option Nat) :
    ∃ l₁ l₂, chain (key.hash.toNat % c.maxEntries) = l₁ ++ l₂ ∧
      c.lookupP key keyPtr = some (endSlot hlink (.head (key.hash.toNat % c.maxEntries)) l₁) ∧
      c.read (endSlot hlink (.head (key.hash.toNat % c.maxEntries)) l₁) = some l₂.head? ∧
      (∀ a ∈ l₁, ¬ Matches c.view key keyPtr a) ∧
      ∀ a ∈ l₂.head?, Matches c.view key keyPtr a := by
  have hmem : ∀ a ∈ chain (key.hash.toNat % c.maxEntries), ∃ k, c.view.content a = some k := by
    intro a ha
    obtain ⟨k, hk, -⟩ := (h.mem_chain _ a).mp ha
    exact ⟨k, hk⟩
  obtain ⟨l₁, l₂, hsplit, hlook, hno, hyes⟩ :=
    lookupFrom_spec key keyPtr (h.chains (key.hash.toNat % c.maxEntries))
      (by intro a ha; cases ha) hmem
      (Nat.lt_succ_of_le (length_le_of_content (h.nodup _) hmem))
  refine ⟨l₁, l₂, hsplit, hlook, ?_, hno, hyes⟩
  rw [read_of_valid (h.validSlot (Table.endSlot_mem hsplit)), h.link_endSlot hsplit]

theorem no_match_of_chain (h : Table c.view chain) (key : Entry) (keyPtr : Option Nat)
    (hno : ∀ a ∈ chain (key.hash.toNat % c.maxEntries), ¬ Matches c.view key keyPtr a) :
    ∀ a, ¬ Matches c.view key keyPtr a := by
  intro a hmatch
  obtain ⟨k, hk, hhash, -⟩ := id hmatch
  exact hno a ((h.mem_chain _ a).mpr ⟨k, hk, by rw [hhash]; rfl⟩) hmatch

variable {e : Entry}

/-- An entry looked up by its own key: it is found, or nothing is. -/
theorem lookupP_entry (h : Shape c.view chain mru) (he : c.mem.find? a = some e) :
    ∃ l₁ l₂, chain (e.hash.toNat % c.maxEntries) = l₁ ++ l₂ ∧
      c.lookupP e (some a) = some (endSlot hlink (.head (e.hash.toNat % c.maxEntries)) l₁) ∧
      c.read (endSlot hlink (.head (e.hash.toNat % c.maxEntries)) l₁) = some l₂.head? ∧
      ((∃ l, l₂ = a :: l) ∧ queryEquals true e.query e.query = true ∨
        l₂ = [] ∧ queryEquals true e.query e.query = false) := by
  obtain ⟨l₁, l₂, hsplit, hlook, hread, hno, hyes⟩ := lookupP_spec h.table e (some a)
  refine ⟨l₁, l₂, hsplit, hlook, hread, ?_⟩
  have hcontent := content_of_find? he
  cases l₂ with
  | nil =>
    rw [append_nil] at hsplit
    have hnone := no_match_of_chain h.table e (some a) (hsplit ▸ hno) a
    by_contra hself
    exact hnone ⟨e.content, hcontent, rfl, by simpa [Entry.content] using hself⟩
  | cons b l =>
    obtain ⟨k, hk, hhash, hequal⟩ := hyes b rfl
    have hba : b = a := by
      by_contra hba
      have hdistinct := h.keyed.distinct hk hcontent hba hhash
      rw [decide_eq_false (fun heq => hba (Option.some.inj heq).symm)] at hequal
      rw [show e.query = e.content.query from rfl, hdistinct] at hequal
      cases hequal
    subst hba
    rw [hcontent] at hk
    cases hk
    exact .inl ⟨⟨l, rfl⟩, by simpa [Entry.content] using hequal⟩

/-! ## Removals -/

/-- An operation brings no entries. -/
structure Fewer (c c' : Cache) : Prop where
  content : ∀ a k, c'.view.content a = some k → c.view.content a = some k
  maxEntries : c'.maxEntries = c.maxEntries
  numEntries : c'.numEntries ≤ c.numEntries

/-- What a removal does to the rest of the cache. -/
structure Shrinks (c c' : Cache) : Prop extends Fewer c c' where
  pendingRequests : c'.pendingRequests = c.pendingRequests

theorem Fewer.refl (c : Cache) : Fewer c c := ⟨fun _ _ h => h, rfl, le_refl _⟩

theorem Shrinks.refl (c : Cache) : Shrinks c c := ⟨.refl c, rfl⟩

theorem Shrinks.trans {c1 c2 c3 : Cache} (h : Shrinks c1 c2) (h' : Shrinks c2 c3) :
    Shrinks c1 c3 where
  content a k hk := h.content a k (h'.content a k hk)
  maxEntries := h'.maxEntries.trans h.maxEntries
  pendingRequests := h'.pendingRequests.trans h.pendingRequests
  numEntries := h'.numEntries.trans h.numEntries

/-- `_cache_remove_p` takes an entry out of both lists and frees it. -/
theorem removeP_spec (h : Shape c.view chain (m₁ ++ a :: m₂)) (hsplit : chain i = l₁ ++ a :: l₂) :
    ∃ c', c.removeP (endSlot hlink (.head i) l₁) = some c' ∧
      Shape c'.view (update chain i (l₁ ++ l₂)) (m₁ ++ m₂) ∧
      Shrinks c c' ∧ c'.missed = c.missed ∧ c'.numEntries = c.numEntries - 1 := by
  obtain ⟨k, hk⟩ := (h.recency.mem_mru a).mp (by simp)
  have hslot := h.table.validSlot (Table.endSlot_mem hsplit)
  have hread : c.read (endSlot hlink (.head i) l₁) = some (some a) := by
    rw [read_of_valid hslot, h.table.link_endSlot hsplit]
    rfl
  obtain ⟨c1, hc1, hv1⟩ := entryMruRemove_view h.recency
  have hk1 : c1.view.content a = some k := by rw [hv1]; exact hk
  obtain ⟨e, he, -, hlink, -⟩ := find?_of_content hk1
  rw [hv1] at hlink
  have hslot1 : ValidSlot c1.view (endSlot Slot.hlink (.head i) l₁) := by rw [hv1]; exact hslot
  obtain ⟨c2, hc2, hv2⟩ := write_view e.hlink hslot1
  rw [hv1] at hv2
  have hmax2 : c2.maxEntries = c.maxEntries := congrArg View.maxEntries hv2
  have hpending2 : c2.pendingRequests = c.pendingRequests := congrArg View.pendingRequests hv2
  have hnum2 : c2.numEntries = c.numEntries := congrArg View.numEntries hv2
  have hmiss2 : c2.missed = c.missed := congrArg View.missed hv2
  let c3 : Cache := { c2 with mem := c2.mem.erase a, numEntries := c2.numEntries - 1 }
  have hv3 : c3.view =
      { ({ c2 with mem := c2.mem.erase a } : Cache).view with
        numEntries := c2.numEntries - 1 } := rfl
  rw [view_erase, hv2] at hv3
  have hcontent3 : c3.view.content = update c.view.content a none := by rw [hv3]
  have hsub : ∀ b m, c3.view.content b = some m → c.view.content b = some m := by
    intro b m hm
    rw [hcontent3] at hm
    exact (content_of_update_none hm).2
  refine ⟨c3, ?_, ⟨?_, ?_, h.keyed.mono hsub⟩, ⟨⟨hsub, hmax2, ?_⟩, hpending2⟩, hmiss2, ?_⟩
  · simp [removeP, hread, hc1, he, hc2, c3]
  · refine h.table.remove hsplit ?_ hcontent3 (by rw [hv3])
    rw [hv3, hlink]
  · refine h.recency.remove ?_ hcontent3 ?_
    · -- The entry is no longer in the ring, so that freeing it touches no link of the ring.
      have hout : some a ∉ none :: (m₁ ++ m₂).map some := by
        simpa using h.recency.not_mem_removed
      rw [hv3]
      exact h.recency.ring_remove.update_of_not_mem hout none none
    · show c2.numEntries - 1 = _
      rw [hnum2]
      rfl
  · show c2.numEntries - 1 ≤ _
    omega
  · show c2.numEntries - 1 = _
    omega

/-- What becomes of an entry that is looked up by its own key to be removed. -/
inductive Discarded (c : Cache) (e : Entry) (chain : Nat → List Nat) (m₁ m₂ : List Nat) :
    Option Nat → Slot → Prop where
  | found {slot : Slot} {a : Nat} {c' : Cache} {chain' : Nat → List Nat} :
      queryEquals true e.query e.query = true → c.removeP slot = some c' →
      Shape c'.view chain' (m₁ ++ m₂) → Shrinks c c' →
      c'.missed = c.missed → c'.numEntries = c.numEntries - 1 →
      Discarded c e chain m₁ m₂ (some a) slot
  | missing {slot : Slot} : queryEquals true e.query e.query = false →
      Discarded c e chain m₁ m₂ none slot

theorem discard_spec (h : Shape c.view chain (m₁ ++ a :: m₂)) (he : c.mem.find? a = some e) :
    ∃ slot found, c.lookupP e (some a) = some slot ∧ c.read slot = some found ∧
      Discarded c e chain m₁ m₂ found slot := by
  obtain ⟨l₁, l₂, hsplit, hlook, hread, hcases⟩ := lookupP_entry h he
  refine ⟨_, _, hlook, hread, ?_⟩
  rcases hcases with ⟨⟨l, rfl⟩, hself⟩ | ⟨rfl, hself⟩
  · obtain ⟨c', hc', hshape, hshrinks, hmiss, hnum⟩ := removeP_spec h hsplit
    exact .found hself hc' hshape hshrinks hmiss hnum
  · exact .missing hself

/-- Every entry equals itself. -/
def SelfEqual (c : Cache) : Prop :=
  ∀ a k, c.view.content a = some k → queryEquals true k.query k.query = true

theorem SelfEqual.mono {c' : Cache} (h : SelfEqual c) (hs : Fewer c c') : SelfEqual c' :=
  fun a k hk => h a k (hs.content a k hk)

theorem SelfEqual.of_find? (h : SelfEqual c) (he : c.mem.find? a = some e) :
    queryEquals true e.query e.query = true := h a e.content (content_of_find? he)

/-- The MRU list before and after `_cache_remove_oldest`: its last entry is removed if it equals
itself. -/
inductive OldestRemoved (content : Nat → Option Content) : List Nat → List Nat → Prop where
  | empty : OldestRemoved content [] []
  | found {m : List Nat} {a : Nat} {k : Content} (hk : content a = some k)
      (hself : queryEquals true k.query k.query = true) : OldestRemoved content (m ++ [a]) m
  | missing {m : List Nat} {a : Nat} {k : Content} (hk : content a = some k)
      (hself : queryEquals true k.query k.query = false) :
      OldestRemoved content (m ++ [a]) (m ++ [a])

section

variable (h : Shape c.view chain mru)
include h

theorem shape_missed (n : Nat) :
    Shape ({ c with missed := n } : Cache).view chain mru := ⟨⟨h.table.chains, h.table.nodup,
  h.table.mem_chain⟩, ⟨h.recency.ring, h.recency.mem_mru, h.recency.num⟩, h.keyed⟩

theorem lookupP_head (he : c.mruEntry none = some e) :
    ∃ slot, c.lookupP e none = some slot ∧ c.read slot = some none := by
  cases he
  obtain ⟨l₁, l₂, -, hlook, hread, -, hyes⟩ :=
    lookupP_spec h.table ⟨0, none, c.mruPrev, c.mruNext, [], [], 0, 0⟩ none
  refine ⟨_, hlook, hread.trans (congrArg some ?_)⟩
  cases l₂ with
  | nil => rfl
  | cons b l =>
    obtain ⟨k, hk, -, hequal⟩ := hyes b rfl
    have hlen := length_of_checkQuery (h.keyed.checked hk)
    have hne : k.query.length ≠ ([] : List Byte).length := by
      simp only [length_nil]
      simp only [dnsHeaderSize] at hlen
      omega
    simp only [queryEquals, if_pos hne] at hequal
    cases hequal

theorem removeOldest_spec :
    ∃ c' chain' mru', c.removeOldest = some c' ∧ Shape c'.view chain' mru' ∧ Shrinks c c' ∧
      (SelfEqual c → mru ≠ [] → c'.missed = c.missed ∧ c'.numEntries = c.numEntries - 1) ∧
      OldestRemoved c.view.content mru mru' := by
  have hlast : c.mruPrev = (mru.map some).getLast?.getD none := h.recency.ring.prev_head
  rcases eq_nil_or_concat mru with rfl | ⟨m, a, rfl⟩
  · obtain ⟨e, he⟩ : ∃ e, c.mruEntry none = some e := ⟨_, rfl⟩
    obtain ⟨slot, hlook, hread⟩ := lookupP_head h he
    refine ⟨_, chain, [], ?_, shape_missed h (c.missed + 1),
      ⟨⟨fun _ _ hk => hk, rfl, le_refl _⟩, rfl⟩,
      fun _ hne => absurd rfl hne, .empty⟩
    have hnone : c.mruPrev = none := hlast
    simp [removeOldest, hnone, he, hlook, hread]
  · rw [concat_eq_append] at h hlast ⊢
    have hprev : c.mruPrev = some a := by simpa using hlast
    obtain ⟨k, hk⟩ := (h.recency.mem_mru a).mp (by simp)
    obtain ⟨e, he, rfl, -⟩ := find?_of_content hk
    obtain ⟨slot, found, hlook, hread, hdiscarded⟩ := discard_spec h he
    cases hdiscarded with
    | found hself hc' hshape hshrinks hmiss hnum =>
      rw [append_nil] at hshape
      refine ⟨_, _, _, ?_, hshape, hshrinks, fun _ _ => ⟨hmiss, hnum⟩, .found hk hself⟩
      simp [removeOldest, hprev, mruEntry, he, hlook, hread, hc']
    | missing hself =>
      refine ⟨_, chain, _, ?_, shape_missed h (c.missed + 1),
        ⟨⟨fun _ _ hk => hk, rfl, le_refl _⟩, rfl⟩, fun hall => ?_, .missing hk hself⟩
      · simp [removeOldest, hprev, mruEntry, he, hlook, hread]
      · rw [hall.of_find? he] at hself
        cases hself

end

/-- The MRU list without the entries that have expired, up to the first of them that does not equal
itself. -/
def unexpired (content : Nat → Option Content) (now : TimeT) : List Nat → List Nat
  | [] => []
  | a :: rest =>
    match content a with
    | none => a :: unexpired content now rest
    | some k =>
      if now.toInt < k.expires.toInt then a :: unexpired content now rest
      else if queryEquals true k.query k.query then unexpired content now rest
      else a :: rest

theorem unexpired_congr {content' : Nat → Option Content} {now : TimeT} {l : List Nat}
    (h : ∀ a ∈ l, content a = content' a) : unexpired content now l = unexpired content' now l := by
  induction l with
  | nil => rfl
  | cons a rest ih =>
    simp only [unexpired, h a mem_cons_self, ih fun b hb => h b (mem_cons_of_mem _ hb)]

/-- The loop of `_cache_remove_expired`, at a place of the MRU list. -/
theorem removeExpiredFrom_spec (now : TimeT) {fuel : Nat} {rest : List Nat}
    (h : Shape c.view chain (m₁ ++ rest)) (hfuel : rest.length ≤ fuel) :
    ∃ c' chain', removeExpiredFrom now fuel rest.head? c = some c' ∧
      Shape c'.view chain' (m₁ ++ unexpired c.view.content now rest) ∧ Shrinks c c' ∧
      (SelfEqual c → c'.missed = c.missed) := by
  induction rest generalizing c chain m₁ fuel with
  | nil => exact ⟨c, chain, by simp [removeExpiredFrom], h, .refl c, fun _ => rfl⟩
  | cons a rest ih =>
    obtain ⟨fuel, rfl⟩ : ∃ n, fuel = n + 1 :=
      Nat.exists_eq_succ_of_ne_zero (Nat.ne_of_gt (Nat.lt_of_lt_of_le (Nat.succ_pos _) hfuel))
    obtain ⟨k, hk⟩ := (h.recency.mem_mru a).mp (by simp)
    obtain ⟨e, he, rfl, -, hnext, -⟩ := find?_of_content hk
    have hrest : e.mruNext = rest.head? := hnext.trans h.recency.next_mem
    have hlen : rest.length ≤ fuel := Nat.le_of_succ_le_succ hfuel
    by_cases hexpired : now.toInt ≥ e.expires.toInt
    · have hlate : ¬ now.toInt < e.content.expires.toInt := not_lt.mpr hexpired
      obtain ⟨slot, found, hlook, hread, hdiscarded⟩ := discard_spec h he
      cases hdiscarded with
      | @found _ _ c1 _ hself hc' hshape hshrinks hmiss hnum =>
        obtain ⟨c2, chain2, hc2, hshape2, hshrinks2, hmiss2⟩ := ih hshape hlen
        -- the other entries are still there
        have hsame : ∀ b ∈ rest, c1.view.content b = c.view.content b := by
          intro b hb
          obtain ⟨m, hm⟩ := (hshape.recency.mem_mru b).mp (mem_append_right _ hb)
          rw [hm, hshrinks.content b m hm]
        rw [unexpired_congr hsame] at hshape2
        refine ⟨c2, chain2, ?_, ?_, hshrinks.trans hshrinks2, fun hall => ?_⟩
        · simp [removeExpiredFrom, he, hexpired, hlook, hread, hc', hrest, hc2]
        · have hself : queryEquals true e.content.query e.content.query = true := hself
          simpa only [unexpired, hk, if_neg hlate, hself, if_true] using hshape2
        · rw [hmiss2 (hall.mono hshrinks.toFewer), hmiss]
      | missing hself =>
        have hnot : ¬ queryEquals true e.content.query e.content.query = true := by
          rw [show queryEquals true e.content.query e.content.query = false from hself]
          exact Bool.false_ne_true
        refine ⟨{ c with missed := c.missed + 1 }, chain, ?_, ?_,
          ⟨⟨fun _ _ hk => hk, rfl, le_refl _⟩, rfl⟩, fun hall => ?_⟩
        · simp [removeExpiredFrom, he, hexpired, hlook, hread]
        · have hshape := shape_missed h (c.missed + 1)
          simpa only [unexpired, hk, if_neg hlate, if_neg hnot] using hshape
        · rw [hall.of_find? he] at hself
          cases hself
    · have h' : Shape c.view chain ((m₁ ++ [a]) ++ rest) := by simpa using h
      obtain ⟨c2, chain2, hc2, hshape2, hres⟩ := ih h' hlen
      have hfresh : now.toInt < e.content.expires.toInt := not_le.mp hexpired
      refine ⟨c2, chain2, ?_, ?_, hres⟩
      · simp [removeExpiredFrom, he, hexpired, hrest, hc2]
      · rw [append_assoc, singleton_append] at hshape2
        simpa only [unexpired, hk, if_pos hfresh] using hshape2

theorem removeExpired_spec (h : Shape c.view chain mru) (now : TimeT) :
    ∃ c' chain', c.removeExpired now = some c' ∧
      Shape c'.view chain' (unexpired c.view.content now mru) ∧ Shrinks c c' ∧
      (SelfEqual c → c'.missed = c.missed) := by
  have hfirst : c.mruNext = mru.head? := h.recency.next_head
  have hlen := length_le_of_content h.recency.nodup fun a ha => (h.recency.mem_mru a).mp ha
  have h' : Shape c.view chain ([] ++ mru) := h
  rw [removeExpired, hfirst]
  exact removeExpiredFrom_spec now h' (Nat.le_succ_of_le hlen)

end Cache

end Netd.ResCache
