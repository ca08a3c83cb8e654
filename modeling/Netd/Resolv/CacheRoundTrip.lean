import Netd.Resolv.CacheAnswers

/-!
# What was stored is found

An answer that `_resolv_cache_add` stores is what a lookup of an equal query returns until it
expires, also if room had to be made for it.
-/

namespace Netd.ResCache

open Slot

open Links List OrdMap

namespace Cache

variable {parser : NsParser} {c : Cache} {chain : Nat → List Nat} {mru : List Nat}
  {key key' : Entry} {k : Content} {a : Nat} {answer : List Byte}

/-- The entry `k` at `a` is the only new one. -/
structure Holds (c c' : Cache) (a : Nat) (k : Content) : Prop where
  shape : ∃ chain mru, Shape c'.view chain mru
  entry : c'.view.content a = some k
  other : ∀ b ≠ a, ∀ m, c'.view.content b = some m → c.view.content b = some m

theorem store_holds (h : Shape c.view chain mru) (hkey : IsKey key)
    (hno : ∀ b, ¬ Matches c.view key none b) (hnew : c.view.content a = none) {ttl : BitVec 32}
    (httl : 0 < ttl) (now : TimeT) :
    ∃ c', c.store (endSlot hlink (.head (key.hash.toNat % c.maxEntries))
        (chain (key.hash.toNat % c.maxEntries))) key answer ttl (some a) now = some c' ∧
      Holds c c' a (newContent key answer ttl now) := by
  obtain ⟨c', chain', hc', hshape, hcontent, -⟩ := addP_spec h hkey hno hnew answer ttl now
  have hfree : c.mem.contains a = false := by
    cases he : c.mem.find? a with
    | none => simp [OrdMap.contains, he]
    | some e =>
      rw [content_of_find? he] at hnew
      cases hnew
  refine ⟨c', ?_, ⟨chain', a :: mru, hshape⟩, by rw [hcontent, Function.update_self], ?_⟩
  · rw [store, if_pos httl]
    simp only [hfree]
    exact hc'
  · intro b hb m hm
    rwa [hcontent, Function.update_of_ne hb] at hm

theorem add_holds (h : Shape c.view chain mru) (hkey : IsKey key)
    (hno : ∀ b, ¬ Matches c.view key none b) (hnew : c.view.content a = none)
    (httl : 0 < answerGetTTL parser answer) (now now' : TimeT) :
    ∃ c', c.add parser key answer (some a) now now' = some c' ∧
      Holds c c' a (newContent key answer (answerGetTTL parser answer) now') := by
  obtain ⟨slot, found, hlook, hread, hfound⟩ := lookupP_key h.table key
  cases found with
  | some b => exact absurd hfound.1 (hno b)
  | none =>
    obtain ⟨rfl, -⟩ := hfound
    by_cases hfull : c.numEntries ≥ c.maxEntries
    · obtain ⟨c1, chain1, mru1, hc1, hshape1, hshrinks, -⟩ := makeRoom_spec h now
      -- what is left was there before, so the key and the block are still new
      have hno1 : ∀ b, ¬ Matches c1.view key none b := fun b ⟨k, hk, hmatch⟩ =>
        hno b ⟨k, hshrinks.content b k hk, hmatch⟩
      have hnew1 : c1.view.content a = none := by
        refine Option.eq_none_iff_forall_ne_some.mpr fun k hk => ?_
        rw [hshrinks.content a k hk] at hnew
        cases hnew
      obtain ⟨slot1, found1, hlook1, hread1, hfound1⟩ := lookupP_key hshape1.table key
      cases found1 with
      | some b => exact absurd hfound1.1 (hno1 b)
      | none =>
        obtain ⟨rfl, -⟩ := hfound1
        obtain ⟨c', hc', hholds⟩ := store_holds hshape1 hkey hno1 hnew1 httl now'
        refine ⟨c', ?_, hholds.shape, hholds.entry, fun b hb m hm => ?_⟩
        · simp [add, hlook, hread, hfull, hc1, hlook1, hread1, hc']
        · exact hshrinks.content b m (hholds.other b hb m hm)
    · obtain ⟨c', hc', hholds⟩ := store_holds h hkey hno hnew httl now'
      exact ⟨c', by simp [add, hlook, hread, hfull, hc'], hholds⟩

/-- The only entry that matches is the answer of a lookup. -/
theorem lookup_found (h : Shape c.view chain mru) (hk : c.view.content a = some k)
    (hmatch : Matches c.view key none a) (honly : ∀ b, Matches c.view key none b → b = a)
    {size : Int} {now : TimeT} (hfresh : now.toInt < k.expires.toInt)
    (hsize : (k.answer.length : Int) ≤ size) (flags : Flags) (caller : Nat) (alloc : Bool) :
    ∃ c', c.lookup key size flags caller alloc now =
      some (.returned ⟨.found, some k.answer.length, k.answer⟩, c') := by
  obtain ⟨slot, found, hlook, hread, hfound⟩ := lookupP_key h.table key
  cases found with
  | none => exact absurd hmatch (hfound.2 a)
  | some b =>
    obtain rfl := honly b hfound.1
    obtain ⟨e, he, hcontent, -⟩ := find?_of_content hk
    obtain ⟨m₁, m₂, rfl⟩ := append_of_mem ((h.recency.mem_mru _).mpr ⟨k, hk⟩)
    obtain ⟨c1, c', hc1, hc', -⟩ := bump_spec h
    have hexpires : e.expires = k.expires := by rw [← hcontent]; rfl
    have hanswer : e.answer = k.answer := by rw [← hcontent]; rfl
    by_cases hfirst : c.mruNext = some b
    · exact ⟨c, by simp [lookup, hlook, hread, takeAnswer, he, hexpires, hanswer, not_le.mpr hfresh,
        not_lt.mpr hsize, hfirst]⟩
    · exact ⟨c', by simp [lookup, hlook, hread, takeAnswer, he, hexpires, hanswer,
        not_le.mpr hfresh,
        not_lt.mpr hsize, hfirst, hc1, hc']⟩

/-- The query of the key is not in the cache. -/
def Misses (c : Cache) (key : Entry) : Prop := (c.lookupP key none).bind c.read = some none

instance (c : Cache) (key : Entry) : Decidable (Misses c key) :=
  inferInstanceAs (Decidable (_ = _))

theorem Misses.no_match (h : Misses c key) (htable : Table c.view chain) (b : Nat) :
    ¬ Matches c.view key none b := by
  obtain ⟨slot, found, hlook, hread, hfound⟩ := lookupP_key htable key
  rw [Misses, hlook, Option.bind_some, hread] at h
  cases h
  exact hfound.2 b

end Cache

end Netd.ResCache
