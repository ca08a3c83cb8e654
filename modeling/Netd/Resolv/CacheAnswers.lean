import Netd.Resolv.CacheOperations

/-!
# Where the answers of the cache come from

Every entry of a cache was brought by a call of `_resolv_cache_add` on the same network, and that
network's cache has not been deleted since (`Stored`). A lookup compares the query with that of an
entry, up to what `DnsPacket.sameButIgnored_of_isEqualQuery` leaves out.
-/

namespace Netd.ResCache

open List BitVec OrdMap

variable {parser : NsParser} {h : List Action} {s s' : System} {a : Action} {n : Nat}

/-- The histories of the cache, with the last action first. -/
def Reaches (parser : NsParser) (h : List Action) (s : System) : Prop :=
  Lts.Run (step parser) (fun _ _ => True) System.init h s

theorem performs_of_exec {P : Cache.LookupResult → Prop} (as : List Action)
    (hexec : ∃ s ∈ Lts.exec (step parser) (fun _ _ => True) as System.init,
      ∃ x ∈ perform parser a s, ∃ r ∈ x.1, P r) :
    ∃ s s' r, Reaches parser as.reverse s ∧ perform parser a s = some (some r, s') ∧ P r := by
  obtain ⟨s, hrun, ⟨_, s'⟩, hperform, r, rfl, hr⟩ := Lts.run_of_mem as hexec
  exact ⟨s, s', r, hrun, hperform, hr⟩

/-- The entry was stored by a call of the history, and the cache was not flushed or deleted
since. -/
def Stored (parser : NsParser) (h : List Action) (n : Nat) (k : Content) : Prop :=
  ∃ h₁ h₂ block now now' s₁ s₂, h = h₂ ++ .add n k.query k.answer block now now' :: h₁ ∧
    .delete n ∉ h₂ ∧ .flush n ∉ h₂ ∧
    0 < answerGetTTL parser k.answer ∧
    k.expires = (answerGetTTL parser k.answer).setWidth 64 + now' ∧
    Reaches parser h₁ s₁ ∧ step parser (.add n k.query k.answer block now now') s₁ = some s₂ ∧
    ∃ c x, s₂.caches.find? n = some c ∧ c.view.content x = some k

theorem Stored.cons {k : Content} (hk : Stored parser h n k) (hdel : a ≠ .delete n)
    (hflush : a ≠ .flush n) : Stored parser (a :: h) n k := by
  obtain ⟨h1, h2, block, now, now', s1, s2, rfl, hnodelete, hnoflush, hrest⟩ := hk
  refine ⟨h1, a :: h2, block, now, now', s1, s2, rfl, ?_, ?_, hrest⟩
  · simpa [hnodelete] using Ne.symm hdel
  · simpa [hnoflush] using Ne.symm hflush

/-- Where the entries of a cache come from in a step. -/
theorem Effect.origin {r : Option Cache.LookupResult} (he : Effect parser a s r s') {c' : Cache}
    {x : Nat} {k : Content} (hc' : s'.caches.find? n = some c') (hk : c'.view.content x = some k) :
    (∃ c, s.caches.find? n = some c ∧ c.view.content x = some k ∧ a ≠ .delete n ∧ a ≠ .flush n) ∨
      ∃ block now now', a = .add n k.query k.answer block now now' ∧
        0 < answerGetTTL parser k.answer ∧
        k.expires = (answerGetTTL parser k.answer).setWidth 64 + now' := by
  cases he with
  | nothing _ _ hother => exact .inl ⟨c', hc', hk, hother n c' hc'⟩
  | @created m ha hm =>
    rw [find?_insert] at hc'
    split at hc'
    · cases hc'
      cases hk
    · exact .inl ⟨c', hc', hk, by simp [ha], by simp [ha]⟩
  | @flushed m c d ha hm _ hnone =>
    rw [find?_insert] at hc'
    split at hc'
    · cases hc'
      rw [hnone] at hk
      cases hk
    · next hne => exact .inl ⟨c', hc', hk, by simp [ha], by simpa [ha] using Ne.symm hne⟩
  | @deleted m ha =>
    obtain ⟨hne, hc'⟩ := find?_of_erase hc'
    exact .inl ⟨c', hc', hk, by simpa [ha] using Ne.symm hne, by simp [ha]⟩
  | @looked q key c d _ _ hreq _ _ hm _ hfew =>
    have ha : a ≠ .delete n ∧ a ≠ .flush n := by
      constructor
      · rintro rfl
        cases hreq
      · rintro rfl
        cases hreq
    rw [find?_insert] at hc'
    split at hc'
    · rename_i heq
      cases hc'
      exact .inl ⟨c, heq ▸ hm, hfew.content x k hk, ha⟩
    · exact .inl ⟨c', hc', hk, ha⟩
  | @added m answer block now now' key c d ha _ hm _ hgrows =>
    rw [find?_insert] at hc'
    split at hc'
    · rename_i heq
      cases hc'
      subst heq
      have hk' : d.view.content x = some k := hk
      rcases hgrows.content x k hk' with hold | ⟨hpos, rfl⟩
      · exact .inl ⟨c, hm, hold, by simp [ha], by simp [ha]⟩
      · exact .inr ⟨block, now, now', ha, hpos, rfl⟩
    · exact .inl ⟨c', hc', hk, by simp [ha], by simp [ha]⟩
  | @failed m query flags key c ha hm =>
    rw [find?_insert] at hc'
    split at hc'
    · rename_i heq
      cases hc'
      exact .inl ⟨c, heq ▸ hm, hk, by simp [ha], by simp [ha]⟩
    · exact .inl ⟨c', hc', hk, by simp [ha], by simp [ha]⟩

/-- What is true along every history. -/
structure Sourced (parser : NsParser) (h : List Action) (s : System) : Prop where
  reaches : Reaches parser h s
  sound : s.Sound
  stored : ∀ {n c x k}, s.caches.find? n = some c → c.view.content x = some k → Stored parser h n k

theorem Sourced.step (hs : Sourced parser h s) (hstep : step parser a s = some s') :
    Sourced parser (a :: h) s' := by
  obtain ⟨r, t, hperform, heffect⟩ := perform_effect parser a hs.sound
  have ht : t = s' := by simpa [ResCache.step, hperform] using hstep
  subst ht
  refine ⟨hs.reaches.step a trivial hstep, heffect.sound hs.sound, fun {n c x k} hc hk => ?_⟩
  rcases heffect.origin hc hk with
    ⟨d, hd, hold, hdel, hflush⟩ | ⟨block, now, now', rfl, hpos, ht⟩
  · exact (hs.stored hd hold).cons hdel hflush
  · exact ⟨h, [], block, now, now', s, _, rfl, by simp, by simp, hpos, ht, hs.reaches, hstep,
      c, x, hc, hk⟩

theorem sourced (hrun : Reaches parser h s) : Sourced parser h s := by
  refine Lts.Run.invariant (I := Sourced parser) ⟨.start, sound_init, ?_⟩ ?_ hrun
  · intro n c x k hc
    cases hc
  · intro h s a s' hs _ hstep
    exact hs.step hstep

theorem toInt_add_le (ttl : BitVec 32) (now : TimeT) :
    (ttl.setWidth 64 + now).toInt ≤ now.toInt + ttl.toNat := by
  have hwidth : (ttl.setWidth 64).toInt = ttl.toNat := by
    rw [toInt_eq_toNat_of_lt]
    · rw [toNat_setWidth]
      omega
    · rw [toNat_setWidth]
      omega
  have hlow := le_toInt now
  rw [toInt_add, hwidth, Int.bmod_def]
  split <;> omega

/-- A lookup returns an answer stored by an earlier `_resolv_cache_add` on the network, for the same
query up to what is ignored. -/
theorem found_was_stored {r : Cache.LookupResult} (hrun : Reaches parser h s)
    (hperform : perform parser a s = some (some r, s')) (hfound : r.status = .found) :
    ∃ q, request s a = some q ∧ ∃ h₁ h₂ query block now now' s₁ s₂,
      h = h₂ ++ .add q.netid query r.written block now now' :: h₁ ∧
      .delete q.netid ∉ h₂ ∧
      DnsPacket.SameButIgnored q.query query ∧
      0 < answerGetTTL parser r.written ∧
      q.now.toInt < now'.toInt + (answerGetTTL parser r.written).toNat ∧
      r.answerlen = some (r.written.length : Int) ∧ (r.written.length : Int) ≤ q.answersize ∧
      Reaches parser h₁ s₁ ∧
      step parser (.add q.netid query r.written block now now') s₁ = some s₂ ∧
      ∃ c x e, s₂.caches.find? q.netid = some c ∧ c.mem.find? x = some e ∧
        e.query = query ∧ e.answer = r.written := by
  have hs := sourced hrun
  obtain ⟨r', t, hperform', heffect⟩ := perform_effect parser a hs.sound
  rw [hperform] at hperform'
  cases hperform'
  cases heffect with
  | nothing hmiss _ _ => exact absurd hfound (hmiss r rfl)
  | @looked q key c c' _ _ hreq hkey hquery hc hc' hfew hmissed hanswers hwait =>
    obtain ⟨x, k, hk, hhash, hequal, hfresh, hwritten, hlen, hfits⟩ := hanswers r rfl hfound
    obtain ⟨h₁, h₂, block, now, now', s₁, s₂, hsplit, hnodelete, -, hpos, hexpires, hreaches,
      hstep, d, y, hd, hy⟩ := hs.stored hc hk
    obtain ⟨e, he, hcontent, -⟩ := Cache.find?_of_content hy
    have hchecked := ((hs.sound.caches _ _ hc).shape.choose_spec.choose_spec).keyed.checked hk
    have hsymm := queryEquals_symm hchecked hkey.checked hequal
    have hlength : key.query.length = k.query.length := by
      by_contra hne
      simp [queryEquals, hne] at hsymm
    simp only [queryEquals, hlength, ne_eq, not_true_eq_false, if_false] at hsymm
    have hsame := (DnsPacket.sameButIgnored_of_isEqualQuery hkey.checked hchecked hlength hsymm).1
    rw [hquery] at hsame
    have hbound := toInt_add_le (answerGetTTL parser k.answer) now'
    rw [hexpires] at hfresh
    rw [hwritten]
    exact ⟨q, hreq, h₁, h₂, k.query, block, now, now', s₁, s₂, hsplit, hnodelete, hsame, hpos,
      lt_of_lt_of_le hfresh hbound, hlen, hfits, hreaches, hstep, d, y, e, hd, he,
      by rw [← hcontent]; rfl, by rw [← hcontent]; rfl⟩

def sampleQuery (id : Byte) : List Byte :=
  [0, id, 1, 0, 0, 1, 0, 0, 0, 0, 0, 0, 1, 97, 0, 0, 1, 0, 1]

/-- A parser that finds one answer with a time to live of a minute. -/
def sampleParser : NsParser := ⟨fun _ => some ⟨[some ⟨1, 60, []⟩], []⟩, fun _ => none⟩

/-- The answer is found again half a minute later, by a query with another id. -/
theorem found_was_stored_sample : ∃ s s' r q, Reaches sampleParser
        [.add 100 (sampleQuery 7) [1, 2, 3] (some 8) 1000 1000, .create 100] s ∧
      perform sampleParser (.lookup 100 (sampleQuery 9) 512 ⟨false, false⟩ 0 true 1030) s =
        some (some r, s') ∧
      r.status = .found ∧ request s (.lookup 100 (sampleQuery 9) 512 ⟨false, false⟩ 0 true 1030) =
        some q ∧ 0 < answerGetTTL sampleParser r.written ∧
      (r.written.length : Int) ≤ q.answersize := by
  let as : List Action := [.create 100, .add 100 (sampleQuery 7) [1, 2, 3] (some 8) 1000 1000]
  let look : Action := .lookup 100 (sampleQuery 9) 512 ⟨false, false⟩ 0 true 1030
  obtain ⟨s, s', r, hrun, hperform, hfound⟩ : ∃ s s' r, Reaches sampleParser as.reverse s ∧
      perform sampleParser look s = some (some r, s') ∧ r.status = .found :=
    performs_of_exec as (by decide +kernel)
  obtain ⟨q, hq, h1, h2, query, block, now, now', s1, s2, -, -, -, hpos, -, -, hfits, -⟩ :=
    found_was_stored hrun hperform hfound
  exact ⟨s, s', r, q, hrun, hperform, hfound, hq, hpos, hfits⟩

/-! ## The time of a negative answer

`answer_getNegativeTTL` takes the time of the first authority record, and of each later SOA record
whose time is smaller. If the first record is no SOA record, the smallest time stays at zero.
-/

/-- The smaller of the TTL and the MINIMUM field of a SOA record that is well formed. -/
def soaTTL (parser : NsParser) (rr : NsRr) : Option (BitVec 32) := do
  guard (rr.rrType = nsTSoa)
  let len ← parser.dnSkipname rr.rdata
  let len' ← parser.dnSkipname (rr.rdata.drop len)
  let rdata := (rr.rdata.drop len).drop len'
  guard (rdata.length = 5 * 4)
  let minimum := nsGet32 (rdata.drop (4 * 4))
  some (if minimum < rr.ttl then minimum else rr.ttl)

/-- The times of the SOA records of an authority section. -/
def soaTTLs (parser : NsParser) (ns : List (Option NsRr)) : List (BitVec 32) :=
  ns.filterMap fun rr => rr.bind (soaTTL parser)

/-- The smallest of some times, or zero. -/
def IsMinimum (ttls : List (BitVec 32)) (r : BitVec 32) : Prop :=
  if ttls = [] then r = 0 else r ∈ ttls ∧ ∀ x ∈ ttls, r ≤ x

theorem negativeTTL_eq (r : BitVec 32) (rr : Option NsRr) (n : Nat) :
    negativeTTL parser r (rr, n) = match rr.bind (soaTTL parser) with
      | none => r
      | some x => if n = 0 ∨ x < r then x else r := by
  cases rr with
  | none => rfl
  | some rr =>
    by_cases hsoa : rr.rrType = nsTSoa
    · cases hlen : parser.dnSkipname rr.rdata with
      | none => simp [negativeTTL, soaTTL, hsoa, hlen]
      | some len =>
        cases hlen' : parser.dnSkipname (rr.rdata.drop len) with
        | none => simp [negativeTTL, soaTTL, hsoa, hlen, hlen']
        | some len' =>
          by_cases hsize : rr.rdata.length - len - len' = 20
          · simp [negativeTTL, soaTTL, hsoa, hlen, hlen', hsize, -drop_drop]
          · simp [negativeTTL, soaTTL, hsoa, hlen, hlen', hsize, -drop_drop]
    · simp [negativeTTL, soaTTL, hsoa]

/-- Behind the first record, a record can only make the time smaller. -/
theorem foldl_negativeTTL (parser : NsParser) (l : List (Option NsRr)) {k : Nat}
    (hk : k ≠ 0) (r : BitVec 32) :
    (l.zipIdx k).foldl (negativeTTL parser) r ∈ r :: soaTTLs parser l ∧
      ∀ x ∈ r :: soaTTLs parser l, (l.zipIdx k).foldl (negativeTTL parser) r ≤ x := by
  induction l generalizing k r with
  | nil => simp [soaTTLs]
  | cons rr l ih =>
    rw [zipIdx_cons, foldl_cons, negativeTTL_eq, soaTTLs, filterMap_cons]
    cases rr.bind (soaTTL parser) with
    | none => exact ih (Nat.succ_ne_zero k) r
    | some x =>
      obtain ⟨hmem, hle⟩ := ih (Nat.succ_ne_zero k) (if k = 0 ∨ x < r then x else r)
      grind [soaTTLs, not_lt, le_of_lt, le_trans]

/-- **A negative answer has the time of its SOA records** exactly if its first authority record is
one, or none is, or one has no time at all. -/
theorem negative_answer_time (parser : NsParser) (answer : List Byte) {handle : NsMsg}
    (hparse : parser.nsInitparse answer = some handle) (hanswers : handle.an = []) :
    IsMinimum (soaTTLs parser handle.ns) (answerGetTTL parser answer) ↔
      soaTTLs parser handle.ns = [] ∨ soaTTLs parser (handle.ns.take 1) ≠ [] ∨
        0 ∈ soaTTLs parser handle.ns := by
  simp only [answerGetTTL, hparse, hanswers, if_true, answerGetNegativeTTL]
  generalize handle.ns = ns
  cases ns with
  | nil => exact iff_of_true rfl (.inl rfl)
  | cons rr l =>
    rw [zipIdx_cons, foldl_cons, negativeTTL_eq]
    cases hrr : rr.bind (soaTTL parser) with
    | none =>
      -- the time stays 0
      have htail : soaTTLs parser (rr :: l) = soaTTLs parser l := by simp [soaTTLs, hrr]
      have hfirst : soaTTLs parser ((rr :: l).take 1) = [] := by simp [soaTTLs, hrr]
      obtain ⟨hmem, hle⟩ := foldl_negativeTTL parser l one_ne_zero 0
      have hzero := BitVec.le_zero_iff.mp (hle 0 mem_cons_self)
      rw [htail, hfirst, IsMinimum]
      simp only [Nat.zero_add, hzero] at hle ⊢
      by_cases hnil : soaTTLs parser l = []
      · simp [hnil]
      · simp only [hnil, ne_eq, not_true, false_or]
        exact and_iff_left_of_imp fun _ x hx => hle x (mem_cons_of_mem 0 hx)
    | some x =>
      have hcons : soaTTLs parser (rr :: l) = x :: soaTTLs parser l := by simp [soaTTLs, hrr]
      refine iff_of_true ?_ (.inr (.inl (by simp [soaTTLs, hrr])))
      rw [IsMinimum, hcons, if_neg (cons_ne_nil _ _)]
      exact foldl_negativeTTL parser l one_ne_zero x

/-- A SOA record for an hour whose MINIMUM field is a minute. -/
def soaRecord : NsRr := ⟨nsTSoa, 3600, 0 :: 0 :: List.replicate 19 0 ++ [60]⟩

/-- A parser that finds these authority records. -/
def authorities (ns : List (Option NsRr)) : NsParser := ⟨fun _ => some ⟨[], ns⟩, fun _ => some 1⟩

theorem negative_answer_time_soa : answerGetTTL (authorities [some soaRecord]) [] = 60 ∧
    IsMinimum [60] (answerGetTTL (authorities [some soaRecord]) []) :=
  ⟨by decide, (negative_answer_time (authorities [some soaRecord]) [] rfl rfl).mpr
    (.inr (.inl (by decide)))⟩

/-- A name server record before the SOA record makes the answer uncacheable. -/
theorem negative_answer_not_cached : let ns := [some ⟨2, 60, []⟩, some soaRecord]
    soaTTLs (authorities ns) ns = [60] ∧ answerGetTTL (authorities ns) [] = 0 := by
  decide

end Netd.ResCache
