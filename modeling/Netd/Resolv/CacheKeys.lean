import Netd.Resolv.CacheAnswers

/-!
# Cache keys

A key of the cache is hashed and compared as raw bytes. The hash takes in all bytes behind the
flags, and a comparison stops at the last record that the header counts.
-/

namespace Netd

open List Option

namespace DnsPacket

variable {q q' : List Byte}

theorem hashQuery_init (q : List Byte) : hashQuery (init q) = (q.drop 3).foldl hashByte
      (fnvBasis * fnvMult ^^^ BitVec.ofNat 32 ((init q).byteAt 2 &&& 1)) := by
  simp [hashQuery, rewind, skip, init, hashBytes, readInt16, hashEach, byteAt]

theorem hashQuery_of_isEqualQuery (hq : checkQuery (init q) = true)
    (hq' : checkQuery (init q') = true) (hlen : q.length = q'.length)
    (hends : countedEnd q = q.length) (h : isEqualQuery false (init q) (init q') = true) :
    hashQuery (init q) = hashQuery (init q') := by
  obtain ⟨hsame, -⟩ := sameButIgnored_of_isEqualQuery hq hq' hlen h
  obtain ⟨hrd, -⟩ :=
    (isEqualQuery_iff false (length_of_checkQuery hq) (length_of_checkQuery hq')).mp h
  have hdrop : q.drop 3 = q'.drop 3 := by
    refine ext_getElem? fun i => ?_
    rw [getElem?_drop, getElem?_drop]
    rcases Nat.lt_or_ge (3 + i) q.length with hi | hi
    · exact hsame.bytes _ (by omega) (hends ▸ hi)
    · rw [getElem?_eq_none hi, getElem?_eq_none (hlen ▸ hi)]
  rw [hashQuery_init, hashQuery_init, hdrop, hrd]

/-! ## What the checks look at -/

variable {p p' : DnsPacket} {l s : List Byte}

theorem checkBytes_eq {bytes : List Byte} (h : checkBytes bytes p = some p') :
    p.cursor = bytes ++ p'.cursor := by
  rw [checkBytes] at h
  split at h
  · cases h
  split at h
  · rename_i htake
    cases h
    calc p.cursor = p.cursor.take bytes.length ++ p.cursor.drop bytes.length :=
          (take_append_drop ..).symm
      _ = bytes ++ (p.skip bytes.length).cursor := by rw [htake, skip]
  · cases h

theorem checkBytes_append {bytes : List Byte} (h : p.cursor = bytes ++ s) :
    checkBytes bytes p = some { p with cursor := s } := by
  simp [checkBytes, h, skip]

/-- The types of a question that can be cached. -/
def dnsTypes : List (List Byte) := [dnsTypeA, dnsTypePtr, dnsTypeMx, dnsTypeAaaa, dnsTypeAll]

/-- The first of the alternatives of `checkQR` that succeeds. -/
def checkTypes (types : List (List Byte)) (p : DnsPacket) : Option DnsPacket :=
  types.findSome? fun type => checkBytes type p

theorem checkQR_eq (p : DnsPacket) : checkQR p =
    (checkQName p).bind fun p => (checkTypes dnsTypes p).bind (checkBytes dnsClassIn) := by
  rw [checkQR]
  congr 1
  funext p
  congr 1
  simp only [checkTypes, dnsTypes, findSome?_cons, findSome?_nil, orElse_eq_orElse, orElse_eq_or]
  cases checkBytes dnsTypeA p <;> cases checkBytes dnsTypePtr p <;> cases checkBytes dnsTypeMx p <;>
    cases checkBytes dnsTypeAaaa p <;> cases checkBytes dnsTypeAll p <;> rfl

theorem checkTypes_append {type : List Byte} (htype : type ∈ dnsTypes) (h : p.cursor = type ++ s) :
    checkTypes dnsTypes p = some { p with cursor := s } := by
  simp only [dnsTypes, mem_cons, not_mem_nil, or_false] at htype
  rcases htype with rfl | rfl | rfl | rfl | rfl <;>
    simp [checkTypes, dnsTypes, checkBytes, h, dnsTypeA, dnsTypePtr, dnsTypeMx, dnsTypeAaaa,
      dnsTypeAll, skip]

/-- A check that succeeds has skipped a record, and does not depend on what follows. -/
def Checks (check : DnsPacket → Option DnsPacket) (skip : List Byte → Option (List Byte)) : Prop :=
  ∀ {p p' : DnsPacket}, check p = some p' → skip p.cursor = some p'.cursor ∧
    ∃ pre, p.cursor = pre ++ p'.cursor ∧ ∀ (p₂ : DnsPacket) {s : List Byte}, p₂.cursor = pre ++ s →
      check p₂ = some { p₂ with cursor := s }

theorem checkQR_checks : Checks checkQR skipQuestion := by
  intro p p' h
  rw [checkQR_eq] at h
  obtain ⟨_, hname, h⟩ := bind_eq_some_iff.mp h
  obtain ⟨p1, htype, hclass⟩ := bind_eq_some_iff.mp h
  obtain ⟨l, hlabels, rfl⟩ := map_eq_some_iff.mp hname
  obtain ⟨type, hmem, hone⟩ := exists_of_findSome?_eq_some htype
  obtain ⟨pre, hpre, hequal⟩ := equalLabels_of_skipLabels hlabels
  have hskip (s : List Byte) : skipLabels 0 (pre ++ s) = some s :=
    (equalLabels_common (equalLabels_symm (hequal s))).2
  have hl : l = type ++ (dnsClassIn ++ p'.cursor) := by
    rw [← checkBytes_eq hclass, ← checkBytes_eq hone]
  have hlen : type.length = 2 := (by decide : ∀ type ∈ dnsTypes, type.length = 2) type hmem
  refine ⟨?_, pre ++ (type ++ dnsClassIn), by rw [hpre, hl]; simp, ?_⟩
  · have hfour : (type ++ dnsClassIn).length = 4 := by simp [hlen, dnsClassIn]
    rw [skipQuestion, hlabels, bind_some, hl, ← append_assoc, skipBytes, drop_left' hfour,
      if_neg (by rw [length_append]; omega)]
  · intro p₂ s h2
    have h2 : p₂.cursor = pre ++ (type ++ (dnsClassIn ++ s)) := by simpa using h2
    have htypes := checkTypes_append (p := { p₂ with cursor := type ++ (dnsClassIn ++ s) }) hmem rfl
    rw [checkQR_eq, checkQName, h2, hskip, map_some, bind_some, htypes, bind_some]
    exact checkBytes_append rfl

theorem checkQRs_checks (count : Nat) : Checks (checkQRs count) (skipEach skipQuestion count) := by
  induction count with
  | zero =>
    intro p p' h
    cases h
    refine ⟨rfl, [], rfl, fun p₂ s h2 => ?_⟩
    rw [nil_append] at h2
    rw [checkQRs, ← h2]
  | succ count ih =>
    intro p p' h
    obtain ⟨p1, hfirst, hrest⟩ := bind_eq_some_iff.mp h
    obtain ⟨hskip, pre, hpre, hcheck⟩ := checkQR_checks hfirst
    obtain ⟨hskip', pre', hpre', hcheck'⟩ := ih hrest
    refine ⟨?_, pre ++ pre', by rw [hpre, hpre', append_assoc], fun p₂ s h2 => ?_⟩
    · rw [skipEach, hskip]
      exact hskip'
    · rw [append_assoc] at h2
      rw [checkQRs, hcheck p₂ h2]
      exact hcheck' { p₂ with cursor := pre' ++ s } rfl

/-- A query that is checked stays so if bytes behind its questions change. -/
theorem checkQuery_append {pre rest rest' : List Byte} (hlen : dnsHeaderSize ≤ pre.length)
    (hquestions : skipEach skipQuestion ((init (pre ++ rest)).int16At 4)
      ((pre ++ rest).drop dnsHeaderSize) = some (l ++ rest))
    (h : checkQuery (init (pre ++ rest)) = true) : checkQuery (init (pre ++ rest')) = true := by
  have hbyte : ∀ i < dnsHeaderSize,
      (init (pre ++ rest)).byteAt i = (init (pre ++ rest')).byteAt i := by
    intro i hi
    simp [byteAt, init, getD_eq_getElem?_getD, getElem?_append_left (Nat.lt_of_lt_of_le hi hlen)]
  have hint : ∀ i, i + 1 < dnsHeaderSize →
      (init (pre ++ rest)).int16At i = (init (pre ++ rest')).int16At i := by
    intro i hi
    rw [int16At, int16At, hbyte i (by omega), hbyte (i + 1) hi]
  rw [checkQuery] at h ⊢
  rw [← hbyte 2 (by decide), ← hbyte 3 (by decide), ← hint 4 (by decide), ← hint 6 (by decide),
    ← hint 8 (by decide), ← hint 10 (by decide)]
  split at h
  · cases h
  rw [if_neg (by simp only [init, length_append]; omega)]
  split at h
  · cases h
  rename_i hflags
  rw [if_neg hflags]
  simp only at h ⊢
  split at h
  · cases h
  rename_i hcounts
  rw [if_neg hcounts]
  split at h
  · cases h
  rename_i hzero
  rw [if_neg hzero]
  obtain ⟨p', hp'⟩ := isSome_iff_exists.mp h
  obtain ⟨hskip, pre', hpre', hcheck⟩ := checkQRs_checks _ hp'
  have hend : p'.cursor = l ++ rest := some_inj.mp (hskip.symm.trans hquestions)
  have hcut : pre.drop dnsHeaderSize = pre' ++ l := by
    simp only [init, hend] at hpre'
    rw [drop_append_of_le_length hlen, ← append_assoc] at hpre'
    exact append_cancel_right hpre'
  refine isSome_iff_exists.mpr ⟨_, hcheck (s := l ++ rest') _ ?_⟩
  rw [init, drop_append_of_le_length hlen, hcut, append_assoc]

theorem hashByte_inj {hash : BitVec 32} {b b' : Byte} (h : hashByte hash b = hashByte hash b') :
    b = b' := by
  have hbits := congrArg BitVec.toNat ((BitVec.xor_right_inj _).mp h)
  simp only [BitVec.toNat_ofNat] at hbits
  exact Fin.ext (by omega)

/-- A byte behind the counted records can be changed, and then the hash changes. -/
theorem exists_hashQuery_ne (hq : checkQuery (init q) = true) (hcomplete : Complete q)
    (hends : countedEnd q ≠ q.length) : ∃ q', checkQuery (init q') = true ∧
      q.length = q'.length ∧ isEqualQuery false (init q) (init q') = true ∧
      hashQuery (init q) ≠ hashQuery (init q') := by
  obtain ⟨rest, hrest⟩ := isSome_iff_exists.mp hcomplete
  have hne : rest ≠ [] := by
    rintro rfl
    exact hends (by simp [countedEnd, hrest])
  obtain ⟨before, b, rfl⟩ : ∃ before b, rest = before ++ [b] := by
    simpa using (eq_nil_or_concat rest).resolve_left hne
  have hlen := length_of_checkQuery hq
  obtain ⟨pre, hpre, hequal⟩ := isEqualQuery_of_afterRecords false hlen hrest
  obtain ⟨l, hquestions, hrecords⟩ := bind_eq_some_iff.mp hrest
  obtain ⟨pre', hl, -⟩ := (isEqualRR_framed false).each _ ⟨q, l⟩ hrecords
  -- the packet is its header, the counted records and what follows
  obtain ⟨front, hfront, hdrop, rfl⟩ : ∃ front, dnsHeaderSize ≤ front.length ∧
      front.drop dnsHeaderSize = pre ++ before ∧ q = front ++ [b] := by
    have hhead : (q.take dnsHeaderSize).length = dnsHeaderSize := by
      rw [length_take]
      omega
    refine ⟨q.take dnsHeaderSize ++ (pre ++ before), ?_, drop_left' hhead, ?_⟩
    · rw [length_append]
      omega
    · rw [append_assoc, append_assoc, ← hpre, take_append_drop]
  have hchanged : checkQuery (init (front ++ [b + 1])) = true := by
    refine checkQuery_append (l := pre' ++ before) hfront ?_ hq
    rw [hquestions, append_assoc]
    exact congrArg some hl
  have hbyte : (init (front ++ [b])).byteAt 2 = (init (front ++ [b + 1])).byteAt 2 := by
    rw [dnsHeaderSize] at hfront
    simp [byteAt, init, getD_eq_getElem?_getD,
      getElem?_append_left (show 2 < front.length by omega)]
  refine ⟨front ++ [b + 1], hchanged, by simp, ?_, ?_⟩
  · refine hequal _ (before ++ [b + 1]) (length_of_checkQuery hchanged) ?_ ?_
    · rw [take_append_of_le_length hfront, take_append_of_le_length hfront]
    · rw [drop_append_of_le_length hfront, hdrop, append_assoc]
  · have h3 : 3 ≤ front.length := by
      rw [dnsHeaderSize] at hfront
      omega
    intro heq
    rw [hashQuery_init, hashQuery_init, hbyte, drop_append_of_le_length h3,
      drop_append_of_le_length h3, foldl_append, foldl_append] at heq
    have hnext : ∀ b : Byte, b ≠ b + 1 := by decide +kernel
    exact hnext b (hashByte_inj heq)

end DnsPacket

namespace ResCache

open DnsPacket (checkQuery init countedEnd Complete exists_hashQuery_ne)

theorem entryInitKey_eq_some {q : List Byte} (h : checkQuery (init q) = true) :
    ∃ e, entryInitKey q = some e := by
  simp [entryInitKey, h]

/-- An entry with the hash of a query and an equal query is found, and so is a request with its
hash. -/
theorem found_of_entryHash {q q' : List Byte} {e e' : Entry} (he : entryInitKey q = some e)
    (he' : entryInitKey q' = some e') (hequals : entryEquals false e e' = true)
    (hhash : entryHash q = entryHash q') {c : Cache} (hc : c.Sound) :
    (∀ a, (∃ k, c.view.content a = some k ∧ k.query = q) →
        ∃ slot b, c.lookupP e' none = some slot ∧ c.read slot = some (some b)) ∧
      ∀ ri ∈ c.pendingRequests, ri.hash = e.hash → ∀ caller alloc,
        (c.checkPendingRequest e' caller alloc).1.isSome := by
  obtain ⟨hkey, rfl⟩ := Cache.isKey_of_entryInitKey he
  obtain ⟨hkey', rfl⟩ := Cache.isKey_of_entryInitKey he'
  refine ⟨fun a ⟨k, hk, hq⟩ => ?_, fun ri hri heq caller alloc => ?_⟩
  · obtain ⟨chain, mru, hshape⟩ := hc.shape
    have hmatches : Cache.Matches c.view e' none a :=
      ⟨k, hk, by rw [hshape.keyed.hash hk, hq, hhash, hkey'.hash],
        by rwa [hq, ← entryEquals_eq]⟩
    obtain ⟨slot, found, hlookup, hread, hfound⟩ := Cache.lookupP_key hshape.table e'
    cases found with
    | none => exact absurd hmatches (hfound.2 a)
    | some b => exact ⟨slot, b, hlookup, hread⟩
  · have hsome : (c.pendingRequests.find? fun ri => ri.hash = e'.hash).isSome := by
      rw [find?_isSome]
      exact ⟨ri, hri, by simp [heq, hkey.hash, hhash, hkey'.hash]⟩
    obtain ⟨found, hfound⟩ := Option.isSome_iff_exists.mp hsome
    simp [Cache.checkPendingRequest, hfound]

/-- **Equal queries are found**: all the queries that equal one have its hash, and find its entries
and requests, exactly when nothing follows its last counted record. A query that ends before that
equals no other. -/
theorem equal_queries_found {q : List Byte} {e : Entry} (he : entryInitKey q = some e) :
    (∀ q' e', entryInitKey q' = some e' → entryEquals false e e' = true →
      entryHash q = entryHash q' ∧ ∀ c : Cache, c.Sound →
        (∀ a, (∃ k, c.view.content a = some k ∧ k.query = q) →
          ∃ slot b, c.lookupP e' none = some slot ∧ c.read slot = some (some b)) ∧
        ∀ ri ∈ c.pendingRequests, ri.hash = e.hash → ∀ caller alloc,
          (c.checkPendingRequest e' caller alloc).1.isSome) ↔
      (Complete q → countedEnd q = q.length) := by
  obtain ⟨hkey, rfl⟩ := Cache.isKey_of_entryInitKey he
  constructor
  · intro hfound hcomplete
    by_contra hends
    obtain ⟨q', hq', hlen, hequal, hne⟩ := exists_hashQuery_ne hkey.checked hcomplete hends
    obtain ⟨e', he'⟩ := entryInitKey_eq_some hq'
    obtain ⟨-, rfl⟩ := Cache.isKey_of_entryInitKey he'
    refine hne (hfound _ e' he' ?_).1
    rwa [entryEquals, if_neg (not_not.mpr hlen)]
  · intro hends q' e' he' hequals
    obtain ⟨hkey', rfl⟩ := Cache.isKey_of_entryInitKey he'
    have hhash : entryHash e.query = entryHash e'.query := by
      have hequal := hequals
      rw [entryEquals] at hequal
      split at hequal
      · cases hequal
      · rename_i hlen
        rw [not_not] at hlen
        obtain ⟨-, hcomplete⟩ := DnsPacket.sameButIgnored_of_isEqualQuery hkey.checked
          hkey'.checked hlen hequal
        exact DnsPacket.hashQuery_of_isEqualQuery hkey.checked hkey'.checked hlen
          (hends hcomplete) hequal
    exact ⟨hhash, fun c hc => found_of_entryHash he he' hequals hhash hc⟩

theorem equal_queries_found_sample :
    ∃ e e', entryInitKey (sampleQuery 7) = some e ∧ entryInitKey (sampleQuery 9) = some e' ∧
      entryEquals false e e' = true ∧ entryHash (sampleQuery 7) = entryHash (sampleQuery 9) :=
  ⟨_, _, rfl, rfl, by decide +kernel,
    ((equal_queries_found rfl).mpr (by decide +kernel) _ _ rfl (by decide +kernel)).1⟩

/-- A byte behind the question is not compared, and it is hashed. -/
theorem equal_queries_hash_differ : ∃ e e',
    entryInitKey (sampleQuery 7 ++ [0]) = some e ∧ entryInitKey (sampleQuery 7 ++ [1]) = some e' ∧
      entryEquals false e e' = true ∧
      entryHash (sampleQuery 7 ++ [0]) ≠ entryHash (sampleQuery 7 ++ [1]) :=
  ⟨_, _, rfl, rfl, by decide +kernel, by decide +kernel⟩

end ResCache

end Netd
