import Mathlib.Tactic.IntervalCases
import Netd.Resolv.DnsTlsServer

/-!
# DNS query packets

The functions of `res_cache.cpp` that check, hash and compare raw query packets. A pointer into a
packet is kept as the bytes from it to the end, so a pointer at or past the end is the empty list.

A query is checked up to its last question (`checkQuery`). Additional records are compared, but
never checked, so a packet that is accepted may end before its additional record does. Such a query
does not equal itself; `Complete` excludes it.

A missing length of the additional data is read as -1, and `memcmp` is called for `SIZE_MAX` bytes.
This ends in a fault unless a difference is found before; without a fault two blocks are equal all
the way only if they are the same block (`same`). For one block the fault is left out, so the model
has more runs than the code there: it goes on where the code stops.
-/

namespace Netd

open List Option

/-- `base` is the whole packet, and `cursor` what is left of it. -/
structure DnsPacket where
  base : List Byte
  /-- The bytes from the cursor on. -/
  cursor : List Byte

namespace DnsPacket

/-- A packet with the cursor at its start. -/
def init (buff : List Byte) : DnsPacket := ⟨buff, buff⟩

def rewind (p : DnsPacket) : DnsPacket := { p with cursor := p.base }

/-- Move the cursor, at most to the end. -/
def skip (p : DnsPacket) (count : Nat) : DnsPacket := { p with cursor := p.cursor.drop count }

/-- `_dnsPacket_readInt16`: the number at the cursor, or -1 at the end. -/
def readInt16 (p : DnsPacket) : Int × DnsPacket :=
  match p.cursor with
  | hi :: lo :: rest => ((hi.val : Int) * 256 + lo.val, { p with cursor := rest })
  | _ => (-1, p)

/-- A byte of the header. Behind the end it is zero. -/
def byteAt (p : DnsPacket) (i : Nat) : Nat := (p.base.getD i 0).val

/-- The 16-bit number at a place in the header. -/
def int16At (p : DnsPacket) (i : Nat) : Nat := p.byteAt i * 256 + p.byteAt (i + 1)

/-! ## Query checking -/

def dnsHeaderSize : Nat := 12

def dnsTypeA : List Byte := [0, 1]
def dnsTypePtr : List Byte := [0, 12]
def dnsTypeMx : List Byte := [0, 15]
def dnsTypeAaaa : List Byte := [0, 28]

/-- The text is `"\00\0377"`, and an octal escape has at most three digits, so
its second byte is `\037`. -/
def dnsTypeAll : List Byte := [0, 31]

def dnsClassIn : List Byte := [0, 1]

/-- `_dnsPacket_checkBytes`. The cursor is only advanced in the case of success. -/
def checkBytes (bytes : List Byte) (p : DnsPacket) : Option DnsPacket :=
  if p.cursor.length < bytes.length then none
  else if p.cursor.take bytes.length = bytes then some (p.skip bytes.length) else none

/-- The loop of `_dnsPacket_checkQName`. The number counts the bytes that are left of the
label. -/
def skipLabels : Nat → List Byte → Option (List Byte)
  | _, [] => none
  | left + 1, _ :: rest => skipLabels left rest
  | 0, c :: rest =>
    if c = 0 then some rest
    else if 64 ≤ c.val then none
    else skipLabels c.val rest

/-- The name of a question: labels of at most 63 bytes that end inside the packet. -/
def checkQName (p : DnsPacket) : Option DnsPacket :=
  (skipLabels 0 p.cursor).map fun rest => { p with cursor := rest }

/-- A question with a type and a class that are cached. -/
def checkQR (p : DnsPacket) : Option DnsPacket := do
  let p ← checkQName p
  let p ← checkBytes dnsTypeA p <|> checkBytes dnsTypePtr p <|> checkBytes dnsTypeMx p <|>
    checkBytes dnsTypeAaaa p <|> checkBytes dnsTypeAll p
  checkBytes dnsClassIn p

/-- The loop of `_dnsPacket_checkQuery`. -/
def checkQRs : Nat → DnsPacket → Option DnsPacket
  | 0, p => some p
  | count + 1, p => (checkQR p).bind (checkQRs count)

/-- The queries that the cache takes: flags and counts, one question or more, and no answers. -/
def checkQuery (p : DnsPacket) : Bool :=
  if p.base.length < dnsHeaderSize then false
  else if p.byteAt 2 &&& 0xFC ≠ 0 ∨ p.byteAt 3 &&& 0xCF ≠ 0 then false
  else
    let qdCount := p.int16At 4
    let anCount := p.int16At 6
    let dnCount := p.int16At 8
    let arCount := p.int16At 10
    if anCount ≠ 0 ∨ dnCount ≠ 0 ∨ arCount > 1 then false
    else if qdCount = 0 then false
    else (checkQRs qdCount { p with cursor := p.base.drop dnsHeaderSize }).isSome

/-! ## Query hashing -/

def fnvMult : BitVec 32 := 16777619#32
def fnvBasis : BitVec 32 := 2166136261#32

/-- One step of the FNV hash. -/
def hashByte (hash : BitVec 32) (b : Byte) : BitVec 32 := hash * fnvMult ^^^ BitVec.ofNat 32 b.val

/-- `_dnsPacket_hashBytes`, whose loop tests `numBytes` and does not decrement it. -/
def hashBytes (p : DnsPacket) (numBytes : Int) (hash : BitVec 32) : BitVec 32 × DnsPacket :=
  if numBytes > 0 then (p.cursor.foldl hashByte hash, { p with cursor := [] }) else (hash, p)

/-- The loop of `_dnsPacket_hashQName`, with the number of bytes left of the label. -/
def hashLabels : Nat → List Byte → BitVec 32 → BitVec 32 × List Byte
  | _, [], hash => (hash, [])
  | left + 1, b :: rest, hash => hashLabels left rest (hashByte hash b)
  | 0, c :: rest, hash =>
    if c = 0 then (hash, rest)
    else if 64 ≤ c.val then (hash, rest)
    else if rest.length ≤ c.val then (hash, rest)
    else hashLabels c.val rest hash

/-- The labels of a name, with their lengths. -/
def hashQName (p : DnsPacket) (hash : BitVec 32) : BitVec 32 × DnsPacket :=
  let (hash, rest) := hashLabels 0 p.cursor hash
  (hash, { p with cursor := rest })

/-- A question: its name, type and class. -/
def hashQR (p : DnsPacket) (hash : BitVec 32) : BitVec 32 × DnsPacket :=
  let (hash, p) := hashQName p hash
  hashBytes p 4 hash

/-- A record: a question, its time to live and its data. -/
def hashRR (p : DnsPacket) (hash : BitVec 32) : BitVec 32 × DnsPacket :=
  let (hash, p) := hashQR p hash
  let (hash, p) := hashBytes p 4 hash
  let (rdlength, p) := readInt16 p
  hashBytes p rdlength hash

/-- A loop over records. -/
def hashEach (record : DnsPacket → BitVec 32 → BitVec 32 × DnsPacket) :
    Nat → DnsPacket → BitVec 32 → BitVec 32 × DnsPacket
  | 0, p, hash => (hash, p)
  | count + 1, p, hash =>
    let (hash, p) := record p hash
    hashEach record count p hash

/-- The hash of a query, which leaves out its id. -/
def hashQuery (p : DnsPacket) : BitVec 32 :=
  let p := (rewind p).skip 2
  let hash := fnvBasis * fnvMult ^^^ BitVec.ofNat 32 (p.byteAt 2 &&& 1)
  let p := p.skip 1
  let (hash, p) := hashBytes p 1 hash
  let (count, p) := readInt16 p
  let p := p.skip 4
  let (arcount, p) := readInt16 p
  let (hash, p) := hashEach hashQR count.toNat p hash
  (hashEach hashRR arcount.toNat p hash).1

/-! ## Query comparison -/

/-- The loop of `_dnsPacket_isEqualDomainName`. A label that is cut off differs. -/
def equalLabels : Nat → List Byte → List Byte → Option (List Byte × List Byte)
  | left + 1, b₁ :: rest₁, b₂ :: rest₂ =>
    if b₁ = b₂ then equalLabels left rest₁ rest₂ else none
  | 0, c₁ :: rest₁, c₂ :: rest₂ =>
    if c₁ ≠ c₂ then none
    else if c₁ = 0 then some (rest₁, rest₂)
    else if 64 ≤ c₁.val then none
    else equalLabels c₁.val rest₁ rest₂
  | _, _, _ => none

/-- Two names are equal label by label. Both cursors move on. -/
def isEqualDomainName (p₁ p₂ : DnsPacket) : Option (DnsPacket × DnsPacket) :=
  (equalLabels 0 p₁.cursor p₂.cursor).map fun (rest₁, rest₂) =>
    ({ p₁ with cursor := rest₁ }, { p₂ with cursor := rest₂ })

variable (same : Bool)

/-- `_dnsPacket_isEqualBytes`. With a negative number the packets are compared past their ends,
which is taken to end without a fault: with a difference for two blocks, and without one for one
block. The cursors then move back, but nothing more is read. -/
def isEqualBytes (p₁ p₂ : DnsPacket) (numBytes : Int) : Option (DnsPacket × DnsPacket) :=
  if numBytes < 0 then if same then some (p₁, p₂) else none
  else if p₁.cursor.length < numBytes.toNat ∨ p₂.cursor.length < numBytes.toNat then none
  else if p₁.cursor.take numBytes.toNat ≠ p₂.cursor.take numBytes.toNat then none
  else some (p₁.skip numBytes.toNat, p₂.skip numBytes.toNat)

/-- Two questions are equal: names, types and classes. -/
def isEqualQR (p₁ p₂ : DnsPacket) : Option (DnsPacket × DnsPacket) := do
  let (p₁, p₂) ← isEqualDomainName p₁ p₂
  isEqualBytes same p₁ p₂ 4

/-- Two records are equal, with their times to live and their data. -/
def isEqualRR (p₁ p₂ : DnsPacket) : Option (DnsPacket × DnsPacket) := do
  let (p₁, p₂) ← isEqualQR same p₁ p₂
  let (p₁, p₂) ← isEqualBytes same p₁ p₂ 4
  let (rdlength₁, p₁) := readInt16 p₁
  let (rdlength₂, p₂) := readInt16 p₂
  if rdlength₁ ≠ rdlength₂ then none else isEqualBytes same p₁ p₂ rdlength₁

/-- A loop over records. -/
def equalEach (record : DnsPacket → DnsPacket → Option (DnsPacket × DnsPacket)) :
    Nat → DnsPacket → DnsPacket → Option (DnsPacket × DnsPacket)
  | 0, p₁, p₂ => some (p₁, p₂)
  | count + 1, p₁, p₂ => (record p₁ p₂).bind fun (p₁, p₂) => equalEach record count p₁ p₂

/-- Two queries are equal in flags, questions and additional records. -/
def isEqualQuery (p₁ p₂ : DnsPacket) : Bool :=
  let p₁ := rewind p₁
  let p₂ := rewind p₂
  if p₁.byteAt 2 &&& 1 ≠ p₂.byteAt 2 &&& 1 then false
  else if p₁.byteAt 3 ≠ p₂.byteAt 3 then false
  else
    let (count₁, p₁) := readInt16 (p₁.skip 4)
    let (count₂, p₂) := readInt16 (p₂.skip 4)
    if count₁ ≠ count₂ ∨ count₁ < 0 then false
    else
      let (arcount₁, p₁) := readInt16 (p₁.skip 4)
      let (arcount₂, p₂) := readInt16 (p₂.skip 4)
      if arcount₁ ≠ arcount₂ ∨ arcount₁ < 0 then false
      else
        match equalEach (isEqualQR same) count₁.toNat p₁ p₂ with
        | none => false
        | some (p₁, p₂) => (equalEach (isEqualRR same) arcount₁.toNat p₁ p₂).isSome

/-! ## The counted records -/

section Records

def skipBytes (count : Nat) (l : List Byte) : Option (List Byte) :=
  if l.length < count then none else some (l.drop count)

/-- Skip a question: a name, its type and its class. -/
def skipQuestion (l : List Byte) : Option (List Byte) := (skipLabels 0 l).bind (skipBytes 4)

/-- What is left behind one record. -/
def skipRecord (l : List Byte) : Option (List Byte) := do
  let l ← skipQuestion l
  match ← skipBytes 4 l with
  | hi :: lo :: rest => skipBytes (hi.val * 256 + lo.val) rest
  | _ => none

/-- What is left behind some records. -/
def skipEach (record : List Byte → Option (List Byte)) : Nat → List Byte → Option (List Byte)
  | 0, l => some l
  | count + 1, l => (record l).bind (skipEach record count)

/-- What follows the records that the header of a query counts, if they are all there. -/
def afterRecords (q : List Byte) : Option (List Byte) :=
  (skipEach skipQuestion ((init q).int16At 4) (q.drop dnsHeaderSize)).bind
    (skipEach skipRecord ((init q).int16At 10))

/-- The packet has all the records that its header counts. -/
def Complete (q : List Byte) : Prop := (afterRecords q).isSome

instance Complete.decidable (q : List Byte) : Decidable (Complete q) :=
  inferInstanceAs (Decidable ((afterRecords q).isSome = true))

/-- Where the last record that the header counts ends. -/
def countedEnd (q : List Byte) : Nat := q.length - ((afterRecords q).getD []).length

/-- Two queries have the same bytes, except for the id, the TC bit and what follows the last
counted record. -/
structure SameButIgnored (q q' : List Byte) : Prop where
  length_eq : q.length = q'.length
  flags : (q.getD 2 0).val ||| 2 = (q'.getD 2 0).val ||| 2
  bytes : ∀ i, 3 ≤ i → i < countedEnd q → q[i]? = q'[i]?

/-! ## What a comparison says -/

variable {p₁ p₂ p₁' p₂' : DnsPacket} {l l₁ l₂ s₁ s₂ : List Byte}

/-- The same bytes have been read from both. -/
def Common (l₁ l₂ s₁ s₂ : List Byte) : Prop := ∃ pre, l₁ = pre ++ s₁ ∧ l₂ = pre ++ s₂

theorem Common.refl (l₁ l₂ : List Byte) : Common l₁ l₂ l₁ l₂ := ⟨[], rfl, rfl⟩

theorem Common.trans {t1 t2 : List Byte} (h : Common l₁ l₂ s₁ s₂) (h' : Common s₁ s₂ t1 t2) :
    Common l₁ l₂ t1 t2 := by
  obtain ⟨pre, rfl, rfl⟩ := h
  obtain ⟨pre', rfl, rfl⟩ := h'
  exact ⟨pre ++ pre', by simp, by simp⟩

/-- A comparison that succeeds has read the same bytes from both, and they are one record. -/
def Compares (record : DnsPacket → DnsPacket → Option (DnsPacket × DnsPacket))
    (skip : List Byte → Option (List Byte)) : Prop :=
  ∀ {p₁ p₂ p₁' p₂' : DnsPacket}, record p₁ p₂ = some (p₁', p₂') →
    Common p₁.cursor p₂.cursor p₁'.cursor p₂'.cursor ∧ skip p₁.cursor = some p₁'.cursor

/-- A record that is there equals the same bytes in any packet, whatever follows them. -/
def Framed (record : DnsPacket → DnsPacket → Option (DnsPacket × DnsPacket))
    (skip : List Byte → Option (List Byte)) : Prop :=
  ∀ (p₁ : DnsPacket) {s₁ : List Byte}, skip p₁.cursor = some s₁ →
    ∃ pre, p₁.cursor = pre ++ s₁ ∧ ∀ (p₂ : DnsPacket) {s₂ : List Byte}, p₂.cursor = pre ++ s₂ →
      record p₁ p₂ = some ({ p₁ with cursor := s₁ }, { p₂ with cursor := s₂ })

variable {q q' : List Byte} {left : Nat}

theorem equalLabels_common (h : equalLabels left l₁ l₂ = some (s₁, s₂)) :
    Common l₁ l₂ s₁ s₂ ∧ skipLabels left l₁ = some s₁ := by
  induction l₁ generalizing left l₂ with
  | nil => cases left <;> simp [equalLabels] at h
  | cons b1 rest1 ih =>
    cases l₂ with
    | nil => cases left <;> simp [equalLabels] at h
    | cons b2 rest2 =>
      cases left with
      | succ left =>
        simp only [equalLabels] at h
        split at h
        · rename_i heq
          subst heq
          obtain ⟨hcommon, hskip⟩ := ih h
          refine ⟨Common.trans ⟨[b1], rfl, rfl⟩ hcommon, ?_⟩
          rw [skipLabels, hskip]
        · cases h
      | zero =>
        simp only [equalLabels] at h
        split at h
        · cases h
        rename_i heq
        rw [not_not] at heq
        subst heq
        rw [skipLabels]
        split at h
        · rename_i hzero
          cases h
          rw [if_pos hzero]
          exact ⟨⟨[b1], rfl, rfl⟩, rfl⟩
        · rename_i hzero
          split at h
          · cases h
          rename_i hlong
          obtain ⟨hcommon, hskip⟩ := ih h
          rw [if_neg hzero, if_neg hlong]
          exact ⟨Common.trans ⟨[b1], rfl, rfl⟩ hcommon, hskip⟩

theorem equalLabels_of_skipLabels (h : skipLabels left l₁ = some s₁) :
    ∃ pre, l₁ = pre ++ s₁ ∧ ∀ s₂, equalLabels left l₁ (pre ++ s₂) = some (s₁, s₂) := by
  induction l₁ generalizing left with
  | nil => cases left <;> simp [skipLabels] at h
  | cons b rest ih =>
    cases left with
    | succ left =>
      obtain ⟨pre, rfl, heq⟩ := ih h
      refine ⟨b :: pre, rfl, fun s₂ => ?_⟩
      simp only [cons_append, equalLabels, if_true]
      exact heq s₂
    | zero =>
      simp only [skipLabels] at h
      split at h
      · rename_i hzero
        cases h
        exact ⟨[b], rfl, fun s₂ => by simp [equalLabels, hzero]⟩
      rename_i hzero
      split at h
      · cases h
      rename_i hlong
      obtain ⟨pre, rfl, heq⟩ := ih h
      refine ⟨b :: pre, rfl, fun s₂ => ?_⟩
      simp only [cons_append, equalLabels, ne_eq, not_true_eq_false, if_false]
      rw [if_neg hzero, if_neg hlong]
      exact heq s₂

theorem isEqualBytes_compares (count : Nat) :
    Compares (fun p₁ p₂ => isEqualBytes same p₁ p₂ count) (skipBytes count) := by
  intro p₁ p₂ p₁' p₂' h
  simp only [isEqualBytes, Int.toNat_natCast] at h
  rw [if_neg (by omega)] at h
  split at h
  · cases h
  rename_i hlen
  split at h
  · cases h
  rename_i htake
  rw [not_not] at htake
  cases h
  obtain ⟨hlen1, -⟩ := not_or.mp hlen
  refine ⟨⟨p₁.cursor.take count, (take_append_drop ..).symm, ?_⟩, if_neg hlen1⟩
  rw [htake]
  exact (take_append_drop ..).symm

theorem isEqualBytes_framed (count : Nat) :
    Framed (fun p₁ p₂ => isEqualBytes same p₁ p₂ count) (skipBytes count) := by
  intro p₁ s₁ h
  rw [skipBytes] at h
  split at h
  · cases h
  rename_i hlen
  cases h
  refine ⟨p₁.cursor.take count, (take_append_drop ..).symm, ?_⟩
  intro p₂ s₂ h2
  have htake : (p₁.cursor.take count).length = count := by
    rw [length_take]
    omega
  have hlen' : ¬ p₂.cursor.length < count := by
    rw [h2, length_append, htake]
    omega
  simp only [isEqualBytes, Int.toNat_natCast]
  rw [if_neg (by omega), if_neg (not_or.mpr ⟨hlen, hlen'⟩), if_neg]
  · simp only [skip, h2, drop_left' htake]
  · simp only [h2, take_left' htake, ne_eq, not_true_eq_false, not_false_eq_true]

theorem isEqualQR_compares : Compares (isEqualQR same) skipQuestion := by
  intro p₁ p₂ p₁' p₂' h
  obtain ⟨⟨q1, q2⟩, hname, hbytes⟩ := bind_eq_some_iff.mp h
  obtain ⟨⟨s₁, s₂⟩, hlabels, heq⟩ := map_eq_some_iff.mp hname
  cases heq
  obtain ⟨hcommon, hskip⟩ := equalLabels_common hlabels
  obtain ⟨hcommon', hskip'⟩ := isEqualBytes_compares same 4 hbytes
  refine ⟨hcommon.trans hcommon', ?_⟩
  rw [skipQuestion, hskip]
  exact hskip'

theorem isEqualQR_framed : Framed (isEqualQR same) skipQuestion := by
  intro p₁ s₁ h
  obtain ⟨l, hname, hbytes⟩ := bind_eq_some_iff.mp h
  obtain ⟨pre, hpre, hlabels⟩ := equalLabels_of_skipLabels hname
  obtain ⟨pre', hpre', hequal⟩ := isEqualBytes_framed same 4 { p₁ with cursor := l } hbytes
  simp only at hpre'
  refine ⟨pre ++ pre', by rw [hpre, hpre', append_assoc], ?_⟩
  intro p₂ s₂ h2
  rw [append_assoc] at h2
  rw [isEqualQR, isEqualDomainName, h2, hlabels]
  exact hequal { p₂ with cursor := pre' ++ s₂ } rfl

/-- A record compared within the packets. Where the length of its data is missing in different
blocks, this fails. -/
theorem isEqualRR_compares : Compares (isEqualRR false) skipRecord := by
  intro p₁ p₂ p₁' p₂' h
  obtain ⟨⟨q1, q2⟩, hqr, h⟩ := bind_eq_some_iff.mp h
  obtain ⟨⟨r1, r2⟩, httl, h⟩ := bind_eq_some_iff.mp h
  obtain ⟨hcommon, hskip⟩ := isEqualQR_compares false hqr
  obtain ⟨hcommon', hskip'⟩ := isEqualBytes_compares false 4 httl
  have hbefore := hcommon.trans hcommon'
  rw [skipRecord, hskip]
  simp only [bind_eq_bind, bind_some, hskip']
  simp only [ite_not] at h
  split at h
  · rename_i hlen
    rcases hr1 : r1.cursor with _ | ⟨hi1, _ | ⟨lo1, rest1⟩⟩
    · simp [readInt16, hr1, isEqualBytes] at h
    · simp [readInt16, hr1, isEqualBytes] at h
    rcases hr2 : r2.cursor with _ | ⟨hi2, _ | ⟨lo2, rest2⟩⟩
    · simp only [readInt16, hr1, hr2] at hlen
      omega
    · simp only [readInt16, hr1, hr2] at hlen
      omega
    simp only [readInt16, hr1, hr2] at hlen h
    -- Equal lengths have equal bytes.
    have hhi : hi1 = hi2 := Fin.ext (by omega)
    have hlo : lo1 = lo2 := Fin.ext (by omega)
    subst hhi
    subst hlo
    rw [hr1, hr2] at hbefore
    obtain ⟨hcommon'', hskip''⟩ := isEqualBytes_compares false _ h
    exact ⟨(hbefore.trans ⟨[hi1, lo1], rfl, rfl⟩).trans hcommon'', hskip''⟩
  · cases h

theorem isEqualRR_framed : Framed (isEqualRR same) skipRecord := by
  intro p₁ s₁ h
  obtain ⟨l₁, hqr, h⟩ := bind_eq_some_iff.mp h
  obtain ⟨l₂, httl, h⟩ := bind_eq_some_iff.mp h
  rcases l₂ with _ | ⟨hi, _ | ⟨lo, rest⟩⟩
  · cases h
  · cases h
  obtain ⟨pre, hpre, hquestion⟩ := isEqualQR_framed same p₁ hqr
  obtain ⟨pre', hpre', hbytes⟩ := isEqualBytes_framed same 4 { p₁ with cursor := l₁ } httl
  obtain ⟨pre'', hpre'', hdata⟩ := isEqualBytes_framed same _ { p₁ with cursor := rest } h
  simp only at hpre' hpre''
  refine ⟨pre ++ (pre' ++ hi :: lo :: pre''), by rw [hpre, hpre', hpre'']; simp, ?_⟩
  intro p₂ s₂ h2
  have h2 : p₂.cursor = pre ++ (pre' ++ hi :: lo :: (pre'' ++ s₂)) := by simpa using h2
  have hbytes' : isEqualBytes same { p₁ with cursor := l₁ }
      { p₂ with cursor := pre' ++ hi :: lo :: (pre'' ++ s₂) } 4 =
      some ({ p₁ with cursor := hi :: lo :: rest },
        { p₂ with cursor := hi :: lo :: (pre'' ++ s₂) }) := hbytes _ rfl
  rw [isEqualRR, hquestion p₂ h2]
  simp only [bind_eq_bind, bind_some, hbytes', readInt16, ne_eq, not_true_eq_false, if_false]
  exact hdata { p₂ with cursor := pre'' ++ s₂ } rfl

variable {record : DnsPacket → DnsPacket → Option (DnsPacket × DnsPacket)}
  {skipOne : List Byte → Option (List Byte)}

theorem Compares.each (h : Compares record skipOne) (count : Nat) :
    Compares (equalEach record count) (skipEach skipOne count) := by
  induction count with
  | zero =>
    intro p₁ p₂ p₁' p₂' heq
    cases heq
    exact ⟨Common.refl .., rfl⟩
  | succ count ih =>
    intro p₁ p₂ p₁' p₂' heq
    obtain ⟨⟨q1, q2⟩, hfirst, hrest⟩ := bind_eq_some_iff.mp heq
    obtain ⟨hcommon, hskip⟩ := h hfirst
    obtain ⟨hcommon', hskip'⟩ := ih hrest
    refine ⟨hcommon.trans hcommon', ?_⟩
    rw [skipEach, hskip]
    exact hskip'

theorem Framed.each (h : Framed record skipOne) (count : Nat) :
    Framed (equalEach record count) (skipEach skipOne count) := by
  induction count with
  | zero =>
    intro p₁ s₁ hskip
    cases hskip
    refine ⟨[], rfl, fun p₂ s₂ h2 => ?_⟩
    rw [nil_append] at h2
    rw [equalEach, ← h2]
  | succ count ih =>
    intro p₁ s₁ hskip
    obtain ⟨l, hfirst, hrest⟩ := bind_eq_some_iff.mp hskip
    obtain ⟨pre, hpre, hequal⟩ := h p₁ hfirst
    obtain ⟨pre', hpre', hequal'⟩ := ih { p₁ with cursor := l } hrest
    simp only at hpre'
    refine ⟨pre ++ pre', by rw [hpre, hpre', append_assoc], fun p₂ s₂ h2 => ?_⟩
    rw [append_assoc] at h2
    rw [equalEach, hequal p₂ h2]
    exact hequal' { p₂ with cursor := pre' ++ s₂ } rfl

theorem length_of_checkQuery (h : checkQuery (init q) = true) : dnsHeaderSize ≤ q.length := by
  rw [checkQuery] at h
  split at h
  · cases h
  · next hlen => exact not_lt.mp hlen

theorem fields_of_checkQuery (h : checkQuery (init q) = true) :
    (init q).byteAt 2 &&& 0xFC = 0 ∧ (init q).int16At 6 = 0 ∧ (init q).int16At 8 = 0 := by
  rw [checkQuery] at h
  split at h
  · cases h
  split at h
  · cases h
  rename_i hflags
  rw [not_or, not_not] at hflags
  simp only at h
  split at h
  · cases h
  rename_i hcounts
  simp only [not_or, not_not] at hcounts
  exact ⟨hflags.1, hcounts.1, hcounts.2.1⟩

theorem readInt16_drop {n : Nat} (h : n + 2 ≤ q.length) :
    readInt16 ⟨q, q.drop n⟩ = (((init q).int16At n : Int), ⟨q, q.drop (n + 2)⟩) := by
  have h0 : n < q.length := by omega
  have h1 : n + 1 < q.length := by omega
  rw [drop_eq_getElem_cons h0, drop_eq_getElem_cons h1, readInt16]
  simp only [int16At, byteAt, init, getD_eq_getElem?_getD, List.getElem?_eq_getElem h0,
    List.getElem?_eq_getElem h1, getD_some]
  refine Prod.ext ?_ rfl
  omega

/-- The parts of a comparison: the flags, the counts and the records. -/
theorem isEqualQuery_iff (hlen : dnsHeaderSize ≤ q.length) (hlen' : dnsHeaderSize ≤ q'.length) :
    isEqualQuery same (init q) (init q') = true ↔
      (init q).byteAt 2 &&& 1 = (init q').byteAt 2 &&& 1 ∧
      (init q).byteAt 3 = (init q').byteAt 3 ∧
      (init q).int16At 4 = (init q').int16At 4 ∧ (init q).int16At 10 = (init q').int16At 10 ∧
      ∃ p₁ p₂, equalEach (isEqualQR same) ((init q).int16At 4) ⟨q, q.drop 12⟩ ⟨q', q'.drop 12⟩ =
          some (p₁, p₂) ∧
        (equalEach (isEqualRR same) ((init q).int16At 10) p₁ p₂).isSome = true := by
  rw [dnsHeaderSize] at hlen hlen'
  have hskip : ∀ (r : List Byte), (rewind (init r)).skip 4 = ⟨r, r.drop 4⟩ := fun r => rfl
  have hskip' : ∀ (r : List Byte), skip ⟨r, r.drop 6⟩ 4 = ⟨r, r.drop 10⟩ := by
    intro r
    simp [skip]
  have hbyte : ∀ (r : List Byte) i, (rewind (init r)).byteAt i = (init r).byteAt i := fun r i => rfl
  simp only [isEqualQuery, hskip, hbyte, readInt16_drop (show 4 + 2 ≤ q.length by omega),
    readInt16_drop (show 4 + 2 ≤ q'.length by omega), hskip',
    readInt16_drop (show 10 + 2 ≤ q.length by omega),
    readInt16_drop (show 10 + 2 ≤ q'.length by omega), Int.toNat_natCast]
  constructor
  · intro h
    split at h
    · cases h
    split at h
    · cases h
    split at h
    · cases h
    split at h
    · cases h
    cases heach : equalEach (isEqualQR same) ((init q).int16At 4)
        ⟨q, q.drop 12⟩ ⟨q', q'.drop 12⟩ with
    | none =>
      rw [heach] at h
      cases h
    | some r =>
      rw [heach] at h
      exact ⟨by omega, by omega, by omega, by omega, r.1, r.2, rfl, h⟩
  · rintro ⟨hrd, hadcd, hqd, har, p₁, p₂, hquestions, hrecs⟩
    rw [if_neg (by omega), if_neg (by omega), if_neg (by omega), if_neg (by omega), hquestions]
    exact hrecs

/-- The counted records are a part of the packet, and a query with the same header and records
equals it. -/
theorem isEqualQuery_of_afterRecords (hlen : dnsHeaderSize ≤ q.length)
    (h : afterRecords q = some s₁) : ∃ pre, q.drop dnsHeaderSize = pre ++ s₁ ∧
      ∀ q' s₂, dnsHeaderSize ≤ q'.length → q'.take dnsHeaderSize = q.take dnsHeaderSize →
        q'.drop dnsHeaderSize = pre ++ s₂ → isEqualQuery same (init q) (init q') = true := by
  obtain ⟨l, hquestions, hrecords⟩ := bind_eq_some_iff.mp h
  obtain ⟨pre, hpre, hequal⟩ :=
    (isEqualQR_framed same).each _ ⟨q, q.drop dnsHeaderSize⟩ hquestions
  obtain ⟨pre', hpre', hequal'⟩ := (isEqualRR_framed same).each _ ⟨q, l⟩ hrecords
  simp only at hpre hpre'
  refine ⟨pre ++ pre', by rw [hpre, hpre', append_assoc], ?_⟩
  intro q' s₂ hlen' htake hdrop
  rw [append_assoc] at hdrop
  have hbyte : ∀ i < dnsHeaderSize, (init q).byteAt i = (init q').byteAt i := by
    intro i hi
    have hget := congrArg (·[i]?) htake
    simp only [getElem?_take, if_pos hi] at hget
    simp only [byteAt, init, getD_eq_getElem?_getD, hget]
  have hint : ∀ i, i + 1 < dnsHeaderSize → (init q).int16At i = (init q').int16At i := by
    intro i hi
    rw [int16At, int16At, hbyte i (by omega), hbyte (i + 1) hi]
  refine (isEqualQuery_iff same hlen hlen').mpr ⟨by rw [hbyte 2 (by decide)], hbyte 3 (by decide),
    hint 4 (by decide), hint 10 (by decide), ⟨q, l⟩, ⟨q', pre' ++ s₂⟩, ?_, ?_⟩
  · exact hequal ⟨q', q'.drop dnsHeaderSize⟩ hdrop
  · rw [hequal' ⟨q', pre' ++ s₂⟩ rfl]
    rfl

theorem isEqualQuery_self (hlen : dnsHeaderSize ≤ q.length) (h : Complete q) :
    isEqualQuery same (init q) (init q) = true := by
  obtain ⟨l, hl⟩ := isSome_iff_exists.mp h
  obtain ⟨pre, hpre, hequal⟩ := isEqualQuery_of_afterRecords same hlen hl
  exact hequal q l hlen rfl hpre

theorem byteAt_lt (p : DnsPacket) (i : Nat) : p.byteAt i < 256 := (p.base.getD i 0).isLt

theorem getElem?_of_byteAt {i : Nat} (hi : i < q.length) (hlen : q.length = q'.length)
    (h : (init q).byteAt i = (init q').byteAt i) : q[i]? = q'[i]? := by
  have hi' : i < q'.length := hlen ▸ hi
  rw [List.getElem?_eq_getElem hi, List.getElem?_eq_getElem hi', some_inj]
  simp only [byteAt, init, getD_eq_getElem?_getD, List.getElem?_eq_getElem hi,
    List.getElem?_eq_getElem hi', getD_some] at h
  exact Fin.ext h

theorem byteAt_of_int16At {i : Nat} (h : (init q).int16At i = (init q').int16At i) :
    (init q).byteAt i = (init q').byteAt i ∧
      (init q).byteAt (i + 1) = (init q').byteAt (i + 1) := by
  simp only [int16At] at h
  have h1 := byteAt_lt (init q) (i + 1)
  have h2 := byteAt_lt (init q') (i + 1)
  omega

theorem or_two_of_and_eq_zero : ∀ a < 256, a &&& 0xFC = 0 → a ||| 2 = 2 + (a &&& 1) := by
  decide +kernel

/-- Equal queries in different blocks are complete, and differ at most where they may. -/
theorem sameButIgnored_of_isEqualQuery (hq : checkQuery (init q) = true)
    (hq' : checkQuery (init q') = true) (hlen : q.length = q'.length)
    (h : isEqualQuery false (init q) (init q') = true) : SameButIgnored q q' ∧ Complete q := by
  have hhead := length_of_checkQuery hq
  obtain ⟨hrd, hadcd, hqd, har, p₁, p₂, hquestions, hrecs⟩ :=
    (isEqualQuery_iff false hhead (length_of_checkQuery hq')).mp h
  obtain ⟨hflags, han, hns⟩ := fields_of_checkQuery hq
  obtain ⟨hflags', han', hns'⟩ := fields_of_checkQuery hq'
  obtain ⟨⟨r1, r2⟩, hrecs⟩ := isSome_iff_exists.mp hrecs
  obtain ⟨hcommon, hskip⟩ := Compares.each (isEqualQR_compares false) _ hquestions
  obtain ⟨hcommon', hskip'⟩ := Compares.each isEqualRR_compares _ hrecs
  have hafter : afterRecords q = some r1.cursor := by
    rw [afterRecords, dnsHeaderSize, hskip]
    exact hskip'
  obtain ⟨pre, hpre, hpre'⟩ := hcommon.trans hcommon'
  refine ⟨⟨hlen, ?_, ?_⟩, isSome_iff_exists.mpr ⟨_, hafter⟩⟩
  · have hor := or_two_of_and_eq_zero _ (byteAt_lt (init q) 2) hflags
    have hor' := or_two_of_and_eq_zero _ (byteAt_lt (init q') 2) hflags'
    rw [← hrd] at hor'
    exact hor.trans hor'.symm
  · intro i hi hend
    have hlt : i < q.length := by
      rw [countedEnd] at hend
      omega
    rcases Nat.lt_or_ge i 12 with hi12 | hi12
    · -- The header: the flags are compared, the counts are compared or zero.
      refine getElem?_of_byteAt hlt hlen ?_
      have hqd' := byteAt_of_int16At hqd
      have han'' := byteAt_of_int16At (han.trans han'.symm)
      have hns'' := byteAt_of_int16At (hns.trans hns'.symm)
      have har' := byteAt_of_int16At har
      interval_cases i
      · exact hadcd
      · exact hqd'.1
      · exact hqd'.2
      · exact han''.1
      · exact han''.2
      · exact hns''.1
      · exact hns''.2
      · exact har'.1
      · exact har'.2
    · -- The records: both packets have `pre` there.
      have hshift : ∀ r : List Byte, r[i]? = (r.drop 12)[i - 12]? := by
        intro r
        rw [List.getElem?_drop, Nat.add_sub_cancel' hi12]
      have hin : i - 12 < pre.length := by
        have hlength := congrArg List.length hpre
        rw [countedEnd, hafter, getD_some] at hend
        rw [length_drop, length_append] at hlength
        omega
      rw [hshift q, hshift q']
      simp only at hpre hpre'
      rw [hpre, hpre', List.getElem?_append_left hin, List.getElem?_append_left hin]

/-! ## Comparisons are symmetric -/

/-- A comparison does not depend on the order of the packets. -/
def Symmetric (record : DnsPacket → DnsPacket → Option (DnsPacket × DnsPacket)) : Prop :=
  ∀ {p₁ p₂ p₁' p₂' : DnsPacket}, record p₁ p₂ = some (p₁', p₂') → record p₂ p₁ = some (p₂', p₁')

theorem equalLabels_symm (h : equalLabels left l₁ l₂ = some (s₁, s₂)) :
    equalLabels left l₂ l₁ = some (s₂, s₁) := by
  induction l₁ generalizing left l₂ with
  | nil => cases left <;> simp [equalLabels] at h
  | cons b1 rest1 ih =>
    cases l₂ with
    | nil => cases left <;> simp [equalLabels] at h
    | cons b2 rest2 =>
      cases left with
      | succ left =>
        simp only [equalLabels] at h ⊢
        split at h
        · rename_i heq
          rw [if_pos heq.symm]
          exact ih h
        · cases h
      | zero =>
        simp only [equalLabels] at h ⊢
        split at h
        · cases h
        rename_i heq
        rw [not_not] at heq
        subst heq
        rw [if_neg (not_not.mpr rfl)]
        split at h
        · rename_i hzero
          cases h
          rw [if_pos hzero]
        rename_i hzero
        split at h
        · cases h
        rename_i hlong
        rw [if_neg hzero, if_neg hlong]
        exact ih h

theorem isEqualDomainName_symmetric : Symmetric isEqualDomainName := by
  intro p₁ p₂ p₁' p₂' h
  obtain ⟨⟨s₁, s₂⟩, hlabels, heq⟩ := map_eq_some_iff.mp h
  cases heq
  rw [isEqualDomainName, equalLabels_symm hlabels]
  rfl

theorem isEqualBytes_symmetric (numBytes : Int) :
    Symmetric fun p₁ p₂ => isEqualBytes same p₁ p₂ numBytes := by
  intro p₁ p₂ p₁' p₂' h
  simp only [isEqualBytes] at h ⊢
  split at h
  · rename_i hneg
    rw [if_pos hneg]
    split at h
    · rename_i hsame
      cases h
      rw [if_pos hsame]
    · cases h
  · rename_i hneg
    rw [if_neg hneg]
    split at h
    · cases h
    rename_i hlen
    split at h
    · cases h
    rename_i htake
    cases h
    rw [if_neg (fun hlen' => hlen hlen'.symm), if_neg (fun hne => htake (Ne.symm hne))]

theorem isEqualQR_symmetric : Symmetric (isEqualQR same) := by
  intro p₁ p₂ p₁' p₂' h
  obtain ⟨⟨q1, q2⟩, hname, hbytes⟩ := bind_eq_some_iff.mp h
  rw [isEqualQR, isEqualDomainName_symmetric hname]
  exact isEqualBytes_symmetric same 4 hbytes

theorem isEqualRR_symmetric : Symmetric (isEqualRR same) := by
  intro p₁ p₂ p₁' p₂' h
  obtain ⟨⟨q1, q2⟩, hqr, h⟩ := bind_eq_some_iff.mp h
  obtain ⟨⟨r1, r2⟩, httl, h⟩ := bind_eq_some_iff.mp h
  have httl' : isEqualBytes same q2 q1 4 = some (r2, r1) := isEqualBytes_symmetric same 4 httl
  rw [isEqualRR, isEqualQR_symmetric same hqr]
  simp only [bind_eq_bind, bind_some, httl']
  simp only [ite_not] at h ⊢
  split at h
  · rename_i hlen
    rw [if_pos hlen.symm, ← hlen]
    exact isEqualBytes_symmetric same _ h
  · cases h

theorem Symmetric.each (h : Symmetric record) (count : Nat) :
    Symmetric (equalEach record count) := by
  induction count with
  | zero =>
    intro p₁ p₂ p₁' p₂' heq
    cases heq
    rfl
  | succ count ih =>
    intro p₁ p₂ p₁' p₂' heq
    obtain ⟨⟨q1, q2⟩, hfirst, hrest⟩ := bind_eq_some_iff.mp heq
    rw [equalEach, h hfirst]
    exact ih hrest

theorem isEqualQuery_symm (hlen : dnsHeaderSize ≤ q.length) (hlen' : dnsHeaderSize ≤ q'.length)
    (h : isEqualQuery same (init q) (init q') = true) :
    isEqualQuery same (init q') (init q) = true := by
  obtain ⟨hrd, hadcd, hqd, har, p₁, p₂, hquestions, hrecs⟩ :=
    (isEqualQuery_iff same hlen hlen').mp h
  obtain ⟨⟨r1, r2⟩, hrecs⟩ := isSome_iff_exists.mp hrecs
  refine (isEqualQuery_iff same hlen' hlen).mpr
    ⟨hrd.symm, hadcd.symm, hqd.symm, har.symm, p₂, p₁, ?_, ?_⟩
  · rw [← hqd]
    exact Symmetric.each (isEqualQR_symmetric same) _ hquestions
  · rw [← har, Symmetric.each (isEqualRR_symmetric same) _ hrecs]
    rfl

end Records

end DnsPacket

end Netd
