import Mathlib.Data.Fintype.Card
import Netd.Lib.Lts
import Netd.Lib.Promises
import Netd.Resolv.DnsTlsServer

/-!
# DnsTlsQueryMap

A query that is recorded gets an id that no other pending query has. A response is matched with a
query by that id, and the id that the client has chosen is put back.
-/

namespace Netd

open List OrdMap Promises

namespace DnsTlsServer

inductive Response where
  | success
  | networkError
  | limitError
  | internalError
  deriving DecidableEq

structure Result where
  code : Response
  response : List Byte
  deriving DecidableEq

end DnsTlsServer

open DnsTlsServer (Result)

/-- A `uint16_t`, with its wrap-around. -/
abbrev QueryId := Fin 65536

instance QueryId.neZero : @NeZero Nat Zero.ofOfNat0 65536 := ⟨by decide⟩

structure DnsTlsQueryMap.Query where
  /-- The id that the query has been given. -/
  newId : QueryId
  /-- The bytes of the query, which begin with the id that the client has chosen. -/
  query : List Byte
  deriving DecidableEq

/-- A pending query. `result` is the number of its promise. -/
structure DnsTlsQueryMap.QueryPromise where
  query : Query
  tries : Nat
  result : Nat
  deriving DecidableEq

/-- What `recordQuery` returns. `result` is the future of the promise with that number. -/
structure DnsTlsQueryMap.QueryFuture where
  query : Query
  result : Nat
  deriving DecidableEq

/-- The pending queries, and the promises that the map has made. -/
structure DnsTlsQueryMap where
  mQueries : OrdMap QueryId DnsTlsQueryMap.QueryPromise
  promises : Promises DnsTlsQueryMap.Query Result

namespace DnsTlsQueryMap

def new : DnsTlsQueryMap := ⟨.empty, .empty⟩

/-- The most times that a query is sent before it is abandoned. -/
def kMaxTries : Nat := 3

/-- The linear scan of `getFreeId`. `none` is the end of the loop, where the source says
that it is unreachable. -/
def findGap : List QueryId → QueryId → Option QueryId
  | [], _ => none
  | id :: ids, nextId => if id ≠ nextId then some nextId else findGap ids (id + 1)

def getFreeId (m : DnsTlsQueryMap) : Int :=
  match m.mQueries.keys.getLast? with
  | none => 0
  | some maxId =>
    if maxId.val < 65535 then maxId.val + 1
    else if m.mQueries.entries.length = 65536 then -1
    else
      match findGap m.mQueries.keys 0 with
      | some nextId => nextId.val
      | none => -1

def recordQuery (query : List Byte) (m : DnsTlsQueryMap) : Option QueryFuture × DnsTlsQueryMap :=
  if query.length < 2 then (none, m)
  else
    let newId := m.getFreeId
    if newId < 0 then (none, m)
    else
      let q : Query := ⟨Fin.ofNat 65536 newId.toNat, query⟩
      -- `emplace` does not replace a query that has the id already.
      if m.mQueries.contains q.newId then (none, m)
      else
        let result := m.promises.made.length
        (some ⟨q, result⟩, ⟨m.mQueries.insert q.newId ⟨q, 0, result⟩, m.promises.make q⟩)

/-- The value that an expired query gets. -/
def expired : Result := ⟨.networkError, []⟩

def markTried (newId : QueryId) (m : DnsTlsQueryMap) : DnsTlsQueryMap :=
  match m.mQueries.find? newId with
  | some p => { m with mQueries := m.mQueries.insert newId { p with tries := p.tries + 1 } }
  | none => m

/-- The pending queries, in the order of their ids. -/
def pending (m : DnsTlsQueryMap) : List QueryPromise := m.mQueries.entries.map Prod.snd

/-- A query has been tried as often as allowed. -/
def triedOut (p : QueryPromise) : Bool := decide (kMaxTries ≤ p.tries)

/-- Expire and erase the queries that have been tried as often as allowed. -/
def cleanup (m : DnsTlsQueryMap) : DnsTlsQueryMap :=
  { mQueries := m.mQueries.filter fun _ p => !triedOut p
    promises := m.promises.setAll ((m.pending.filter triedOut).map (·.result)) expired }

def getAll (m : DnsTlsQueryMap) : List Query := m.pending.map (·.query)

def isEmpty (m : DnsTlsQueryMap) : Bool := m.mQueries.entries.isEmpty

def clear (m : DnsTlsQueryMap) : DnsTlsQueryMap :=
  { mQueries := .empty
    promises := m.promises.setAll (m.pending.map (·.result)) expired }

/-- `response[0] << 8 | response[1]` -/
def responseId (hi lo : Byte) : QueryId := Fin.ofNat 65536 (hi.val <<< 8 ||| lo.val)

def rewriteId (query response : List Byte) : List Byte :=
  (response.set 0 (query.getD 0 0)).set 1 (query.getD 1 0)

def onResponse (response : List Byte) (m : DnsTlsQueryMap) : DnsTlsQueryMap :=
  match response with
  | hi :: lo :: _ =>
    match m.mQueries.find? (responseId hi lo) with
    | some p =>
      { mQueries := m.mQueries.erase (responseId hi lo)
        promises := m.promises.setValue p.result ⟨.success, rewriteId p.query.query response⟩ }
    | none => m
  | _ => m

/-! ## The free id -/

section FreeId

variable {ids : List QueryId} {id other nextId gap last : QueryId}

theorem val_add_one (h : id < other) : (id + 1).val = id.val + 1 := by
  have hlt : id.val < other.val := h
  exact Nat.mod_eq_of_lt (show id.val + 1 < 65536 by omega)

theorem findGap_some (hsort : ids.Pairwise (· < ·)) (hbound : ∀ id ∈ ids, nextId ≤ id)
    (h : findGap ids nextId = some gap) : nextId ≤ gap ∧ gap ∉ ids := by
  induction ids generalizing nextId with
  | nil => cases h
  | cons id ids ih =>
    obtain ⟨hid, hids⟩ := pairwise_cons.mp hsort
    unfold findGap at h
    split at h
    · rename_i hne
      obtain rfl := Option.some.inj h
      have hlt : nextId < id := lt_of_le_of_ne (hbound id mem_cons_self) (Ne.symm hne)
      refine ⟨le_refl _, fun hmem => ?_⟩
      rcases mem_cons.mp hmem with heq | hmem
      · exact absurd heq (ne_of_lt hlt)
      · exact absurd (hlt.trans (hid _ hmem)) (lt_irrefl _)
    · rename_i heq
      have hnext : id = nextId := not_not.mp heq
      -- The scan goes on only over larger ids, so the next id does not wrap.
      cases ids with
      | nil => cases h
      | cons other ids =>
        have hval : (id + 1).val = id.val + 1 := val_add_one (hid other mem_cons_self)
        have hrest : ∀ x ∈ other :: ids, id + 1 ≤ x := by
          intro x hx
          have hlt : id.val < x.val := hid x hx
          show (id + 1).val ≤ x.val
          omega
        obtain ⟨hle, hnot⟩ := ih hids hrest h
        have hgap : id.val + 1 ≤ gap.val := hval ▸ hle
        constructor
        · show nextId.val ≤ gap.val
          rw [← hnext]
          omega
        · intro hmem
          rcases mem_cons.mp hmem with heq' | hmem
          · rw [heq'] at hgap
            omega
          · exact hnot hmem

theorem findGap_none (hsort : ids.Pairwise (· < ·)) (h : findGap ids nextId = none)
    (hlast : ids.getLast? = some last) : last.val + 1 = nextId.val + ids.length := by
  induction ids generalizing nextId with
  | nil => cases hlast
  | cons id ids ih =>
    obtain ⟨hid, hids⟩ := pairwise_cons.mp hsort
    unfold findGap at h
    split at h
    · cases h
    rename_i heq
    have hnext : id = nextId := not_not.mp heq
    cases ids with
    | nil =>
      obtain rfl := Option.some.inj hlast
      rw [hnext]
      rfl
    | cons other ids =>
      have hval : (id + 1).val = id.val + 1 := val_add_one (hid other mem_cons_self)
      have hrec := ih hids h hlast
      rw [hval, hnext] at hrec
      simp only [length_cons] at hrec ⊢
      omega

variable (m : DnsTlsQueryMap)

theorem keys_sorted : m.mQueries.keys.Pairwise (· < ·) := by
  unfold OrdMap.keys
  rw [pairwise_map]
  exact m.mQueries.sorted

theorem length_keys : m.mQueries.keys.length = m.mQueries.entries.length := by
  simp [OrdMap.keys]

/-- When the largest id is taken and the map is not full, the scan finds a gap. -/
theorem findGap_isSome (hlast : m.mQueries.keys.getLast? = some last) (hmax : ¬ last.val < 65535)
    (hsize : m.mQueries.entries.length ≠ 65536) : (findGap m.mQueries.keys 0).isSome = true := by
  cases hgap : findGap m.mQueries.keys 0 with
  | some gap => rfl
  | none =>
    have hcount := findGap_none (keys_sorted m) hgap hlast
    rw [length_keys] at hcount
    omega

theorem mem_keys_of_full (hsize : m.mQueries.entries.length = 65536) (id : QueryId) :
    id ∈ m.mQueries.keys := by
  have hcard : m.mQueries.keys.toFinset.card = Fintype.card QueryId := by
    rw [toFinset_card_of_nodup m.mQueries.keys_nodup, length_keys, hsize, Fintype.card_fin]
  have huniv := Finset.eq_univ_of_card _ hcard
  exact mem_toFinset.mp (huniv ▸ Finset.mem_univ id)

theorem le_getLast (hlast : m.mQueries.keys.getLast? = some last) {id : QueryId}
    (hid : id ∈ m.mQueries.keys) : id ≤ last := by
  obtain ⟨init, hinit⟩ := List.getLast?_eq_some_iff.mp hlast
  have hsort := keys_sorted m
  rw [hinit] at hid hsort
  rcases mem_append.mp hid with hid | hid
  · exact ((pairwise_append.mp hsort).2.2 id hid last mem_cons_self).le
  · rw [mem_singleton.mp hid]

theorem getFreeId_spec : (∃ id : QueryId, m.getFreeId = id.val ∧ id ∉ m.mQueries.keys) ∨
      (m.getFreeId = -1 ∧ ∀ id, id ∈ m.mQueries.keys) := by
  unfold getFreeId
  split
  · rename_i hlast
    have hnil : m.mQueries.keys = [] := List.getLast?_eq_none_iff.mp hlast
    exact .inl ⟨0, rfl, by simp [hnil]⟩
  rename_i maxId hlast
  split
  · rename_i hlt
    refine .inl ⟨⟨maxId.val + 1, by omega⟩, by simp, fun hmem => ?_⟩
    have hle : maxId.val + 1 ≤ maxId.val := le_getLast m hlast hmem
    omega
  · rename_i hmax
    split
    · next hsize => exact .inr ⟨rfl, mem_keys_of_full m hsize⟩
    rename_i hsize
    obtain ⟨gap, hgap⟩ := Option.isSome_iff_exists.mp (findGap_isSome m hlast hmax hsize)
    rw [hgap]
    exact .inl ⟨gap, rfl, (findGap_some (keys_sorted m) (fun id _ => Fin.zero_le id) hgap).2⟩

end FreeId

/-! ## What the operations do -/

variable {m m' : DnsTlsQueryMap} {query response : List Byte} {f : QueryFuture} {p : QueryPromise}
  {id : QueryId}

def recordAt (id : QueryId) (query : List Byte) (m : DnsTlsQueryMap) : DnsTlsQueryMap :=
  ⟨m.mQueries.insert id ⟨⟨id, query⟩, 0, m.promises.made.length⟩, m.promises.make ⟨id, query⟩⟩

/-- A query is recorded under a free id, and refused when it is too short or all ids are taken. -/
theorem recordQuery_cases (query : List Byte) (m : DnsTlsQueryMap) :
    (∃ id, 2 ≤ query.length ∧ id ∉ m.mQueries.keys ∧
      m.recordQuery query = (some ⟨⟨id, query⟩, m.promises.made.length⟩, m.recordAt id query)) ∨
    ((query.length < 2 ∨ ∀ id, id ∈ m.mQueries.keys) ∧ m.recordQuery query = (none, m)) := by
  unfold recordQuery
  split
  · next hshort => exact .inr ⟨.inl hshort, rfl⟩
  rename_i hlong
  rcases getFreeId_spec m with ⟨id, hid, hfree⟩ | ⟨hfull, hall⟩
  · have hcast : Fin.ofNat 65536 (id.val : Int).toNat = id := by
      apply Fin.ext
      exact Nat.mod_eq_of_lt id.isLt
    have hcontains : m.mQueries.contains id = false := contains_eq_false.mpr hfree
    refine .inl ⟨id, not_lt.mp hlong, hfree, ?_⟩
    simp only [hid, hcast, hcontains]
    rfl
  · refine .inr ⟨.inr hall, ?_⟩
    simp [hfull]

theorem recordQuery_eq_some (h : m.recordQuery query = (some f, m')) :
    f.query.query = query ∧ f.result = m.promises.made.length ∧ 2 ≤ query.length ∧
      f.query.newId ∉ m.mQueries.keys ∧ m' = m.recordAt f.query.newId query := by
  rcases recordQuery_cases query m with ⟨id, hlong, hfree, heq⟩ | ⟨-, heq⟩
  · rw [heq] at h
    cases h
    exact ⟨rfl, rfl, hlong, hfree, rfl⟩
  · rw [heq] at h
    cases h

theorem recordQuery_eq_none (h : m.recordQuery query = (none, m')) :
    (query.length < 2 ∨ ∀ id, id ∈ m.mQueries.keys) ∧ m' = m := by
  rcases recordQuery_cases query m with ⟨id, -, -, heq⟩ | ⟨hwhy, heq⟩
  · rw [heq] at h
    cases h
  rw [heq] at h
  cases h
  exact ⟨hwhy, rfl⟩

/-- A response is ignored, or it belongs to a pending query. -/
theorem onResponse_cases (response : List Byte) (m : DnsTlsQueryMap) : m.onResponse response = m ∨
      ∃ hi lo rest p, response = hi :: lo :: rest ∧
        m.mQueries.find? (responseId hi lo) = some p ∧
        m.onResponse response =
          { mQueries := m.mQueries.erase (responseId hi lo)
            promises := m.promises.setValue p.result
              ⟨.success, rewriteId p.query.query response⟩ } := by
  unfold onResponse
  split
  · rename_i hi lo rest
    split
    · next p hp => exact .inr ⟨hi, lo, rest, p, rfl, hp, rfl⟩
    · exact .inl rfl
  · exact .inl rfl

theorem val_responseId (hi lo : Byte) : (responseId hi lo).val = hi.val * 256 + lo.val := by
  have hor : hi.val <<< 8 ||| lo.val = hi.val * 256 + lo.val := by
    rw [← Nat.shiftLeft_add_eq_or_of_lt (show lo.val < 2 ^ 8 from lo.isLt), Nat.shiftLeft_eq]
  show (hi.val <<< 8 ||| lo.val) % 65536 = hi.val * 256 + lo.val
  omega

theorem rewriteId_eq (hi lo : Byte) (rest : List Byte) (h : 2 ≤ query.length) :
    rewriteId query (hi :: lo :: rest) = query.take 2 ++ rest := by
  match query, h with
  | d0 :: d1 :: query, _ => rfl

/-! ## The invariant -/

structure Wf (m : DnsTlsQueryMap) : Prop where
  balanced : m.promises.Balanced (m.pending.map (·.result))
  filed : ∀ e ∈ m.mQueries.entries, e.2.query.newId = e.1
  owner : ∀ p ∈ m.pending, m.promises.made[p.result]? = some p.query
  long : ∀ q ∈ m.promises.made, 2 ≤ q.query.length

theorem wf_new : new.Wf where
  balanced := .refl _
  filed := by simp [new]
  owner := by simp [new, pending]
  long := by simp [new, Promises.empty]

theorem mem_pending : p ∈ m.pending ↔ ∃ id, (id, p) ∈ m.mQueries.entries := by
  simp [pending]

theorem entries_recordAt (hfree : id ∉ m.mQueries.keys) :
    (m.recordAt id query).mQueries.entries.Perm
      ((id, ⟨⟨id, query⟩, 0, m.promises.made.length⟩) :: m.mQueries.entries) := by
  have hperm := m.mQueries.perm_insert id ⟨⟨id, query⟩, 0, m.promises.made.length⟩
  have hnone : m.mQueries.find? id = none := by
    cases hfind : m.mQueries.find? id with
    | none => rfl
    | some p => exact absurd (mem_keys.mpr ⟨p, hfind⟩) hfree
  rwa [erase_of_find?_none hnone] at hperm

theorem pending_recordAt (hfree : id ∉ m.mQueries.keys) :
    (m.recordAt id query).pending.Perm (⟨⟨id, query⟩, 0, m.promises.made.length⟩ :: m.pending) :=
  (entries_recordAt hfree).map Prod.snd

theorem pending_cleanup : m.cleanup.pending = m.pending.filter fun p => !triedOut p := by
  simp only [pending, filter_map]
  rfl

theorem mem_pending_onResponse (h : p ∈ (m.onResponse response).pending) : p ∈ m.pending := by
  rcases onResponse_cases response m with heq | ⟨hi, lo, rest, _, -, -, heq⟩
  · rwa [heq] at h
  rw [heq] at h
  obtain ⟨id, hmem⟩ := mem_pending.mp h
  exact mem_pending.mpr ⟨id, (mem_erase.mp hmem).1⟩

@[simp] theorem made_onResponse : (m.onResponse response).promises.made = m.promises.made := by
  rcases onResponse_cases response m with heq | ⟨hi, lo, rest, _, -, -, heq⟩
  · rw [heq]
  · rw [heq]
    rfl

@[simp] theorem made_cleanup : m.cleanup.promises.made = m.promises.made := made_setAll _

@[simp] theorem made_clear : m.clear.promises.made = m.promises.made := made_setAll _

@[simp] theorem promises_markTried (newId : QueryId) :
    (m.markTried newId).promises = m.promises := by
  unfold markTried
  split
  · rfl
  · rfl

theorem exists_markTried (id : QueryId) (hp : p ∈ m.pending) :
    ∃ q ∈ (m.markTried id).pending, q.query = p.query ∧ q.result = p.result := by
  obtain ⟨key, hmem⟩ := mem_pending.mp hp
  unfold markTried
  split
  · rename_i q hq
    by_cases hkey : key = id
    · have heq : p = q := eq_of_mem_of_mem (hkey ▸ hmem) (find?_eq_some.mp hq)
      refine ⟨_, mem_pending.mpr ⟨id, mem_insert.mpr (.inl rfl)⟩, ?_⟩
      rw [heq]
      exact ⟨rfl, rfl⟩
    · exact ⟨p, mem_pending.mpr ⟨key, mem_insert.mpr (.inr ⟨hmem, hkey⟩)⟩, rfl, rfl⟩
  · exact ⟨p, hp, rfl, rfl⟩

namespace Wf

section

variable (h : m.Wf)
include h

theorem find?_newId (hp : p ∈ m.pending) : m.mQueries.find? p.query.newId = some p := by
  obtain ⟨id, hmem⟩ := mem_pending.mp hp
  have hid : p.query.newId = id := h.filed _ hmem
  rw [hid]
  exact find?_eq_some.mpr hmem

theorem recordAt (hlong : 2 ≤ query.length) (hfree : id ∉ m.mQueries.keys) :
    (m.recordAt id query).Wf := by
  constructor
  · exact h.balanced.make.perm ((pending_recordAt hfree).map QueryPromise.result).symm
  · intro e he
    rcases mem_cons.mp ((entries_recordAt hfree).mem_iff.mp he) with rfl | he
    · rfl
    · exact h.filed e he
  · intro p hp
    rcases mem_cons.mp ((pending_recordAt hfree).mem_iff.mp hp) with rfl | hp
    · exact List.getElem?_concat_length
    have hlt : p.result < m.promises.made.length :=
      mem_range.mp (h.balanced.mem_iff.mp (mem_append_left _ (mem_map_of_mem hp)))
    have hown := h.owner p hp
    show (m.promises.made ++ [_])[p.result]? = some p.query
    rwa [List.getElem?_append_left hlt]
  · intro q hq
    rcases mem_append.mp hq with hq | hq
    · exact h.long q hq
    · rw [mem_singleton.mp hq]
      exact hlong

theorem markTried (newId : QueryId) : (m.markTried newId).Wf := by
  unfold DnsTlsQueryMap.markTried
  split
  · rename_i p hp
    have hmem := find?_eq_some.mp hp
    have hold := (perm_erase hp).map Prod.snd
    have hnew := (m.mQueries.perm_insert newId { p with tries := p.tries + 1 }).map Prod.snd
    constructor
    · refine h.balanced.perm ?_
      exact (hold.map (·.result)).trans (hnew.map (·.result)).symm
    · intro e he
      rcases mem_insert.mp he with rfl | ⟨he, -⟩
      · exact h.filed (newId, p) hmem
      · exact h.filed e he
    · intro q hq
      rcases mem_cons.mp (hnew.mem_iff.mp hq) with rfl | hq
      · exact h.owner p (mem_pending.mpr ⟨newId, hmem⟩)
      · exact h.owner q (hold.mem_iff.mpr (mem_cons_of_mem _ hq))
    · exact h.long
  · exact h

theorem mem_markTried (hp : p ∈ (m.markTried id).pending) : (p ∈ m.pending ∧ p.query.newId ≠ id) ∨
      ∃ q ∈ m.pending, q.query.newId = id ∧ p = { q with tries := q.tries + 1 } := by
  unfold DnsTlsQueryMap.markTried at hp
  split at hp
  · rename_i q hq
    obtain ⟨key, hmem⟩ := mem_pending.mp hp
    have hfound := find?_eq_some.mp hq
    rcases mem_insert.mp hmem with heq | ⟨hmem, hne⟩
    · cases heq
      exact .inr ⟨q, mem_pending.mpr ⟨id, hfound⟩, h.filed _ hfound, rfl⟩
    · have hkey : p.query.newId = key := h.filed _ hmem
      exact .inl ⟨mem_pending.mpr ⟨key, hmem⟩, hkey ▸ hne⟩
  · rename_i hq
    refine .inl ⟨hp, fun hid => ?_⟩
    have hfound := h.find?_newId hp
    rw [hid, hq] at hfound
    cases hfound

theorem drop (hentries : ∀ e ∈ m'.mQueries.entries, e ∈ m.mQueries.entries)
    (hmade : m'.promises.made = m.promises.made)
    (hbalanced : m'.promises.Balanced (m'.pending.map (·.result))) : m'.Wf := by
  constructor
  · exact hbalanced
  · exact fun e he => h.filed e (hentries e he)
  · intro p hp
    obtain ⟨id, hmem⟩ := mem_pending.mp hp
    rw [hmade]
    exact h.owner p (mem_pending.mpr ⟨id, hentries _ hmem⟩)
  · rw [hmade]
    exact h.long

theorem cleanup : m.cleanup.Wf := by
  refine h.drop (fun e he => (mem_filter.mp he).1) (made_setAll _) ?_
  rw [pending_cleanup]
  refine Promises.Balanced.setAll (h.balanced.perm ?_)
  rw [← map_append]
  exact (filter_append_perm triedOut m.pending).symm.map _

theorem clear : m.clear.Wf := by
  refine h.drop (fun e he => absurd he not_mem_nil) (made_setAll _) ?_
  refine Promises.Balanced.setAll ?_
  rw [show m.clear.pending.map (·.result) = [] from rfl, append_nil]
  exact h.balanced

theorem onResponse (response : List Byte) : (m.onResponse response).Wf := by
  rcases onResponse_cases response m with heq | ⟨hi, lo, rest, p, -, hp, heq⟩
  · rw [heq]
    exact h
  rw [heq]
  refine h.drop (fun e he => (mem_erase.mp he).1) rfl ?_
  refine Promises.Balanced.setValue (h.balanced.perm ?_)
  exact ((perm_erase hp).map Prod.snd).map (·.result)

end

end Wf

/-! ## Runs -/

/-- The operations of the class. -/
inductive Op where
  | recordQuery (query : List Byte)
  | markTried (newId : QueryId)
  | cleanup
  | onResponse (response : List Byte)
  | clear

/-- One call. The calls are atomic, since each takes the lock. -/
def step : Op → DnsTlsQueryMap → Option DnsTlsQueryMap
  | .recordQuery query, m => some (m.recordQuery query).2
  | .markTried newId, m => some (m.markTried newId)
  | .cleanup, m => some m.cleanup
  | .onResponse response, m => some (m.onResponse response)
  | .clear, m => some m.clear

theorem Wf.recordQuery (h : m.Wf) (query : List Byte) : (m.recordQuery query).2.Wf := by
  rcases recordQuery_cases query m with ⟨id, hlong, hfree, heq⟩ | ⟨-, heq⟩
  · rw [heq]
    exact h.recordAt hlong hfree
  · rw [heq]
    exact h

theorem Wf.step {op : Op} (h : m.Wf) (hstep : DnsTlsQueryMap.step op m = some m') : m'.Wf := by
  cases op with
  | recordQuery query => exact Option.some.inj hstep ▸ h.recordQuery query
  | markTried newId => exact Option.some.inj hstep ▸ h.markTried newId
  | cleanup => exact Option.some.inj hstep ▸ h.cleanup
  | onResponse response => exact Option.some.inj hstep ▸ h.onResponse response
  | clear => exact Option.some.inj hstep ▸ h.clear

/-- A result is the answer to a query: the response had its new id, and now has its own. -/
def AnswerTo (q : Query) (response : List Byte) (r : Result) : Prop :=
  ∃ hi lo rest, response = hi :: lo :: rest ∧ hi.val * 256 + lo.val = q.newId.val ∧
    2 ≤ q.query.length ∧ r.response = q.query.take 2 ++ rest

/-- A promise fulfilled with success has the answer to its query, from a response that arrived. -/
def Answered (responses : List Byte → Prop) (m : DnsTlsQueryMap) : Prop :=
  ∀ t r, (t, r) ∈ m.promises.settled → r.code = .success →
    ∃ q, m.promises.made[t]? = some q ∧ ∃ response, responses response ∧ AnswerTo q response r

namespace Answered

variable {responses responses' : List Byte → Prop}

section

variable (h : m.Answered responses)
include h

theorem mono (himp : ∀ r, responses r → responses' r) : m.Answered responses' := by
  intro t r hmem hcode
  obtain ⟨q, hq, response, hresp, hanswer⟩ := h t r hmem hcode
  exact ⟨q, hq, response, himp _ hresp, hanswer⟩

theorem setAll {ts : List Nat}
    (hpromises : m'.promises = m.promises.setAll ts expired) : m'.Answered responses := by
  intro t r hmem hcode
  rw [hpromises, settled_setAll] at hmem
  rw [hpromises, made_setAll]
  rcases mem_append.mp hmem with hmem | hmem
  · exact h t r hmem hcode
  obtain ⟨_, -, heq⟩ := mem_map.mp hmem
  cases heq
  cases hcode

theorem recordQuery (query : List Byte) : (m.recordQuery query).2.Answered responses := by
  rcases recordQuery_cases query m with ⟨id, -, -, heq⟩ | ⟨-, heq⟩
  · rw [heq]
    intro t r hmem hcode
    obtain ⟨q, hq, hanswer⟩ := h t r hmem hcode
    refine ⟨q, ?_, hanswer⟩
    show (m.promises.made ++ [_])[t]? = some q
    rw [List.getElem?_append_left (List.getElem?_eq_some_iff.mp hq).1]
    exact hq
  · rw [heq]
    exact h

theorem markTried (newId : QueryId) : (m.markTried newId).Answered responses := by
  unfold DnsTlsQueryMap.markTried
  split
  · exact h
  · exact h

theorem onResponse (hwf : m.Wf) (hresp : responses response) :
    (m.onResponse response).Answered responses := by
  rcases onResponse_cases response m with heq | ⟨hi, lo, rest, p, hshape, hp, heq⟩
  · rw [heq]
    exact h
  rw [heq]
  intro t r hmem hcode
  rcases mem_append.mp hmem with hmem | hmem
  · exact h t r hmem hcode
  cases mem_singleton.mp hmem
  have hfound := find?_eq_some.mp hp
  have hown := hwf.owner p (mem_pending.mpr ⟨_, hfound⟩)
  have hlong := hwf.long _ (mem_of_getElem? hown)
  have hid : p.query.newId = responseId hi lo := hwf.filed _ hfound
  refine ⟨p.query, hown, response, hresp, hi, lo, rest, hshape, ?_, hlong, ?_⟩
  · rw [hid, val_responseId]
  · rw [hshape]
    exact rewriteId_eq hi lo rest hlong

end

end Answered

theorem run_wf {h : List Op} (hrun : Lts.Run step (fun _ _ => True) new h m) :
    m.Wf ∧ m.Answered fun response => Op.onResponse response ∈ h := by
  refine Lts.Run.invariant (I := fun h m =>
    m.Wf ∧ m.Answered fun response => Op.onResponse response ∈ h) ?_ ?_ hrun
  · refine ⟨wf_new, ?_⟩
    intro t r hmem
    cases hmem
  · intro h m op m' hi _ hstep
    obtain ⟨hwf, hans⟩ := hi
    refine ⟨hwf.step hstep, ?_⟩
    have hmono : m.Answered fun r => Op.onResponse r ∈ op :: h :=
      hans.mono fun r hr => mem_cons_of_mem _ hr
    cases op with
    | recordQuery query => exact Option.some.inj hstep ▸ hmono.recordQuery query
    | markTried newId => exact Option.some.inj hstep ▸ hmono.markTried newId
    | cleanup => exact Option.some.inj hstep ▸ hmono.setAll rfl
    | onResponse response =>
      exact Option.some.inj hstep ▸ hmono.onResponse hwf mem_cons_self
    | clear => exact Option.some.inj hstep ▸ hmono.setAll rfl

theorem Wf.nodup_newId (h : m.Wf) : (m.pending.map (·.query.newId)).Nodup := by
  have hkeys : m.pending.map (·.query.newId) = m.mQueries.keys := by
    simp only [pending, map_map]
    exact map_congr_left h.filed
  rw [hkeys]
  exact m.mQueries.keys_nodup

theorem Wf.mem_newId (h : m.Wf) (hid : id ∈ m.mQueries.keys) :
    id ∈ m.pending.map (·.query.newId) := by
  obtain ⟨p, hp⟩ := mem_keys.mp hid
  have hmem := find?_eq_some.mp hp
  exact mem_map.mpr ⟨p, mem_pending.mpr ⟨id, hmem⟩, h.filed _ hmem⟩

/-- In every run, pending queries have distinct ids, and an accepted query is pending or has had its
promise fulfilled once, with success only for a response to it. -/
theorem queryMap_bookkeeping {h : List Op} (hrun : Lts.Run step (fun _ _ => True) new h m) :
    (m.pending.map (·.query.newId)).Nodup ∧
    (∀ p ∈ m.pending, m.promises.made[p.result]? = some p.query) ∧
    (∀ t < m.promises.made.length,
      (t ∈ m.pending.map (·.result) ∧ m.promises.fulfilled.count t = 0) ∨
      (t ∉ m.pending.map (·.result) ∧ m.promises.fulfilled.count t = 1)) ∧
    (∀ t r, (t, r) ∈ m.promises.settled → r.code = .success →
      ∃ q, m.promises.made[t]? = some q ∧
        ∃ response, Op.onResponse response ∈ h ∧ AnswerTo q response r) ∧
    (∀ query f m', m.recordQuery query = (some f, m') →
      f.query.query = query ∧ f.result = m.promises.made.length ∧
        m'.promises.made = m.promises.made ++ [f.query]) ∧
    (∀ query m', m.recordQuery query = (none, m') →
      query.length < 2 ∨ ∀ id, id ∈ m.pending.map (·.query.newId)) ∧
    (∀ maxId, m.mQueries.keys.getLast? = some maxId → ¬ maxId.val < 65535 →
      m.mQueries.entries.length ≠ 65536 → findGap m.mQueries.keys 0 ≠ none) := by
  obtain ⟨hwf, hanswered⟩ := run_wf hrun
  refine ⟨hwf.nodup_newId, hwf.owner, fun t ht =>
    hwf.balanced.inHand_or_once ht, hanswered, ?_, ?_, ?_⟩
  · intro query f m' hrec
    obtain ⟨rfl, hres, -, -, rfl⟩ := recordQuery_eq_some hrec
    exact ⟨rfl, hres, rfl⟩
  · intro query m' hrec
    rcases (recordQuery_eq_none hrec).1 with hshort | hall
    · exact .inl hshort
    · exact .inr fun id => hwf.mem_newId (hall id)
  · intro maxId hlast hmax hsize
    exact Option.isSome_iff_ne_none.mp (findGap_isSome m hlast hmax hsize)

/-- Two queries, the first of which is answered and the second tried out. -/
def twoQueries : List Op :=
  [.recordQuery [1, 2, 3], .recordQuery [1, 2, 4], .onResponse [0, 0, 9], .markTried 1,
    .markTried 1, .markTried 1, .cleanup, .recordQuery [5, 6]]

theorem queryMap_bookkeeping_twoQueries :
    ∃ m, Lts.Run step (fun _ _ => True) new twoQueries.reverse m ∧
      m.promises.settled = [(0, ⟨.success, [1, 2, 9]⟩), (1, expired)] ∧
      (m.pending.map (·.query.newId)).Nodup ∧ m.pending = [⟨⟨0, [5, 6]⟩, 0, 2⟩] := by
  obtain ⟨m, hrun, hsettled, hpending⟩ :
      ∃ m, Lts.Run step (fun _ _ => True) new twoQueries.reverse m ∧
      m.promises.settled = [(0, ⟨.success, [1, 2, 9]⟩), (1, expired)] ∧
      m.pending = [⟨⟨0, [5, 6]⟩, 0, 2⟩] := Lts.run_of_mem _ (by decide +kernel)
  exact ⟨m, hrun, hsettled, (queryMap_bookkeeping hrun).1, hpending⟩

end DnsTlsQueryMap

end Netd
