import Netd.Lib.Framing
import Netd.Lib.Lts
import Netd.Lib.Trace
import Netd.Resolv.DnsTlsServer

/-!
# The responses of a DnsTlsSocket

The loop thread waits in `poll` until the file descriptor is readable and then reads one response
(`readResponse`): a header of two bytes, the body up to `MAX_SIZE` bytes, and what is left of it in
chunks. `SSL_read` decrypts one whole TLS record at a time and keeps the unread rest of it. `poll`
sees only records that have not been decrypted.

A step is one call of `SSL_read`, the decryption of a record, the return of `poll`, or the arrival
of a record.
-/

namespace Netd.DnsTlsSocket

open List Option Framing Lts

/-- The two bytes of the length are in network byte order. -/
def dnsFraming : Framing Byte where
  header := 2
  header_pos := by decide
  size
    | [hi, lo] => hi.val <<< 8 ||| lo.val
    | _ => 0

def maxSize : Nat := 8192

def chunkSize : Nat := 2048

/-- Where the loop thread is. -/
inductive Reading where
  /-- About to call `poll`. -/
  | polling
  /-- It reads the header and has these bytes of it. -/
  | header (got : List Byte)
  /-- It reads the body and has these bytes of it. -/
  | body (responseSize : Nat) (got : List Byte)
  /-- It has the response and discards the rest, so many bytes in this chunk and after it. -/
  | discard (response : List Byte) (chunk rest : Nat)
  deriving DecidableEq

namespace Reading

/-- The bytes that the current `sslRead` is still to read. -/
def remaining : Reading → Nat
  | polling => 0
  | header got => 2 - got.length
  | body responseSize got => min responseSize maxSize - got.length
  | discard _ chunk _ => chunk

/-- The next chunk of what is to be discarded. When there is none, the response goes to the
observer. -/
def nextChunk (response : List Byte) (remainingBytes : Nat) : Reading × Option (List Byte) :=
  if remainingBytes = 0 then (polling, some response)
  else
    (discard response (min remainingBytes chunkSize)
      (remainingBytes - min remainingBytes chunkSize), none)

def startBody (responseSize : Nat) : Reading × Option (List Byte) :=
  if min responseSize maxSize = 0 then nextChunk [] responseSize else (body responseSize [], none)

/-- `SSL_read` has returned some bytes. -/
def feed : Reading → List Byte → Reading × Option (List Byte)
  | polling, _ => (polling, none)
  | header got, bytes =>
    if (got ++ bytes).length < 2 then (header (got ++ bytes), none)
    else startBody (dnsFraming.size (got ++ bytes))
  | body responseSize got, bytes =>
    if (got ++ bytes).length < min responseSize maxSize then
      (body responseSize (got ++ bytes), none)
    else nextChunk (got ++ bytes) (responseSize - (got ++ bytes).length)
  | discard response chunk rest, bytes =>
    if bytes.length < chunk then (discard response (chunk - bytes.length) rest, none)
    else nextChunk response rest

end Reading

/-- The records on the file descriptor, the decrypted bytes that have not been read, and
what the observer has got. -/
structure Responses where
  fd : List (List Byte)
  buf : List Byte
  reading : Reading
  observed : List (List Byte)
  /-- The records that have been decrypted. -/
  decrypted : List (List Byte)
  /-- The bytes that `SSL_read` has returned. -/
  consumed : List Byte

namespace Responses

def new : Responses := ⟨[], [], .polling, [], [], []⟩

inductive Action where
  /-- A TLS record arrives. -/
  | arrive (record : List Byte)
  /-- `poll` returns. -/
  | wake
  /-- `SSL_read` has no decrypted bytes left and decrypts a record. -/
  | decrypt
  /-- `SSL_read` returns decrypted bytes. -/
  | read
  /-- `SSL_ERROR_WANT_READ` at the beginning of a header. -/
  | wantRead

/-- `SSL_read` returns as much as is asked for and there is. -/
def read (s : Responses) : Responses :=
  let bytes := s.buf.take s.reading.remaining
  let (reading, response) := s.reading.feed bytes
  { s with
    buf := s.buf.drop s.reading.remaining
    reading := reading
    observed := s.observed ++ response.toList
    consumed := s.consumed ++ bytes }

def step : Action → Responses → Option Responses
  | .arrive record, s => some { s with fd := s.fd ++ [record] }
  | .wake, s => if s.reading = .polling then some { s with reading := .header [] } else none
  | .decrypt, s =>
    if s.reading = .polling ∨ s.buf ≠ [] then none
    else
      match s.fd with
      | [] => none
      | record :: fd =>
        some { s with fd := fd, buf := record, decrypted := s.decrypted ++ [record] }
  | .read, s => if s.reading = .polling ∨ s.buf = [] then none else some s.read
  | .wantRead, s =>
    if s.reading = .header [] ∧ s.buf = [] ∧ s.fd = [] then some { s with reading := .polling }
    else none

/-! ## Reading one response -/

open Reading

section Feed

variable {reading : Reading} {cur bytes h : List Byte} {rest : Nat}

/-- The bytes of the current response that have been read. -/
def InFrame : Reading → List Byte → Prop
  | .polling, cur => cur = []
  | .header got, cur => cur = got ∧ got.length < 2
  | .body responseSize got, cur =>
    ∃ h, h.length = 2 ∧ dnsFraming.size h = responseSize ∧ cur = h ++ got ∧
      got.length < min responseSize maxSize
  | .discard response chunk rest, cur =>
    ∃ h more, h.length = 2 ∧ cur = h ++ (response ++ more) ∧ response.length = maxSize ∧
      0 < chunk ∧ response.length + more.length + chunk + rest = dnsFraming.size h

/-- What the loop has after some bytes: the beginning of a response, or a whole one that
goes to the observer. -/
def Advances (cur : List Byte) (r : Reading × Option (List Byte)) : Prop :=
  (r.2 = none ∧ r.1 ≠ .polling ∧ InFrame r.1 cur) ∨
    (r.1 = .polling ∧ ∃ body, dnsFraming.IsFrame cur body ∧ r.2 = some (body.take maxSize))

theorem frameLength_append (hh : h.length = 2) (l : List Byte) :
    dnsFraming.frameLength (h ++ l) = 2 + dnsFraming.size h := by
  have htake : (h ++ l).take 2 = h := by rw [← hh, take_left]
  show 2 + dnsFraming.size ((h ++ l).take 2) = _
  rw [htake]

theorem next?_of_inFrame (hcur : InFrame reading cur) : dnsFraming.next? cur = none := by
  rw [Framing.next?, if_neg]
  cases reading with
  | polling =>
    obtain rfl := hcur
    decide
  | header got =>
    obtain ⟨rfl, hlt⟩ := hcur
    have hle : 2 ≤ dnsFraming.frameLength cur := Nat.le_add_right 2 _
    omega
  | body responseSize got =>
    obtain ⟨h, hh, rfl, rfl, hlt⟩ := hcur
    rw [frameLength_append hh, length_append]
    omega
  | discard response chunk rest =>
    obtain ⟨h, more, hh, rfl, hmax, hpos, hsum⟩ := hcur
    rw [frameLength_append hh, length_append, length_append]
    omega

theorem nextChunk_advances (h response more : List Byte) (hh : h.length = 2)
    (hlen : response.length = min (dnsFraming.size h) maxSize)
    (hsum : response.length + more.length + rest = dnsFraming.size h) :
    Advances (h ++ (response ++ more)) (nextChunk response rest) := by
  unfold nextChunk
  split
  · rename_i hrest
    refine .inr ⟨rfl, response ++ more, ⟨h, hh, ?_, rfl⟩, ?_⟩
    · rw [length_append]
      omega
    · have htake : (response ++ more).take maxSize = response := by
        by_cases hmax : response.length = maxSize
        · rw [← hmax, take_left]
        · have hmore : more = [] := length_eq_zero_iff.mp (by omega)
          rw [hmore, append_nil, take_of_length_le (by omega)]
      rw [htake]
  · rename_i hrest
    have hchunk : 0 < min rest chunkSize := by
      unfold chunkSize
      omega
    refine .inl ⟨rfl, by simp, h, more, hh, rfl, by omega, hchunk, ?_⟩
    omega

theorem feed_advances (hcur : InFrame reading cur) (hread : reading ≠ .polling)
    (hbytes : bytes.length ≤ reading.remaining) : Advances (cur ++ bytes) (reading.feed bytes) := by
  cases reading with
  | polling => exact absurd rfl hread
  | header got =>
    obtain ⟨rfl, hlt⟩ := hcur
    simp only [remaining] at hbytes
    simp only [feed]
    split
    · next hshort => exact .inl ⟨rfl, by simp, rfl, hshort⟩
    rename_i hfull
    have hh : (cur ++ bytes).length = 2 := by
      rw [length_append] at hfull ⊢
      omega
    unfold startBody
    split
    · rename_i hzero
      have hsize : dnsFraming.size (cur ++ bytes) = 0 := by
        unfold maxSize at hzero
        omega
      have hadv := nextChunk_advances (cur ++ bytes) [] [] hh (by simp [hsize])
        (show 0 + 0 + dnsFraming.size (cur ++ bytes) = _ by omega)
      rwa [append_nil, append_nil] at hadv
    · rename_i hpos
      refine .inl ⟨rfl, by simp, cur ++ bytes, hh, rfl, ?_, ?_⟩
      · rw [append_nil]
      · exact Nat.pos_of_ne_zero hpos
  | body responseSize got =>
    obtain ⟨h, hh, rfl, rfl, hlt⟩ := hcur
    simp only [remaining] at hbytes
    simp only [feed]
    rw [append_assoc]
    split
    · next hshort => exact .inl ⟨rfl, by simp, h, hh, rfl, rfl, hshort⟩
    rename_i hfull
    rw [length_append] at hfull
    have hadv := nextChunk_advances h (got ++ bytes) [] hh
      (by rw [length_append]; omega)
      (show (got ++ bytes).length + 0 + (dnsFraming.size h - (got ++ bytes).length) = _ by
        rw [length_append]
        omega)
    rwa [append_nil] at hadv
  | discard response chunk rest =>
    obtain ⟨h, more, hh, rfl, hmax, hpos, hsum⟩ := hcur
    simp only [remaining] at hbytes
    simp only [feed]
    rw [append_assoc, append_assoc]
    split
    · rename_i hshort
      refine .inl ⟨rfl, by simp, h, more ++ bytes, hh, rfl, hmax, by omega, ?_⟩
      rw [length_append]
      omega
    · rename_i hfull
      refine nextChunk_advances h response (more ++ bytes) hh (by omega) ?_
      rw [length_append]
      omega

end Feed

/-! ## The invariant -/

variable {s s' : Responses} {a : Action} {records pre : List (List Byte)} {fs : List (List Byte)}
  {record : List Byte} {c cur : List Byte} {reading : Reading}

/-- The number of responses that are complete in a stream. -/
def complete (stream : List Byte) : Nat := (dnsFraming.frames stream).length

/-- The records that have arrived. -/
def arrived (s : Responses) : List (List Byte) := s.decrypted ++ s.fd

/-- A record that arrives does not have the last bytes of two responses. -/
def oneEnd (s : Responses) : Action → Prop
  | .arrive record =>
    complete (s.arrived.flatten ++ record) ≤ complete s.arrived.flatten + 1
  | _ => True

instance (s : Responses) : (a : Action) → Decidable (s.oneEnd a)
  | .arrive _ => inferInstanceAs (Decidable (_ ≤ _))
  | .wake | .decrypt | .read | .wantRead => isTrue trivial

/-- Each of the records completes at most one response. -/
def OneEnd (records : List (List Byte)) : Prop :=
  ∀ pre record post, records = pre ++ record :: post →
    complete (pre.flatten ++ record) ≤ complete pre.flatten + 1

theorem OneEnd.snoc (h : OneEnd records)
    (hone : complete (records.flatten ++ record) ≤ complete records.flatten + 1) :
    OneEnd (records ++ [record]) := by
  intro pre x post heq
  rcases Trace.snoc_eq_append_cons heq with ⟨rfl, rfl⟩ | ⟨post', rfl⟩
  · exact hone
  · exact h pre x post' rfl

/-- The unread bytes are the end of the last record. -/
def LastRecord (s : Responses) : Prop :=
  ∃ pre record x, s.decrypted = pre ++ [record] ∧ s.consumed = pre.flatten ++ x ∧
    x ++ s.buf = record ∧ (s.reading = .polling → complete pre.flatten < complete s.consumed)

/-- What has been read is the responses that the observer has got and the beginning of one. -/
structure Synced (s : Responses) : Prop where
  stream : s.consumed ++ s.buf = s.decrypted.flatten
  frames : ∃ c cur fs, s.consumed = c ++ cur ∧ dnsFraming.Whole c fs ∧ InFrame s.reading cur ∧
    s.observed = fs.map (·.take maxSize)

structure Inv (s : Responses) : Prop where
  stream : s.consumed ++ s.buf = s.decrypted.flatten
  frames : ∃ c cur fs, s.consumed = c ++ cur ∧ dnsFraming.Whole c fs ∧ InFrame s.reading cur ∧
    s.observed = fs.map (·.take maxSize)
  record : s.buf = [] ∨ s.LastRecord
  oneEnd : OneEnd s.arrived

theorem inv_new : new.Inv where
  stream := rfl
  frames := ⟨[], [], [], rfl, .nil, rfl, rfl⟩
  record := .inl rfl
  oneEnd := by
    intro pre record post heq
    simp [arrived, new] at heq

/-- What is read is the end of the current response or not. -/
theorem read_frames (hconsumed : s.consumed = c ++ cur) (hwhole : dnsFraming.Whole c fs)
    (hcur : InFrame s.reading cur) (hobserved : s.observed = fs.map (·.take maxSize))
    (hread : s.reading ≠ .polling) :
    ∃ c' cur' fs', s.read.consumed = c' ++ cur' ∧ dnsFraming.Whole c' fs' ∧
      InFrame s.read.reading cur' ∧ s.read.observed = fs'.map (·.take maxSize) ∧
      (s.read.reading = .polling → fs.length < fs'.length) := by
  have hadv := feed_advances hcur hread
    (show (s.buf.take s.reading.remaining).length ≤ s.reading.remaining by simp)
  rcases hadv with ⟨hnone, hne, hin⟩ | ⟨hpolling, body, hframe, hsome⟩
  · refine ⟨c, cur ++ s.buf.take s.reading.remaining, fs, ?_, hwhole, hin, ?_,
      fun hp => absurd hp hne⟩
    · show s.consumed ++ _ = _
      rw [hconsumed, append_assoc]
    · show s.observed ++ (s.reading.feed _).2.toList = _
      rw [hnone, hobserved]
      exact append_nil _
  · refine ⟨c ++ (cur ++ s.buf.take s.reading.remaining), [], fs ++ [body], ?_,
      hwhole.snoc hframe, ?_, ?_, fun _ => by simp⟩
    · show s.consumed ++ _ = _
      rw [hconsumed, append_nil, append_assoc]
    · show InFrame (s.reading.feed _).1 []
      rw [hpolling]
      rfl
    · show s.observed ++ (s.reading.feed _).2.toList = _
      rw [hsome, hobserved, map_append]
      rfl

theorem Synced.step (h : s.Synced) (hstep : Responses.step a s = some s') : s'.Synced := by
  obtain ⟨hstream, c, cur, fs, hconsumed, hwhole, hcur, hobserved⟩ := h
  cases a with
  | arrive record =>
    cases hstep
    exact ⟨hstream, c, cur, fs, hconsumed, hwhole, hcur, hobserved⟩
  | wake =>
    obtain ⟨hpolling, rfl⟩ := of_guard hstep
    rw [hpolling] at hcur
    obtain rfl : cur = [] := hcur
    exact ⟨hstream, c, [], fs, hconsumed, hwhole, ⟨rfl, by decide⟩, hobserved⟩
  | decrypt =>
    obtain ⟨hguard, hs⟩ := ite_none_left_eq_some.mp hstep
    split at hs
    · cases hs
    cases hs
    refine ⟨?_, c, cur, fs, hconsumed, hwhole, hcur, hobserved⟩
    rw [not_not.mp (not_or.mp hguard).2, append_nil] at hstream
    simp [hstream]
  | read =>
    obtain ⟨hguard, hs⟩ := ite_none_left_eq_some.mp hstep
    cases hs
    obtain ⟨c', cur', fs', hconsumed', hwhole', hcur', hobserved', -⟩ :=
      read_frames hconsumed hwhole hcur hobserved (not_or.mp hguard).1
    refine ⟨?_, c', cur', fs', hconsumed', hwhole', hcur', hobserved'⟩
    show s.consumed ++ s.buf.take _ ++ s.buf.drop _ = s.decrypted.flatten
    rw [append_assoc, take_append_drop, hstream]
  | wantRead =>
    obtain ⟨⟨hread, -, -⟩, rfl⟩ := of_guard hstep
    rw [hread] at hcur
    obtain ⟨rfl, -⟩ := hcur
    exact ⟨hstream, c, [], fs, hconsumed, hwhole, rfl, hobserved⟩

theorem Inv.synced (h : s.Inv) (hstep : Responses.step a s = some s') : s'.Synced :=
  Synced.step ⟨h.stream, h.frames⟩ hstep

theorem Inv.arrive (h : s.Inv) (record : List Byte) (hone : s.oneEnd (.arrive record)) :
    Inv { s with fd := s.fd ++ [record] } := by
  refine ⟨h.stream, h.frames, h.record, ?_⟩
  show OneEnd (s.decrypted ++ (s.fd ++ [record]))
  rw [← append_assoc]
  exact h.oneEnd.snoc hone

theorem Inv.wake (h : s.Inv) (hpolling : s.reading = .polling) :
    Inv { s with reading := .header [] } := by
  refine ⟨h.stream, (h.synced (a := .wake) (if_pos hpolling)).frames, ?_, h.oneEnd⟩
  refine h.record.imp id fun hlast => ?_
  obtain ⟨pre, record, x, hdec, hcons, hx, -⟩ := hlast
  exact ⟨pre, record, x, hdec, hcons, hx, fun hne => by cases hne⟩

theorem Inv.decrypt {fd : List (List Byte)} (h : s.Inv) (hread : s.reading ≠ .polling)
    (hbuf : s.buf = []) (hfd : s.fd = record :: fd) :
    Inv { s with fd := fd, buf := record, decrypted := s.decrypted ++ [record] } := by
  have hstream := h.stream
  rw [hbuf, append_nil] at hstream
  refine ⟨?_, h.frames, .inr ⟨s.decrypted, record, [], rfl, ?_, rfl, fun hp => absurd hp hread⟩, ?_⟩
  · show s.consumed ++ record = (s.decrypted ++ [record]).flatten
    rw [hstream, flatten_append, flatten_singleton]
  · rw [append_nil]
    exact hstream
  · have harrived : s.arrived = s.decrypted ++ [record] ++ fd := by
      rw [arrived, hfd, append_assoc]
      rfl
    show OneEnd (s.decrypted ++ [record] ++ fd)
    rw [← harrived]
    exact h.oneEnd

theorem complete_whole (hwhole : dnsFraming.Whole c fs) (hcur : InFrame reading cur) :
    complete (c ++ cur) = fs.length := by
  rw [complete, hwhole.frames_append, frames_eq_nil (next?_of_inFrame hcur), append_nil]

theorem Inv.read (h : s.Inv) (hread : s.reading ≠ .polling) : s.read.Inv := by
  obtain ⟨c, cur, fs, hconsumed, hwhole, hcur, hobserved⟩ := h.frames
  have hbuf : s.buf.take s.reading.remaining ++ s.buf.drop s.reading.remaining = s.buf :=
    take_append_drop ..
  obtain ⟨c', cur', fs', hconsumed', hwhole', hcur', hobserved', hmore⟩ :=
    read_frames hconsumed hwhole hcur hobserved hread
  refine ⟨?_, ⟨c', cur', fs', hconsumed', hwhole', hcur', hobserved'⟩, ?_, h.oneEnd⟩
  · show s.consumed ++ s.buf.take _ ++ s.buf.drop _ = s.decrypted.flatten
    rw [append_assoc, hbuf]
    exact h.stream
  · rcases h.record with hnil | ⟨pre, record, x, hdec, hcons, hx, -⟩
    · refine .inl ?_
      show s.buf.drop _ = []
      rw [hnil, drop_nil]
    refine .inr ⟨pre, record, x ++ s.buf.take s.reading.remaining, hdec, ?_, ?_, ?_⟩
    · show s.consumed ++ _ = _
      rw [hcons, append_assoc]
    · show x ++ s.buf.take _ ++ s.buf.drop _ = record
      rw [append_assoc, hbuf, hx]
    · intro hp
      have hbefore : complete pre.flatten ≤ complete s.consumed := by
        rw [hcons]
        exact length_frames_le _ _
      rw [hconsumed, complete_whole hwhole hcur] at hbefore
      rw [hconsumed', complete_whole hwhole' hcur']
      exact Nat.lt_of_le_of_lt hbefore (hmore hp)

theorem Inv.wantRead (h : s.Inv) (hread : s.reading = .header []) (hbuf : s.buf = [])
    (hfd : s.fd = []) : Inv { s with reading := .polling } := by
  exact ⟨h.stream, (h.synced (a := .wantRead) (if_pos ⟨hread, hbuf, hfd⟩)).frames, .inl hbuf,
    h.oneEnd⟩

theorem Inv.step (h : s.Inv) (hone : s.oneEnd a) (hstep : Responses.step a s = some s') :
    s'.Inv := by
  cases a with
  | arrive record => exact Option.some.inj hstep ▸ h.arrive record hone
  | wake =>
    obtain ⟨hpolling, rfl⟩ := of_guard hstep
    exact h.wake hpolling
  | decrypt =>
    obtain ⟨hguard, hs⟩ := ite_none_left_eq_some.mp hstep
    obtain ⟨hread, hbuf⟩ := not_or.mp hguard
    split at hs
    · cases hs
    · next record fd hfd => exact Option.some.inj hs ▸ h.decrypt hread (not_not.mp hbuf) hfd
  | read =>
    obtain ⟨hguard, hs⟩ := ite_none_left_eq_some.mp hstep
    exact Option.some.inj hs ▸ h.read (not_or.mp hguard).1
  | wantRead =>
    obtain ⟨⟨hread, hbuf, hfd⟩, rfl⟩ := of_guard hstep
    exact h.wantRead hread hbuf hfd

theorem run_inv {h : List Action} (hrun : Lts.Run step oneEnd new h s) : s.Inv :=
  Lts.Run.invariant (I := fun _ s => s.Inv) inv_new (fun hinv hok hstep => hinv.step hok hstep) hrun

/-! ## No response is left waiting -/

theorem Inv.next?_buf (h : s.Inv) (hpolling : s.reading = .polling) :
    dnsFraming.next? s.buf = none := by
  obtain ⟨c, cur, fs, hconsumed, hwhole, hcur, -⟩ := h.frames
  rw [hpolling] at hcur
  obtain rfl : cur = [] := hcur
  rcases h.record with hnil | ⟨pre, record, x, hdec, hcons, hx, hlt⟩
  · rw [hnil]
    exact Framing.next?_nil
  cases hnext : dnsFraming.next? s.buf with
  | none => rfl
  | some p =>
    -- The record would complete the response that has been read and this one.
    obtain ⟨f, hf, hbuf⟩ := isFrame_of_next? hnext
    have hone : complete (pre.flatten ++ record) ≤ complete pre.flatten + 1 :=
      h.oneEnd pre record s.fd (by rw [arrived, hdec, append_assoc]; rfl)
    have hstream : pre.flatten ++ record = c ++ s.buf := by
      rw [← hx, ← append_assoc, ← hcons, hconsumed, append_nil]
    have hcount : complete (pre.flatten ++ record) = fs.length + complete s.buf := by
      rw [hstream, complete, hwhole.frames_append, length_append]
      rfl
    have hbufcount : 0 < complete s.buf := by
      rw [hbuf, complete, hf.frames_append]
      exact Nat.succ_pos _
    have hread := hlt hpolling
    rw [hconsumed, append_nil] at hread
    have hfs : complete c = fs.length := by
      have hnil := hwhole.frames_append []
      rw [append_nil] at hnil
      rw [complete, hnil, length_append]
      rfl
    omega

/-- The loop waits for the network: nothing is there, and it polls, or has read all there is of a
response. -/
def Waiting (s : Responses) : Prop :=
  s.fd = [] ∧ (s.reading = .polling ∨ (s.buf = [] ∧ s.reading ≠ .header []))

theorem Inv.observed_eq (h : s.Inv) (hwait : s.Waiting) :
    s.observed = (dnsFraming.frames s.arrived.flatten).map (·.take maxSize) := by
  obtain ⟨hfd, hwhere⟩ := hwait
  obtain ⟨c, cur, fs, hconsumed, hwhole, hcur, hobserved⟩ := h.frames
  have harrived : s.arrived.flatten = c ++ (cur ++ s.buf) := by
    rw [arrived, hfd, append_nil, ← h.stream, hconsumed, append_assoc]
  have hrest : dnsFraming.frames (cur ++ s.buf) = [] := by
    rcases hwhere with hpolling | ⟨hbuf, -⟩
    · have hnext := h.next?_buf hpolling
      rw [hpolling] at hcur
      obtain rfl : cur = [] := hcur
      exact frames_eq_nil hnext
    · rw [hbuf, append_nil]
      exact frames_eq_nil (next?_of_inFrame hcur)
  rw [harrived, hwhole.frames_append, hrest, append_nil]
  exact hobserved

/-- The steps of the loop thread. -/
def Action.ofLoop : Action → Bool
  | .wake | .decrypt | .read | .wantRead => true
  | .arrive _ => false

/-- What the loop has still to do. -/
def work (s : Responses) : Nat :=
  4 * s.fd.length + 4 * s.fd.flatten.length + 4 * s.buf.length +
    if (s.fd = [] ↔ s.reading = .polling) then 0 else 1

theorem InFrame.remaining_pos {cur : List Byte} (h : InFrame reading cur)
    (hread : reading ≠ .polling) : 0 < reading.remaining := by
  cases reading with
  | polling => exact absurd rfl hread
  | header got =>
    have hlt := h.2
    simp only [remaining]
    omega
  | body responseSize got =>
    obtain ⟨_, -, -, -, hlt⟩ := h
    simp only [remaining]
    omega
  | discard response chunk rest =>
    obtain ⟨_, _, -, -, -, hpos, -⟩ := h
    exact hpos

theorem Inv.progress (h : s.Inv) (hrecs : s.arrived = records) :
    s.Waiting ∨ ∃ a s', a.ofLoop = true ∧ Responses.step a s = some s' ∧
      (s'.Inv ∧ s'.arrived = records) ∧ s'.work < s.work := by
  by_cases hpolling : s.reading = .polling
  · cases hfd : s.fd with
    | nil => exact .inl ⟨hfd, .inl hpolling⟩
    | cons record fd =>
      refine .inr ⟨.wake, _, rfl, if_pos hpolling, ⟨h.wake hpolling, hrecs⟩, ?_⟩
      simp [work, hfd, hpolling]
  · cases hbuf : s.buf with
    | cons byte buf =>
      have hguard : ¬ (s.reading = .polling ∨ s.buf = []) := by simp [hpolling, hbuf]
      refine .inr ⟨.read, _, rfl, if_neg hguard, ⟨h.read hpolling, hrecs⟩, ?_⟩
      obtain ⟨c, cur, fs, -, -, hcur, -⟩ := h.frames
      have hpos := hcur.remaining_pos hpolling
      have hshorter : s.read.buf.length + 1 ≤ s.buf.length := by
        show (s.buf.drop s.reading.remaining).length + 1 ≤ s.buf.length
        rw [length_drop, hbuf, length_cons]
        omega
      have hfd : s.read.fd = s.fd := rfl
      unfold work
      rw [hfd]
      split <;> split <;> omega
    | nil =>
      cases hfd : s.fd with
      | cons record fd =>
        have hguard : ¬ (s.reading = .polling ∨ s.buf ≠ []) := by simp [hpolling, hbuf]
        refine .inr ⟨.decrypt, _, rfl, ?_, ⟨h.decrypt hpolling hbuf hfd, ?_⟩, ?_⟩
        · simp only [Responses.step, if_neg hguard, hfd]
        · rw [← hrecs, arrived, arrived, hfd, append_assoc]
          rfl
        · simp only [work, hfd, hbuf, length_cons, flatten_cons, length_append, length_nil]
          split <;> split <;> omega
      | nil =>
        by_cases hhead : s.reading = .header []
        · refine .inr ⟨.wantRead, _, rfl, if_pos ⟨hhead, hbuf, hfd⟩,
            ⟨h.wantRead hhead hbuf hfd, hrecs⟩, ?_⟩
          simp [work, hfd, hhead]
        · exact .inl ⟨hfd, .inr ⟨hbuf, hhead⟩⟩

/-- In every run in which each record completes at most one response, none is whole in the TLS
buffer when the loop polls. -/
theorem no_response_left_waiting {h : List Action} (hrun : Lts.Run step oneEnd new h s) :
    (s.reading = .polling → dnsFraming.next? s.buf = none) ∧
    (s.Waiting → s.observed = (dnsFraming.frames s.arrived.flatten).map (·.take maxSize)) ∧
    (∃ as s', Lts.Run step (fun _ a => a.ofLoop = true) s as s' ∧ s'.Waiting ∧
      s'.observed = (dnsFraming.frames s.arrived.flatten).map (·.take maxSize)) := by
  have hinv := run_inv hrun
  refine ⟨hinv.next?_buf, hinv.observed_eq, ?_⟩
  have hstart : Lts.Run step (fun _ a => a.ofLoop = true) s [] s := .start
  have hprog : ∀ t : Responses, (t.Inv ∧ t.arrived = s.arrived) → t.Waiting ∨
      ∃ a t', a.ofLoop = true ∧ step a t = some t' ∧ (t'.Inv ∧ t'.arrived = s.arrived) ∧
        t'.work < t.work :=
    fun t ht => ht.1.progress ht.2
  obtain ⟨as, s', hrun', ⟨hinv', harrived⟩, hwait⟩ := hstart.exists_quiet work hprog ⟨hinv, rfl⟩
  exact ⟨as ++ [], s', hrun', hwait, harrived ▸ hinv'.observed_eq hwait⟩

/-- Two responses over three records, the second with the end of one and the beginning of the
other. -/
def splitRecords : List Action :=
  [.arrive [0, 2, 7], .wake, .decrypt, .read, .arrive [8, 0], .read, .decrypt, .read, .wake,
    .read, .arrive [1, 9], .decrypt, .read, .read]

theorem no_response_left_waiting_splitRecords :
    ∃ s, Lts.Run step oneEnd new splitRecords.reverse s ∧ s.Waiting ∧
      dnsFraming.next? s.buf = none ∧ s.observed = [[7, 8], [9]] ∧
      s.observed = (dnsFraming.frames s.arrived.flatten).map (·.take maxSize) := by
  obtain ⟨s, hrun, hfd, hpolling, hobserved⟩ : ∃ s, Lts.Run step oneEnd new splitRecords.reverse s ∧
      s.fd = [] ∧ s.reading = .polling ∧ s.observed = [[7, 8], [9]] :=
    run_of_mem _ (by decide +kernel)
  have hwait : s.Waiting := ⟨hfd, .inl hpolling⟩
  obtain ⟨hbuf, hall, -⟩ := no_response_left_waiting hrun
  exact ⟨s, hrun, hwait, hbuf hpolling, hobserved, hall hwait⟩

/-- Two responses in one record. -/
def oneRecord : List Action := [.arrive [0, 1, 7, 0, 1, 9], .wake, .decrypt, .read, .read]

/-- The loop delivers the first response and waits in `poll`, with the second one decrypted. -/
theorem second_response_waits :
    ∃ s, Lts.Run step (fun _ _ => True) new oneRecord.reverse s ∧ s.reading = .polling ∧
      s.fd = [] ∧ dnsFraming.next? s.buf = some ([9], []) ∧ s.observed = [[7]] ∧
      dnsFraming.frames s.arrived.flatten = [[7], [9]] :=
  run_of_mem _ (by decide +kernel)

/-! ## The responses stay in sync with the stream -/

/-- However the stream is cut into records, the observer gets the beginning of each response once
and in order: one when the call that reads it comes to its end. -/
theorem responses_in_sync {h : List Action} {stream : List Byte} {messages : List (List Byte)}
    (hrun : Lts.Run step (fun _ _ => True) new h s) (hstream : dnsFraming.Whole stream messages)
    (hsent : s.arrived.flatten <+: stream) :
    ∃ fs, fs <+: messages ∧ s.observed = fs.map (·.take maxSize) ∧ s.consumed <+: stream ∧
      (s.reading = .polling → dnsFraming.Whole s.consumed fs) ∧
      (∀ s', step .read s = some s' → if s'.reading = .polling then
        ∃ response, s'.observed = s.observed ++ [response] else s'.observed = s.observed) ∧
      ∀ s', step .wantRead s = some s' → s'.consumed = s.consumed ∧ s'.observed = s.observed := by
  have hsynced : s.Synced := hrun.invariant (I := fun _ s => s.Synced)
    ⟨rfl, [], [], [], rfl, .nil, rfl, rfl⟩ fun hinv _ hs => hinv.step hs
  obtain ⟨c, cur, fs, hconsumed, hwhole, hcur, hobserved⟩ := hsynced.frames
  have hpre : s.consumed <+: stream := by
    refine List.IsPrefix.trans ⟨s.buf ++ s.fd.flatten, ?_⟩ hsent
    rw [arrived, flatten_append, ← hsynced.stream, append_assoc]
  refine ⟨fs, ?_, hobserved, hpre, fun hpolling => ?_, fun s' hs => ?_, fun s' hs => ?_⟩
  · obtain ⟨rest, hrest⟩ := hpre
    have hall := hstream.frames_append []
    rw [append_nil, ← hrest, hconsumed, append_assoc, hwhole.frames_append,
      frames_eq_nil Framing.next?_nil, append_nil] at hall
    exact ⟨_, hall⟩
  · rw [hpolling] at hcur
    obtain rfl : cur = [] := hcur
    rwa [hconsumed, append_nil]
  · obtain ⟨hguard, hs⟩ := ite_none_left_eq_some.mp hs
    cases hs
    have hbytes : (s.buf.take s.reading.remaining).length ≤ s.reading.remaining :=
      length_take_le _ _
    have hdelivered : s.read.observed =
        s.observed ++ (s.reading.feed (s.buf.take s.reading.remaining)).2.toList := rfl
    rcases feed_advances hcur (not_or.mp hguard).1 hbytes with
      ⟨hnone, hreading, -⟩ | ⟨hpolling, body, -, hsome⟩
    · rw [if_neg (show s.read.reading ≠ .polling from hreading), hdelivered, hnone]
      exact append_nil _
    · rw [if_pos (show s.read.reading = .polling from hpolling)]
      exact ⟨body.take maxSize, by rw [hdelivered, hsome]; rfl⟩
  · obtain ⟨-, rfl⟩ := of_guard hs
    exact ⟨rfl, rfl⟩

theorem responses_in_sync_oneRecord : ∃ s, Lts.Run step (fun _ _ => True) new oneRecord.reverse s ∧
    s.observed = [[7]] ∧ ∃ fs, fs <+: [[7], [9]] ∧ s.observed = fs.map (·.take maxSize) := by
  obtain ⟨s, hrun, hobserved, harrived⟩ : ∃ s,
      Lts.Run step (fun _ _ => True) new oneRecord.reverse s ∧ s.observed = [[7]] ∧
        s.arrived.flatten = [0, 1, 7, 0, 1, 9] := run_of_mem _ (by decide +kernel)
  have hframe (b : Byte) : dnsFraming.IsFrame [0, 1, b] [b] := ⟨[0, 1], rfl, rfl, rfl⟩
  obtain ⟨fs, hfs, heq, -⟩ := responses_in_sync hrun (.cons (hframe 7) (.cons (hframe 9) .nil))
    (by rw [harrived]; exact prefix_rfl)
  exact ⟨s, hrun, hobserved, fs, hfs, heq⟩

end Responses

end Netd.DnsTlsSocket
