import Netd.Resolv.ResSend

/-!
# Sending over a socket

`send_vc` sends a query over a virtual circuit, and `send_dg` sends it in a datagram. Both write
the answer into the buffer `ans` and read its header there. What the kernel and the server do is a
script. One that is over stands for a circuit that is closed, and for a wait that times out.
-/

namespace Netd

namespace Errno

def emsgsize : Int := 90
def econnreset : Int := 104

end Errno

namespace ResSend

/-! ## The header of a message -/

def headerRcode (msg : List Byte) : Nat := (msg.getD 3 0).val % 16

def headerTc (msg : List Byte) : Bool := (msg.getD 2 0).val / 2 % 2 == 1

/-- `hp->id`, as it is in the message. -/
def headerId (msg : List Byte) : List Byte := msg.take 2

def nsGet16 (msg : List Byte) : Nat := (msg.getD 0 0).val * 256 + (msg.getD 1 0).val

/-- `anhp->tc = 1` -/
def setTc (msg : List Byte) : List Byte := if headerTc msg then msg else msg.modify 2 (· + 2)

def markTruncated (truncating : Bool) (ans : List Byte) : List Byte :=
  if truncating then setTc ans else ans

/-- Write some bytes at the start of a buffer. -/
def overwrite (buf bytes : List Byte) : List Byte := bytes ++ buf.drop bytes.length

def formerr : Nat := 1
def servfail : Nat := 2
def notimp : Nat := 4
def refused : Nat := 5

/-- What the pointers point to when `send_vc` or `send_dg` is called. -/
structure Args where
  ans : List Byte
  terrno : Nat
  rcode : Nat

/-! ## Virtual circuits -/

/-- What `read` gives: some bytes, or none with a value of `errno`. -/
inductive ReadResult where
  | data (first : Byte) (more : List Byte)
  | failed (errno : Nat)

/-- The bytes that a loop over `read` has got, `errno` if it has ended early, and the rest of the
script. -/
structure Received where
  bytes : List Byte
  failure : Option Nat
  rest : List ReadResult

def readAll : Nat → List ReadResult → Received
  | _, [] => ⟨[], some 0, []⟩
  | _, .failed errno :: rest => ⟨[], some errno, rest⟩
  | len, .data first more :: rest =>
    let got := (first :: more).take len
    if got.length = len then ⟨got, none, rest⟩
    else
      let r := readAll (len - got.length) rest
      ⟨got ++ r.bytes, r.failure, r.rest⟩

/-- Read the rest of an answer that is too long for the buffer. -/
def skipJunk : Nat → List ReadResult → List ReadResult
  | 0, reads => reads
  | _, [] => []
  | _, .failed _ :: rest => rest
  | len + 1, .data first more :: rest =>
    skipJunk (len + 1 - ((first :: more).take (min (len + 1) packetsz)).length) rest

/-- `len = resplen - anssiz`, an unsigned short. -/
def junkLength (resplen anssiz : Nat) : Nat := (((resplen : Int) - anssiz) % 65536).toNat

/-- How reading the answer ends, with the buffer it leaves. -/
inductive Reception where
  /-- There was no length. -/
  | noLength (errno : Nat) (ans : List Byte)
  | failed (terrno : Nat) (ans : List Byte)
  | answer (resplen : Nat) (ans : List Byte)

/-- One round from `read_len` on: `none` goes back there. Once a message was too long, `truncating`
stays set. -/
def readMessage (query : List Byte) (anssiz : Nat) (truncating : Bool) (ans : List Byte)
    (reads : List ReadResult) : Option Reception × Bool × List Byte × List ReadResult :=
  let length := readAll 2 reads
  let ans := overwrite ans length.bytes
  match length.failure with
  | some errno => (some (.noLength errno ans), truncating, ans, length.rest)
  | none =>
    let resplen := nsGet16 ans
    let truncating := truncating || resplen > anssiz
    let len := min resplen anssiz
    if len < hfixedsz then
      (some (.failed Errno.emsgsize.toNat ans), truncating, ans, length.rest)
    else
      let message := readAll len length.rest
      let ans := overwrite ans message.bytes
      match message.failure with
      | some errno => (some (.failed errno ans), truncating, ans, message.rest)
      | none =>
        let ans := markTruncated truncating ans
        let rest := skipJunk (if truncating then junkLength resplen anssiz else 0) message.rest
        if headerId query ≠ headerId ans then (none, truncating, ans, rest)
        else (some (.answer resplen ans), truncating, ans, rest)

/-- From `read_len` on. The first number bounds the rounds. -/
def receive (query : List Byte) (anssiz : Nat) :
    Nat → Bool → List Byte → List ReadResult → Reception
  | 0, _, ans, _ => .noLength 0 ans
  | fuel + 1, truncating, ans, reads =>
    match readMessage query anssiz truncating ans reads with
    | (some reception, _) => reception
    | (none, truncating, ans, rest) => receive query anssiz fuel truncating ans rest

/-- How a circuit to the server is obtained. -/
inductive VcSetup where
  /-- The open circuit is still the right one, or a new one is connected. -/
  | connected
  /-- The address family is not supported. -/
  | unsupported
  | socketFailed (errno : Nat)
  | setsockoptFailed (errno : Nat)
  | bindFailed (errno : Nat)
  | connectFailed (errno : Nat)

/-- One time through `send_vc` from `same_ns` on. -/
structure VcScript where
  setup : VcSetup
  /-- `errno` if `writev` does not take the whole query. -/
  writev : Option Nat
  reads : List ReadResult

/-- What `send_vc` leaves: its result, and what its pointers point to. -/
structure Sent where
  n : Int
  terrno : Nat
  rcode : Nat
  ans : List Byte

/-- One time through `send_vc`, and whether the circuit was reset. -/
def tryVc (query : List Byte) (anssiz : Nat) (args : Args) (script : VcScript) : Bool × Sent :=
  match script.setup with
  | .unsupported => (false, ⟨0, args.terrno, args.rcode, args.ans⟩)
  | .socketFailed errno => (false, ⟨-1, errno, args.rcode, args.ans⟩)
  | .setsockoptFailed errno => (false, ⟨-1, errno, args.rcode, args.ans⟩)
  | .bindFailed errno => (false, ⟨0, errno, args.rcode, args.ans⟩)
  | .connectFailed errno => (false, ⟨0, errno, rcodeTimeout, args.ans⟩)
  | .connected =>
    match script.writev with
    | some errno => (false, ⟨0, errno, args.rcode, args.ans⟩)
    | none =>
      match receive query anssiz (script.reads.length + 1) false args.ans script.reads with
      | .noLength errno ans =>
        (decide ((errno : Int) = Errno.econnreset), ⟨0, errno, args.rcode, ans⟩)
      | .failed terrno ans => (false, ⟨0, terrno, args.rcode, ans⟩)
      | .answer resplen ans => (false, ⟨resplen, args.terrno, headerRcode ans, ans⟩)

/-- A circuit that was reset is tried once more. -/
def sendVc (query : List Byte) (anssiz : Nat) (args : Args) (script again : VcScript) : Sent :=
  match tryVc query anssiz args script with
  | (false, sent) => sent
  | (true, sent) => (tryVc query anssiz ⟨sent.ans, sent.terrno, sent.rcode⟩ again).2

/-! ## Datagrams -/

/-- How the socket for the server is obtained and the query sent. -/
inductive DgSetup where
  | sent
  /-- The address family is not supported, or `bind`, `connect` or `send` fails. -/
  | failed
  | socketFailed (errno : Nat)
  | setsockoptFailed

/-- What a wait for a datagram gives. -/
inductive Datagram where
  | timeout
  | failed
  /-- A datagram, and what `res_ourserver_p` and `res_queriesmatch` say of it. -/
  | received (first : Byte) (more : List Byte) (ours queriesMatch : Bool)

structure DgScript where
  setup : DgSetup
  datagrams : List Datagram
  /-- `RES_USE_EDNS0` is set. -/
  useEdns0 : Bool

/-- What `send_dg` leaves, with the flags it may set. -/
structure DgSent extends Sent where
  vCircuit : Bool
  gotsomewhere : Bool

/-- From `retry` on. -/
def awaitAnswer (query : List Byte) (anssiz : Nat) (useEdns0 : Bool) (args : Args)
    (gotsomewhere : Bool) : List Datagram → DgSent
  | [] => ⟨⟨0, args.terrno, rcodeTimeout, args.ans⟩, false, true⟩
  | .timeout :: _ => ⟨⟨0, args.terrno, rcodeTimeout, args.ans⟩, false, true⟩
  | .failed :: _ => ⟨⟨0, args.terrno, args.rcode, args.ans⟩, false, gotsomewhere⟩
  | .received first more ours queriesMatch :: rest =>
    let bytes := (first :: more).take anssiz
    let ans := overwrite args.ans bytes
    if bytes.length < hfixedsz then
      ⟨⟨0, Errno.emsgsize.toNat, args.rcode, ans⟩, false, true⟩
    else if headerId query ≠ headerId ans then
      awaitAnswer query anssiz useEdns0 { args with ans := ans } true rest
    else if !ours then awaitAnswer query anssiz useEdns0 { args with ans := ans } true rest
    else if headerRcode ans = formerr ∧ useEdns0 then
      ⟨⟨0, args.terrno, args.rcode, ans⟩, false, true⟩
    else if !queriesMatch then
      awaitAnswer query anssiz useEdns0 { args with ans := ans } true rest
    else if headerRcode ans = servfail ∨ headerRcode ans = notimp ∨ headerRcode ans = refused then
      ⟨⟨0, args.terrno, headerRcode ans, ans⟩, false, true⟩
    else if headerTc ans then ⟨⟨1, args.terrno, args.rcode, ans⟩, true, true⟩
    else ⟨⟨bytes.length, args.terrno, headerRcode ans, ans⟩, false, true⟩

def sendDg (query : List Byte) (anssiz : Nat) (args : Args) (script : DgScript) : DgSent :=
  match script.setup with
  | .failed => ⟨⟨0, args.terrno, args.rcode, args.ans⟩, false, false⟩
  | .socketFailed errno => ⟨⟨-1, errno, args.rcode, args.ans⟩, false, false⟩
  | .setsockoptFailed => ⟨⟨-1, args.terrno, args.rcode, args.ans⟩, false, false⟩
  | .sent => awaitAnswer query anssiz script.useEdns0 args false script.datagrams

/-! ## The rounds of `send_vc` -/

theorem readAll_rest (len : Nat) (reads : List ReadResult) :
    (readAll len reads).rest.length ≤ reads.length - 1 := by
  induction reads generalizing len with
  | nil => simp [readAll]
  | cons read reads ih =>
    cases read with
    | failed errno => simp [readAll]
    | data first more =>
      simp only [readAll]
      split
      · simp
      have hrest := ih (len - ((first :: more).take len).length)
      simp only [List.length_cons]
      omega

theorem skipJunk_length (len : Nat) (reads : List ReadResult) :
    (skipJunk len reads).length ≤ reads.length := by
  induction reads generalizing len with
  | nil => cases len <;> simp [skipJunk]
  | cons read reads ih =>
    cases len with
    | zero => simp [skipJunk]
    | succ len =>
      cases read with
      | failed errno => simp [skipJunk]
      | data first more =>
        exact (ih _).trans (Nat.le_succ _)

/-- A round that goes back to `read_len` has taken a read off the script. -/
theorem readMessage_rest {query : List Byte} {anssiz : Nat} {truncating truncating' : Bool}
    {ans ans' : List Byte} {reads rest : List ReadResult}
    (h : readMessage query anssiz truncating ans reads = (none, truncating', ans', rest)) :
    rest.length < reads.length := by
  cases reads with
  | nil => cases h
  | cons read reads =>
    simp only [readMessage] at h
    split at h
    · cases h
    split at h
    · cases h
    split at h
    · cases h
    split at h
    · simp only [Prod.mk.injEq, true_and] at h
      obtain ⟨-, -, rfl⟩ := h
      have hlen := readAll_rest 2 (read :: reads)
      refine lt_of_le_of_lt ((skipJunk_length _ _).trans (readAll_rest _ _)) ?_
      simp only [List.length_cons] at hlen ⊢
      omega
    · cases h

/-- More rounds than reads make no difference. -/
theorem receive_fuel (query : List Byte) (anssiz : Nat) {fuel fuel' : Nat} (truncating : Bool)
    (ans : List Byte) {reads : List ReadResult} (h : reads.length < fuel)
    (h' : reads.length < fuel') :
    receive query anssiz fuel truncating ans reads =
      receive query anssiz fuel' truncating ans reads := by
  induction fuel generalizing fuel' truncating ans reads with
  | zero => exact absurd h (Nat.not_lt_zero _)
  | succ fuel ih =>
    obtain ⟨k, rfl⟩ : ∃ k, fuel' = k + 1 := ⟨fuel' - 1, by omega⟩
    simp only [receive]
    split
    · rfl
    rename_i truncating' ans' rest hround
    have hrest := readMessage_rest hround
    exact ih truncating' ans' (by omega) (by omega)

end ResSend

end Netd
