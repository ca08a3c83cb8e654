import Netd.Server.UidRanges

/-!
# Which sockets are destroyed

`destroySockets` spares loopback sockets if it is told to. The words of an
address are as they lie in memory, in network byte order, on a little-endian
machine: the first octet of an IPv4 address is in the low bits.

`destroySocketsLackingPermission` leaves the choice to a program for the
`inet_diag` interpreter of the kernel, which moves by distances in bytes.
-/

namespace Netd.SockDiag

open BitVec Fwmark

/-! ## Loopback sockets -/

inductive Family where
  | inet
  | inet6
  | other

/-- Four words, of which an IPv4 address sets the first. -/
structure Address where
  (w0 w1 w2 w3 : BitVec 32)

structure InetDiagMsg where
  idiagFamily : Family
  idiagSrc : Address
  idiagDst : Address
  idiagUid : Uid

def htonl (x : BitVec 32) : BitVec 32 :=
  x.extractLsb' 0 8 ++ (x.extractLsb' 8 8 ++ x.extractLsb' 16 8 ++ x.extractLsb' 24 8)

def inLoopback (a : BitVec 32) : Bool := a &&& 0xff000000#32 = 0x7f000000#32

/-- `IN6_IS_ADDR_V4MAPPED` -/
def Address.isV4Mapped (a : Address) : Bool := a.w0 = 0 ∧ a.w1 = 0 ∧ a.w2 = htonl 0xffff

/-- `IN6_IS_ADDR_LOOPBACK` -/
def Address.isLoopback (a : Address) : Bool := a.w0 = 0 ∧ a.w1 = 0 ∧ a.w2 = 0 ∧ a.w3 = htonl 1

def isLoopbackSocket (msg : InetDiagMsg) : Bool :=
  let src := msg.idiagSrc
  let dst := msg.idiagDst
  match msg.idiagFamily with
  | .inet => inLoopback (htonl src.w0) || inLoopback (htonl dst.w0) || src.w0 = dst.w0
  | .inet6 =>
    (src.isV4Mapped && inLoopback src.w3) || (dst.isV4Mapped && inLoopback dst.w3) ||
      src.isLoopback || dst.isLoopback ||
      (src.w0 = dst.w0 ∧ src.w1 = dst.w1 ∧ src.w2 = dst.w2 ∧ src.w3 = dst.w3 : Bool)
  | .other => false

/-- The choice that `destroySockets` makes. -/
def shouldDestroy (uidRanges : UidRanges) (skipUids : List Uid) (excludeLoopback : Bool)
    (msg : InetDiagMsg) : Bool :=
  uidRanges.hasUid msg.idiagUid && !skipUids.contains msg.idiagUid &&
    !(excludeLoopback && isLoopbackSocket msg)

/-- The message with the IPv4-mapped forms of its addresses. -/
def InetDiagMsg.v4Mapped (msg : InetDiagMsg) : InetDiagMsg :=
  { msg with
    idiagFamily := .inet6
    idiagSrc := ⟨0, 0, htonl 0xffff, msg.idiagSrc.w0⟩
    idiagDst := ⟨0, 0, htonl 0xffff, msg.idiagDst.w0⟩ }

def firstOctet (a : BitVec 32) : BitVec 8 := a.extractLsb' 0 8

def lastOctet (a : BitVec 32) : BitVec 8 := a.extractLsb' 24 8

theorem inLoopback_iff {a : BitVec 32} : inLoopback a = true ↔ lastOctet a = 127 := by
  have ha : (lastOctet a ++ a.extractLsb' 0 24 : BitVec (8 + 24)) = a := by
    ext i hi
    simp only [lastOctet, getElem_append, getElem_extractLsb']
    grind
  have hand : ((lastOctet a &&& 0xff) ++ (a.extractLsb' 0 24 &&& 0) : BitVec (8 + 24)) =
      a &&& 0xff000000#32 := by
    rw [← and_append, ha]
    rfl
  rw [inLoopback, decide_eq_true_iff, ← hand]
  refine (@fields_eq _ _ _ 127#8 _ 0#24).trans ?_
  rw [show (0xff : BitVec 8) = allOnes 8 from rfl, and_allOnes]
  simp

theorem lastOctet_htonl (a : BitVec 32) : lastOctet (htonl a) = firstOctet a :=
  extractLsb'_append_eq_left

theorem isLoopbackSocket_v4Mapped_iff {msg : InetDiagMsg} (hinet : msg.idiagFamily = .inet) :
    isLoopbackSocket msg.v4Mapped = isLoopbackSocket msg ↔
      msg.idiagSrc.w0 = msg.idiagDst.w0 ∨
        ((firstOctet msg.idiagSrc.w0 = 127 ∨ firstOctet msg.idiagDst.w0 = 127) ↔
          (lastOctet msg.idiagSrc.w0 = 127 ∨ lastOctet msg.idiagDst.w0 = 127)) := by
  have hmapped : ∀ a, (⟨0, 0, htonl 0xffff, a⟩ : Address).isV4Mapped = true := fun _ => rfl
  have hnot : ∀ a, (⟨0, 0, htonl 0xffff, a⟩ : Address).isLoopback = false := fun _ => rfl
  rw [Bool.eq_iff_iff]
  simp only [isLoopbackSocket, InetDiagMsg.v4Mapped, hinet, hmapped, hnot, Bool.or_eq_true,
    Bool.true_and, inLoopback_iff, lastOctet_htonl, decide_eq_true_iff, true_and,
    Bool.false_eq_true, or_false]
  grind

/-- **IPv4 and IPv4-mapped sockets are treated alike** exactly if both addresses are the same, or
one begins with 127 exactly when one ends with it. -/
theorem loopback_alike (msg : InetDiagMsg) (hinet : msg.idiagFamily = .inet) :
    (isLoopbackSocket msg.v4Mapped = isLoopbackSocket msg ∧
      ∀ uidRanges skipUids excludeLoopback,
        shouldDestroy uidRanges skipUids excludeLoopback msg.v4Mapped =
          shouldDestroy uidRanges skipUids excludeLoopback msg) ↔
      msg.idiagSrc.w0 = msg.idiagDst.w0 ∨
        ((firstOctet msg.idiagSrc.w0 = 127 ∨ firstOctet msg.idiagDst.w0 = 127) ↔
          (lastOctet msg.idiagSrc.w0 = 127 ∨ lastOctet msg.idiagDst.w0 = 127)) := by
  rw [← isLoopbackSocket_v4Mapped_iff hinet]
  refine and_iff_left_of_imp fun hlo _ _ _ => ?_
  rw [shouldDestroy, shouldDestroy, hlo]
  rfl

theorem loopback_alike_sample :
    let msg : InetDiagMsg := ⟨.inet, ⟨0x0100000a, 0, 0, 0⟩, ⟨0x0200000a, 0, 0, 0⟩, 0⟩
    isLoopbackSocket msg.v4Mapped = isLoopbackSocket msg :=
  ((loopback_alike _ rfl).mpr (by decide)).1

/-- A connection from 127.0.0.1 to 127.0.0.2, and one from 10.0.0.127. -/
theorem loopback_not_alike :
    let msg src dst : InetDiagMsg := ⟨.inet, ⟨src, 0, 0, 0⟩, ⟨dst, 0, 0, 0⟩, 0⟩
    isLoopbackSocket (msg 0x0100007f 0x0200007f) = true ∧
      isLoopbackSocket (msg 0x0100007f 0x0200007f).v4Mapped = false ∧
      isLoopbackSocket (msg 0x7f00000a 0x0808080a) = false ∧
      isLoopbackSocket (msg 0x7f00000a 0x0808080a).v4Mapped = true := by
  decide

/-! ## The program for a change of permission -/

/-- An instruction with its distances `yes` and `no`. -/
inductive BcOp where
  | markCond (yes no : Nat) (mark mask : BitVec 32)
  | jmp (yes no : Nat)

/-- The length of `markmatch`. -/
def matchlen : Nat := 12

/-- The length of `inet_diag_bc_op`. -/
def jmplen : Nat := 4

def rejectoffset : Nat := 4

def bytecodelen : Nat := matchlen + matchlen + jmplen

/-- The program of `destroySocketsLackingPermission`. -/
def bytecode (netId : Nat) (permission : Permission) : List BcOp :=
  let netIdMark : Fwmark := { netId := BitVec.ofNat 16 netId }
  let netIdMask : Fwmark := { netId := 0xffff }
  let controlMark : Fwmark := { explicitlySelected := true, permission := permission.bits }
  [.markCond matchlen (bytecodelen + rejectoffset) netIdMark.intValue netIdMask.intValue,
    .markCond matchlen (matchlen + jmplen) controlMark.intValue controlMark.intValue,
    .jmp jmplen (jmplen + rejectoffset)]

namespace BcOp

def size : BcOp → Nat
  | markCond .. => matchlen
  | jmp .. => jmplen

/-- How far the kernel moves. -/
def advance (socketMark : BitVec 32) : BcOp → Nat
  | markCond yes no mark mask => if socketMark &&& mask = mark then yes else no
  | jmp _ no => no

/-- The instruction that begins at a byte. -/
def fetch : List BcOp → Nat → Option BcOp
  | [], _ => none
  | op :: ops, pc =>
    if pc = 0 then some op else if op.size ≤ pc then fetch ops (pc - op.size) else none

/-- The interpreter: a socket is accepted when it comes out at the very end. -/
def run (program : List BcOp) (socketMark : BitVec 32) : Nat → Nat → Option Bool
  | 0, _ => none
  | fuel + 1, pc =>
    let len := (program.map size).sum
    if len ≤ pc then some (pc = len)
    else (fetch program pc).bind fun op => run program socketMark fuel (pc + op.advance socketMark)

end BcOp

theorem and_append_eq {w v : Nat} (a a' a'' : BitVec w) (b b' b'' : BitVec v) :
    (a ++ b) &&& (a' ++ b') = a'' ++ b'' ↔ a &&& a' = a'' ∧ b &&& b' = b'' := by
  rw [and_append, fields_eq]

theorem ofBool_and_eq (a b c : Bool) : ofBool a &&& ofBool b = ofBool c ↔ (a && b) = c := by
  cases a <;> cases b <;> cases c <;> decide

/-- A mark condition, field by field. -/
theorem and_intValue_iff (f k m : Fwmark) : f.intValue &&& k.intValue = m.intValue ↔
      f.netId &&& k.netId = m.netId ∧
      (f.explicitlySelected && k.explicitlySelected) = m.explicitlySelected ∧
      (f.protectedFromVpn && k.protectedFromVpn) = m.protectedFromVpn ∧
      f.permission &&& k.permission = m.permission ∧
      (f.uidBillingDone && k.uidBillingDone) = m.uidBillingDone ∧
      f.unused &&& k.unused = m.unused := by
  refine (and_append_eq (w := 11 + 1 + 2 + 1 + 1) (v := 16) ..).trans ?_
  simp only [and_append_eq, ofBool_and_eq]
  tauto

open BcOp

theorem run_of_conditions (mark m m' k k' : BitVec 32) (fuel : Nat) :
    run [.markCond 12 32 m k, .markCond 12 16 m' k', .jmp 4 8] mark (fuel + 4) 0 =
      some (decide (mark &&& k = m ∧ ¬mark &&& k' = m')) := by
  by_cases hm : mark &&& k = m
  · by_cases hm' : mark &&& k' = m' <;>
      simp [run, fetch, advance, size, matchlen, jmplen, hm, hm']
  · simp [run, advance, fetch, size, matchlen, jmplen, hm]

/-- **The program accepts exactly the sockets to destroy**: on the network, and not both explicitly
bound and of an owner with the permission. -/
theorem bytecode_selects (netId : Nat) (hnetId : netId < 65536) (permission : Permission)
    (mark : BitVec 32) (fuel : Nat) :
    BcOp.run (bytecode netId permission) mark (fuel + 4) 0 =
      some (decide ((Fwmark.ofInt mark).netId.toNat = netId ∧
        ¬((Fwmark.ofInt mark).explicitlySelected = true ∧
          holdsAll (Fwmark.ofInt mark).permission permission.bits = true))) := by
  have hfield : (ofInt mark).netId &&& allOnes 16 = BitVec.ofNat 16 netId ↔
      (ofInt mark).netId.toNat = netId := by
    rw [and_allOnes, ← toNat_inj, toNat_ofNat, Nat.mod_eq_of_lt hnetId]
  have hnet := and_intValue_iff (.ofInt mark) { netId := allOnes 16 }
    { netId := BitVec.ofNat 16 netId }
  have hcontrol := and_intValue_iff (.ofInt mark)
    { explicitlySelected := true, permission := permission.bits }
    { explicitlySelected := true, permission := permission.bits }
  simp only [intValue_ofInt, hfield, ofNat_eq_ofNat, and_zero, Bool.and_false, Bool.and_true,
    true_and, and_true] at hnet hcontrol
  refine (run_of_conditions ..).trans ?_
  simp only [holdsAll, decide_eq_true_eq, ← hnet, ← hcontrol]
  rfl

theorem bytecode_selects_sample : BcOp.run (bytecode 100 .network) 0x10064 4 0 = some true :=
  (bytecode_selects 100 (by decide) .network 0x10064 0).trans (by decide)

end Netd.SockDiag
