import Mathlib.Data.Prod.Lex
import Mathlib.Data.Sum.Order
import Mathlib.Data.String.Basic
import Mathlib.Order.Fin.Basic
import Netd.Lib.OrdMap
import Netd.Lib.CmpMap

/-!
# DnsTlsServer

A resolver that may support a secure protocol. `operatorLt` tells two servers apart by everything
but the IPv6 flow information, and `addressComparator` only by the IP address and the scope. Both
are compared here with the order of a key, from which the laws that `CmpMap` needs follow.
-/

namespace Netd

abbrev Byte := Fin 256

instance Byte.neZero : @NeZero Nat Zero.ofOfNat0 256 := ⟨by decide⟩

/-- `struct sockaddr_in`, with the fields as they are stored. -/
structure SockaddrIn where
  sinPort : Nat
  sinAddr : Nat
  deriving DecidableEq

/-- `struct sockaddr_in6` -/
structure SockaddrIn6 where
  sin6Port : Nat
  sin6Flowinfo : Nat
  sin6Addr : Vector Byte 16
  sin6ScopeId : Nat
  deriving DecidableEq

/-- `struct sockaddr_storage` with an address of one of the two families. -/
inductive SockaddrStorage where
  | inet (sin : SockaddrIn)
  | inet6 (sin6 : SockaddrIn6)
  deriving DecidableEq

namespace SockaddrStorage

/-- `ss_family`: `AF_INET` or `AF_INET6`. -/
def ssFamily : SockaddrStorage → Nat
  | inet _ => 2
  | inet6 _ => 10

/-- `operator <`, which skips the flow information. -/
def operatorLt : SockaddrStorage → SockaddrStorage → Prop
  | inet x, inet y => toLex (x.sinPort, x.sinAddr) < toLex (y.sinPort, y.sinAddr)
  | inet6 x, inet6 y =>
    toLex (x.sin6Port, toLex (x.sin6Addr.toList, x.sin6ScopeId)) <
      toLex (y.sin6Port, toLex (y.sin6Addr.toList, y.sin6ScopeId))
  | x, y => x.ssFamily < y.ssFamily

/-- `operator ==`, which skips the flow information. -/
def operatorEq : SockaddrStorage → SockaddrStorage → Prop
  | inet x, inet y => x.sinPort = y.sinPort ∧ x.sinAddr = y.sinAddr
  | inet6 x, inet6 y =>
    x.sin6Port = y.sin6Port ∧ x.sin6Addr = y.sin6Addr ∧ x.sin6ScopeId = y.sin6ScopeId
  | _, _ => False

instance : DecidableRel operatorLt := fun
  | inet _, inet _ => inferInstanceAs (Decidable (_ < _))
  | inet6 _, inet6 _ => inferInstanceAs (Decidable (_ < _))
  | inet _, inet6 _ => inferInstanceAs (Decidable (_ < _))
  | inet6 _, inet _ => inferInstanceAs (Decidable (_ < _))

instance : DecidableRel operatorEq := fun
  | inet _, inet _ => inferInstanceAs (Decidable (_ ∧ _))
  | inet6 _, inet6 _ => inferInstanceAs (Decidable (_ ∧ _ ∧ _))
  | inet _, inet6 _ => inferInstanceAs (Decidable False)
  | inet6 _, inet _ => inferInstanceAs (Decidable False)

/-- What `operator <` compares, in one linear order. -/
def key : SockaddrStorage → (Nat ×ₗ Nat) ⊕ₗ (Nat ×ₗ (List Byte ×ₗ Nat))
  | inet x => Sum.inlₗ (toLex (x.sinPort, x.sinAddr))
  | inet6 x => Sum.inrₗ (toLex (x.sin6Port, toLex (x.sin6Addr.toList, x.sin6ScopeId)))

theorem operatorLt_iff (x y : SockaddrStorage) : x.operatorLt y ↔ x.key < y.key := by
  cases x <;> cases y <;> simp [operatorLt, key, ssFamily]

theorem operatorEq_iff (x y : SockaddrStorage) : x.operatorEq y ↔ x.key = y.key := by
  cases x <;> cases y <;> simp [operatorEq, key, Vector.toList_inj]

end SockaddrStorage

/-- A resolver that supports, or may support, a secure protocol. -/
structure DnsTlsServer where
  ss : SockaddrStorage
  fingerprints : OrdSet (List Byte)
  name : String
  protocol : Int
  deriving DecidableEq

namespace DnsTlsServer

def ipprotoTcp : Int := 6

/-- The constructor from an address. -/
def ofSockaddr (ss : SockaddrStorage) : DnsTlsServer := ⟨ss, .empty, "", ipprotoTcp⟩

/-- `operator <`, which skips the flow information. -/
def operatorLt (x y : DnsTlsServer) : Prop :=
  x.ss.operatorLt y.ss ∨ (¬ y.ss.operatorLt x.ss ∧
    toLex (x.name, toLex (x.fingerprints.keys, x.protocol)) <
      toLex (y.name, toLex (y.fingerprints.keys, y.protocol)))

/-- `operator ==`, which skips the flow information. -/
def operatorEq (x y : DnsTlsServer) : Prop :=
  x.ss.operatorEq y.ss ∧ x.name = y.name ∧ x.fingerprints = y.fingerprints ∧ x.protocol = y.protocol

instance : DecidableRel operatorLt := fun _ _ => inferInstanceAs (Decidable (_ ∨ _))
instance : DecidableRel operatorEq := fun _ _ => inferInstanceAs (Decidable (_ ∧ _))

/-- `AddressComparator`, which ignores ports, names and fingerprints. -/
def addressComparator (x y : DnsTlsServer) : Prop :=
  match x.ss, y.ss with
  | .inet x, .inet y => x.sinAddr < y.sinAddr
  | .inet6 x, .inet6 y =>
    toLex (x.sin6Addr.toList, x.sin6ScopeId) < toLex (y.sin6Addr.toList, y.sin6ScopeId)
  | xs, ys => xs.ssFamily < ys.ssFamily

instance : DecidableRel addressComparator := fun
  | ⟨.inet _, _, _, _⟩, ⟨.inet _, _, _, _⟩ => inferInstanceAs (Decidable (_ < _))
  | ⟨.inet6 _, _, _, _⟩, ⟨.inet6 _, _, _, _⟩ => inferInstanceAs (Decidable (_ < _))
  | ⟨.inet _, _, _, _⟩, ⟨.inet6 _, _, _, _⟩ => inferInstanceAs (Decidable (_ < _))
  | ⟨.inet6 _, _, _, _⟩, ⟨.inet _, _, _, _⟩ => inferInstanceAs (Decidable (_ < _))

/-! ## The keys behind the comparators -/

/-- What `operator <` compares. -/
def key (x : DnsTlsServer) : ((Nat ×ₗ Nat) ⊕ₗ (Nat ×ₗ (List Byte ×ₗ Nat))) ×ₗ
    (String ×ₗ (List (List Byte) ×ₗ Int)) :=
  toLex (x.ss.key, toLex (x.name, toLex (x.fingerprints.keys, x.protocol)))

/-- What `AddressComparator` compares. -/
def addressKey (x : DnsTlsServer) : Nat ⊕ₗ (List Byte ×ₗ Nat) :=
  match x.ss with
  | .inet x => Sum.inlₗ x.sinAddr
  | .inet6 x => Sum.inrₗ (toLex (x.sin6Addr.toList, x.sin6ScopeId))

theorem operatorLt_iff (x y : DnsTlsServer) : x.operatorLt y ↔ x.key < y.key := by
  refine Iff.trans ?_ Prod.Lex.toLex_lt_toLex.symm
  rw [operatorLt, SockaddrStorage.operatorLt_iff, SockaddrStorage.operatorLt_iff]
  exact lt_or_not_gt_and_iff

theorem fingerprints_inj {a b : OrdSet (List Byte)} : a.keys = b.keys ↔ a = b := by
  refine ⟨fun h => OrdMap.ext' ?_, fun h => h ▸ rfl⟩
  refine List.map_injective_iff.mpr ?_ h
  rintro ⟨a, ⟨⟩⟩ ⟨b, ⟨⟩⟩ rfl
  rfl

theorem operatorEq_iff (x y : DnsTlsServer) : x.operatorEq y ↔ x.key = y.key := by
  simp [operatorEq, key, SockaddrStorage.operatorEq_iff, fingerprints_inj]

theorem addressComparator_iff (x y : DnsTlsServer) :
    addressComparator x y ↔ x.addressKey < y.addressKey := by
  unfold addressComparator addressKey
  cases x.ss <;> cases y.ss <;> simp [SockaddrStorage.ssFamily]

instance : IsStrictWeakOrder DnsTlsServer operatorLt := isStrictWeakOrder_of_key key operatorLt_iff

instance : IsStrictWeakOrder DnsTlsServer addressComparator :=
  isStrictWeakOrder_of_key addressKey addressComparator_iff

theorem equivalent_operatorLt {x y : DnsTlsServer} : Equivalent operatorLt x y ↔ x.operatorEq y :=
  (equivalent_iff_key operatorLt_iff).trans (operatorEq_iff x y).symm

/-- The same family and address and, for IPv6, the same scope id. -/
def SameAddress (x y : DnsTlsServer) : Prop :=
  match x.ss, y.ss with
  | .inet x, .inet y => x.sinAddr = y.sinAddr
  | .inet6 x, .inet6 y => x.sin6Addr = y.sin6Addr ∧ x.sin6ScopeId = y.sin6ScopeId
  | _, _ => False

theorem equivalent_addressComparator {x y : DnsTlsServer} :
    Equivalent addressComparator x y ↔ x.SameAddress y := by
  rw [equivalent_iff_key addressComparator_iff]
  unfold SameAddress addressKey
  cases x.ss <;> cases y.ss <;> simp [Vector.toList_inj]

theorem operatorEq.sameAddress {x y : DnsTlsServer} (h : x.operatorEq y) : x.SameAddress y := by
  obtain ⟨hss, -⟩ := h
  revert hss
  unfold SockaddrStorage.operatorEq SameAddress
  cases x.ss <;> cases y.ss <;> simp +contextual

/-- **The orders of servers are lawful.** -/
theorem orders_lawful : IsStrictWeakOrder DnsTlsServer operatorLt ∧
    (∀ x y : DnsTlsServer, ¬ x.operatorLt y ∧ ¬ y.operatorLt x ↔ x.operatorEq y) ∧
    IsStrictWeakOrder DnsTlsServer addressComparator ∧
    (∀ x y, ¬ addressComparator x y ∧ ¬ addressComparator y x ↔ x.SameAddress y) ∧
    ∀ x y, x.operatorEq y → ¬ addressComparator x y ∧ ¬ addressComparator y x :=
  ⟨inferInstance, fun _ _ => equivalent_operatorLt, inferInstance,
    fun _ _ => equivalent_addressComparator,
    fun _ _ h => equivalent_addressComparator.mpr h.sameAddress⟩

theorem operatorEq.symm {x y : DnsTlsServer} (h : x.operatorEq y) : y.operatorEq x :=
  (operatorEq_iff y x).mpr ((operatorEq_iff x y).mp h).symm

end DnsTlsServer

end Netd
