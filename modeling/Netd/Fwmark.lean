import Mathlib.Data.BitVec

/-!
# Permissions, user ids and socket marks

The mark of a socket is a 32-bit word whose low 21 bits are fields. `Fwmark` keeps them apart and
`Fwmark.intValue` packs them, as the union in `Fwmark.h` does. Every word is the packing of exactly
one `Fwmark`.
-/

namespace Netd

open BitVec

/-! ## Permissions -/

/-- The permissions a network can require and a user can hold. -/
inductive Permission where
  | none
  | network
  | system
  deriving DecidableEq

/-- The flag bits of a permission. `system` includes `network`. -/
def Permission.bits : Permission → BitVec 2
  | .none => 0
  | .network => 1
  | .system => 3

/-- `(bits & required) == required`. -/
def holdsAll (bits required : BitVec 2) : Bool := bits &&& required = required

/-! ## User ids -/

abbrev Uid := BitVec 32

/-- `static_cast<uid_t>(-1)`. -/
def invalidUid : Uid := 0xffffffff#32

/-- Words are ordered as unsigned numbers. -/
instance bitVecLinearOrder (w : Nat) : LinearOrder (BitVec w) where
  le_refl x := Nat.le_refl x.toNat
  le_trans _ _ _ h1 h2 := Nat.le_trans h1 h2
  le_antisymm _ _ h1 h2 := eq_of_toNat_eq (Nat.le_antisymm h1 h2)
  le_total x y := Nat.le_total x.toNat y.toNat
  lt_iff_le_not_ge _ _ := Nat.lt_iff_le_and_not_ge
  toDecidableLE := inferInstance
  toDecidableLT := inferInstance
  toDecidableEq := inferInstance

/-! ## Marks -/

/-- A socket mark, field by field. -/
structure Fwmark where
  netId : BitVec 16 := 0
  explicitlySelected : Bool := false
  protectedFromVpn : Bool := false
  permission : BitVec 2 := 0
  uidBillingDone : Bool := false
  /-- The bits above the fields. -/
  unused : BitVec 11 := 0

def fwmarkNetIdMask : BitVec 16 := 0xffff#16

/-- The packed mark; the first field is in the low bits. -/
def Fwmark.intValue (m : Fwmark) : BitVec 32 :=
  m.unused ++ ofBool m.uidBillingDone ++ m.permission ++ ofBool m.protectedFromVpn ++
    ofBool m.explicitlySelected ++ m.netId

/-- The fields of a packed mark. -/
def Fwmark.ofInt (x : BitVec 32) : Fwmark where
  netId := x.extractLsb' 0 16
  explicitlySelected := x.getLsbD 16
  protectedFromVpn := x.getLsbD 17
  permission := x.extractLsb' 18 2
  uidBillingDone := x.getLsbD 20
  unused := x.extractLsb' 21 11

def Fwmark.getUidBillingMask : BitVec 32 := ({ uidBillingDone := true } : Fwmark).intValue

theorem fields_eq {w v : Nat} {hi hi' : BitVec w} {lo lo' : BitVec v} :
    hi ++ lo = hi' ++ lo' ↔ hi = hi' ∧ lo = lo' := by
  refine ⟨fun h => ⟨?_, ?_⟩, fun ⟨hh, hl⟩ => by rw [hh, hl]⟩
  · have hhi := congrArg (extractLsb' v w) h
    rwa [extractLsb'_append_eq_left, extractLsb'_append_eq_left] at hhi
  · have hlo := congrArg (extractLsb' 0 v) h
    rwa [extractLsb'_append_eq_right, extractLsb'_append_eq_right] at hlo

theorem ofBool_inj {a b : Bool} : ofBool a = ofBool b ↔ a = b := by
  cases a <;> cases b <;> decide

theorem Fwmark.intValue_inj {a b : Fwmark} : a.intValue = b.intValue ↔ a = b := by
  refine ⟨fun h => ?_, fun h => by rw [h]⟩
  have h' : @Eq (BitVec (11 + 1 + 2 + 1 + 1 + 16)) a.intValue b.intValue := h
  unfold Fwmark.intValue at h'
  simp only [fields_eq, ofBool_inj] at h'
  cases a
  simp_all

theorem Fwmark.intValue_ofInt (x : BitVec 32) : (Fwmark.ofInt x).intValue = x := by
  unfold Fwmark.intValue Fwmark.ofInt
  ext i hi
  simp only [getElem_append, getElem_extractLsb']
  grind

theorem ofBool_differ (a b c : Bool) :
    (ofBool a ^^^ ofBool b) &&& ofBool c = 0#1 ↔ (c = true → a = b) := by
  cases a <;> cases b <;> cases c <;> decide

theorem differ_append {w v : Nat} (a a' a'' : BitVec w) (b b' b'' : BitVec v) :
    ((a ++ b) ^^^ (a' ++ b')) &&& (a'' ++ b'') = 0#(w + v) ↔
      (a ^^^ a') &&& a'' = 0#w ∧ (b ^^^ b') &&& b'' = 0#v := by
  rw [xor_append, and_append, ← zero_append_zero, fields_eq]

/-- Marks agree under the mask when no field differs in a bit that the mask selects. -/
theorem Fwmark.differ_iff (f m k : Fwmark) : (f.intValue ^^^ m.intValue) &&& k.intValue = 0 ↔
      (f.netId ^^^ m.netId) &&& k.netId = 0 ∧
      (k.explicitlySelected = true → f.explicitlySelected = m.explicitlySelected) ∧
      (k.protectedFromVpn = true → f.protectedFromVpn = m.protectedFromVpn) ∧
      (f.permission ^^^ m.permission) &&& k.permission = 0 ∧
      (k.uidBillingDone = true → f.uidBillingDone = m.uidBillingDone) ∧
      (f.unused ^^^ m.unused) &&& k.unused = 0 := by
  refine (differ_append (w := 11 + 1 + 2 + 1 + 1) (v := 16) ..).trans ?_
  simp only [differ_append, ofNat_eq_ofNat, ofBool_differ]
  tauto

end Netd
