import Netd.Server.Dns64Configuration

/-!
# Internet addresses

`ip` of `compact_ipdata` is a union: the bytes of `v4` are the first four of `v6`, in network byte
order.
-/

namespace Netd

open List Af

/-- `compact_ipdata`, the data of an `IPPrefix` and of an `IPAddress`. -/
abbrev CompactIpdata := Dns64.IPPrefix

namespace CompactIpdata

open Dns64 List Af

variable {a b : CompactIpdata}

def v4 (a : CompactIpdata) : List Byte := a.v6.toList.take 4

def operatorEq (a b : CompactIpdata) : Prop :=
  if a.family ≠ b.family ∨ a.cidrlen ≠ b.cidrlen ∨ a.port ≠ b.port ∨ a.scopeId ≠ b.scopeId then
    False
  else if a.family = unspec then True
  else if a.family = inet then a.v4 = b.v4
  else if a.family = inet6 then a.v6 = b.v6
  else False

/-- `operator <`. `memcmp` compares two addresses as lists of bytes. -/
def operatorLt (a b : CompactIpdata) : Prop :=
  if a.family ≠ b.family then a.family < b.family
  else if a.family = inet ∧ a.v4 ≠ b.v4 then ntohl a.v4 < ntohl b.v4
  else if a.family = inet6 ∧ a.v6.toList ≠ b.v6.toList then a.v6.toList < b.v6.toList
  else if a.cidrlen ≠ b.cidrlen then a.cidrlen < b.cidrlen
  else if a.port ≠ b.port then a.port < b.port
  else a.scopeId < b.scopeId

instance : DecidableRel operatorEq := fun _ _ => by unfold operatorEq; infer_instance
instance : DecidableRel operatorLt := fun _ _ => by unfold operatorLt; infer_instance

def Known (a : CompactIpdata) : Prop :=
  a.family = unspec ∨ a.family = inet ∨ a.family = inet6

/-- The address of the family, as a number or as bytes. -/
def address (a : CompactIpdata) : Nat ×ₗ List Byte :=
  toLex (if a.family = inet then ntohl a.v4 else 0,
    if a.family = inet6 then a.v6.toList else [])

def key (a : CompactIpdata) : Int ×ₗ (Nat ×ₗ List Byte) ×ₗ Nat ×ₗ Nat ×ₗ Nat :=
  toLex (a.family, toLex (a.address, toLex (a.cidrlen, toLex (a.port, a.scopeId))))

theorem ntohl_inj {x y : List Byte} (hx : x.length = 4) (hy : y.length = 4) :
    ntohl x = ntohl y ↔ x = y := by
  refine ⟨fun h => ?_, congrArg ntohl⟩
  obtain ⟨x₀, x₁, x₂, x₃, rfl⟩ := length_eq_four.mp hx
  obtain ⟨y₀, y₁, y₂, y₃, rfl⟩ := length_eq_four.mp hy
  simp only [ntohl, getD_cons_zero, getD_cons_succ] at h
  simp only [cons.injEq, Fin.ext_iff, and_true]
  refine ⟨?_, ?_, ?_, ?_⟩ <;> omega

theorem ntohl_v4_inj : ntohl a.v4 = ntohl b.v4 ↔ a.v4 = b.v4 :=
  ntohl_inj (by simp [v4]) (by simp [v4])

theorem ite_lt_iff {α : Type*} [LinearOrder α] {x y : α} [Decidable (x = y)] {P : Prop} :
    (if x = y then P else x < y) ↔ x < y ∨ x = y ∧ P := by
  by_cases h : x = y <;> simp [h]

theorem operatorLt_iff : a.operatorLt b ↔ a.key < b.key := by
  have hne : inet ≠ inet6 := by decide
  by_cases hf : a.family = b.family
  · by_cases h4 : b.family = inet
    · simp [operatorLt, key, address, Prod.Lex.toLex_lt_toLex, hf, h4, hne, ite_lt_iff,
        ← ntohl_v4_inj]
    · by_cases h6 : b.family = inet6 <;>
        simp [operatorLt, key, address, Prod.Lex.toLex_lt_toLex, hf, h4, h6, hne.symm, ite_lt_iff,
          -Vector.lt_toList]
  · simp [operatorLt, key, Prod.Lex.toLex_lt_toLex, hf]

theorem operatorEq_iff (h : a.Known) : a.operatorEq b ↔ a.key = b.key := by
  by_cases hf : a.family = b.family
  · rw [Known, hf] at h
    rcases h with h | h | h <;>
      simp [operatorEq, key, address, hf, h, unspec, inet, inet6, ntohl_v4_inj,
        Vector.toList_inj, and_comm, and_assoc]
  · simp [operatorEq, key, hf]

/-- **The order is total** and agrees with equality. -/
theorem order_total (h : a.Known) : (a.operatorLt b ↔ a.key < b.key) ∧
    (a.operatorLt b ∧ ¬ a.operatorEq b ∧ ¬ b.operatorLt a ∨
      ¬ a.operatorLt b ∧ a.operatorEq b ∧ ¬ b.operatorLt a ∨
      ¬ a.operatorLt b ∧ ¬ a.operatorEq b ∧ b.operatorLt a) ∧
    ∀ c, a.operatorLt b → b.operatorLt c → a.operatorLt c := by
  simp only [operatorLt_iff, operatorEq_iff h]
  refine ⟨trivial, ?_, fun c => lt_trans⟩
  rcases lt_trichotomy a.key b.key with h | h | h
  · exact .inl ⟨h, h.ne, h.not_gt⟩
  · simp [h]
  · exact .inr (.inr ⟨h.not_gt, h.ne', h⟩)

/-- `0.0.x.y` -/
def host (x y : Byte) : CompactIpdata :=
  ⟨inet, 32, 0, 0, #v[0, 0, x, y, 0, 0, 0, 0, 0, 0, 0, 0, 0, 0, 0, 0]⟩

theorem order_total_host : (host 0 255).Known ∧ (host 0 255).operatorLt (host 1 0) :=
  ⟨.inr (.inl rfl), (order_total (.inr (.inl rfl))).1.mpr (by decide)⟩

/-! ## Prefixes

An IPv4 address leaves the other bytes of the union open. -/

/-- The bits of an address in network byte order. -/
def bit (ip : In6Addr) (k : Nat) : Bool := (ip.toList.getD (k / 8) 0).val.testBit (7 - k % 8)

def usesScopedIds (ip : In6Addr) : Prop :=
  ip[0].val = 0xfe ∧ ip[1].val &&& 0xc0 = 0x80 ∨ ip[0].val = 0xff ∧ ip[1].val &&& 0xf = 2

instance : DecidablePred usesScopedIds := fun _ => inferInstanceAs (Decidable (_ ∨ _))

/-- `mData.ip.v4.s_addr &= htonl(mask)` -/
def maskV4 (ip : In6Addr) (length : Nat) : In6Addr :=
  let mask := if 0 < length then (0xffffffff <<< (32 - length)) % 2 ^ 32 else 0
  Vector.ofFn fun i =>
    if i.val < 4 then ⟨(ip.get i).val &&& ((htonl mask).getD i 0).val, by
      exact lt_of_le_of_lt Nat.and_le_left (ip.get i).isLt⟩
    else ip.get i

/-- `IPPrefix(ip, length)` -/
def ofLength (a : CompactIpdata) (length : Int) : CompactIpdata :=
  if length < 0 ∨ a.cidrlen ≤ length then a
  else if a.family = inet then
    { a with v6 := maskV4 a.v6 length.toNat, cidrlen := length.toNat }
  else if a.family = inet6 then
    { a with v6 := truncate a.v6 length.toNat, cidrlen := length.toNat }
  else a

/-- `IPAddress(ipdata)` -/
def ip (a : CompactIpdata) : CompactIpdata :=
  if a.family = inet then { a with port := 0, cidrlen := 32, scopeId := 0 }
  else if a.family = inet6 then { a with port := 0, cidrlen := 128 }
  else { a with port := 0, cidrlen := 0, scopeId := 0 }

/-- Truncation leaves an address with a scope id link-local. -/
def ScopeKept (a : CompactIpdata) (length : Int) : Prop :=
  a.scopeId = 0 ∨ usesScopedIds (a.ofLength length).v6

/-- The length that is meant. -/
def effective (a : CompactIpdata) (length : Int) : Nat :=
  if length < 0 ∨ a.cidrlen ≤ length then a.cidrlen else length.toNat

/-- `IPAddress(ipv6, scope_id)` -/
def ofIn6Addr (v6 : In6Addr) (scopeId : Nat) : CompactIpdata :=
  ⟨inet6, 128, 0, if usesScopedIds v6 then scopeId else 0, v6⟩

/-- The values of `IPAddress`. `forString` ends in one of these constructors. -/
inductive Obtained : CompactIpdata → Prop
  | default : Obtained {}
  | inet (v6 : In6Addr) : Obtained ⟨inet, 32, 0, 0, v6⟩
  | inet6 (v6 : In6Addr) (scopeId : Nat) : Obtained (ofIn6Addr v6 scopeId)
  | scope {a : CompactIpdata} (scopeId : Nat) : Obtained a → Obtained
    { a with scopeId := if a.family = inet6 ∧ usesScopedIds a.v6 then scopeId else 0 }
  | ofPrefix {a : CompactIpdata} {length : Int} : Obtained a → a.ScopeKept length →
    Obtained (a.ofLength length).ip
  | ofSockAddr {a : CompactIpdata} (port : Nat) : Obtained a → Obtained (ip { a with port := port })

theorem maskV4_bits : ∀ n < 32, ∀ i < 4, ∀ j < 8,
    ((htonl (if 0 < n then (0xffffffff <<< (32 - n)) % 2 ^ 32 else 0)).getD i 0).val.testBit j =
      decide (8 * i + (7 - j) < n) := by
  decide +kernel

theorem truncate_bits : ∀ r < 8, ∀ j < 8,
    ((if r = 0 then 0 else 0xff <<< (8 - r)) % 256).testBit j = decide (7 - j < r) := by
  decide

theorem get_eq (v6 : In6Addr) (i : Fin 16) : v6.get i = v6[i.val] := rfl

theorem bit_eq {v6 : In6Addr} {k : Nat} (hk : k / 8 < 16) :
    bit v6 k = v6[k / 8].val.testBit (7 - k % 8) := by
  simp [bit, getD, hk]

theorem bit_maskV4 {v6 : In6Addr} {n k : Nat} (hn : n < 32) (hk : k < 32) :
    bit (maskV4 v6 n) k = (decide (k < n) && bit v6 k) := by
  have hbits := maskV4_bits n hn (k / 8) (by omega) (7 - k % 8) (by omega)
  rw [show 8 * (k / 8) + (7 - (7 - k % 8)) = k by omega] at hbits
  have hi : k / 8 < 4 := by omega
  rw [bit_eq (by omega), bit_eq (by omega), ← hbits]
  simp [maskV4, get_eq, hi, Bool.and_comm]

theorem bit_truncate {v6 : In6Addr} {n k : Nat} (hk : k / 8 < 16) :
    bit (truncate v6 n) k = (decide (k < n) && bit v6 k) := by
  have hbits := truncate_bits (n % 8) (by omega) (7 - k % 8) (by omega)
  rw [bit_eq hk, bit_eq hk]
  rcases lt_trichotomy (k / 8) (n / 8) with h | h | h
  · have : k < n := by omega
    simp [truncate, get_eq, h, this]
  · have : k < n ↔ 7 - (7 - k % 8) < n % 8 := by omega
    simp only [this, ← hbits]
    simp [truncate, get_eq, h, Bool.and_comm]
  · have : ¬ k < n := by omega
    simp [truncate, h.not_gt, h.ne', this]

theorem take_eq_iff_bits {x y : In6Addr} {m : Nat} (hm : m ≤ 16) :
    x.toList.take m = y.toList.take m ↔ ∀ k < 8 * m, bit x k = bit y k := by
  refine ⟨fun h k hk => ?_, fun h => ext_getElem (by simp) fun i hi _ => ?_⟩
  · have hi : k / 8 < m := by omega
    have hget := congrArg (·[k / 8]?) h
    simp only [getElem?_take, if_pos hi] at hget
    simp only [bit, getD, hget]
  · simp only [length_take, Vector.length_toList] at hi
    simp only [getElem_take, Vector.getElem_toList]
    refine Fin.ext (Nat.eq_of_testBit_eq fun j => ?_)
    by_cases hj : j < 8
    · have := h (8 * i + (7 - j)) (by omega)
      rw [bit_eq (by omega), bit_eq (by omega)] at this
      simpa only [show (8 * i + (7 - j)) / 8 = i by omega,
        show 7 - (8 * i + (7 - j)) % 8 = j by omega] using this
    · have hpow : 2 ^ 8 ≤ 2 ^ j := Nat.pow_le_pow_right (by decide) (by omega)
      rw [Nat.testBit_lt_two_pow (by omega), Nat.testBit_lt_two_pow (by omega)]

variable {m n : Int}

/-- Only a link-local address has a scope id. -/
def Scoped (a : CompactIpdata) : Prop := a.scopeId ≠ 0 → a.family = inet6 ∧ usesScopedIds a.v6

/-- The data of an address: no port, and the length of its family. -/
structure Sized (a : CompactIpdata) : Prop where
  port : a.port = 0
  family : a.family = unspec ∧ a.cidrlen = 0 ∨ a.family = inet ∧ a.cidrlen = 32 ∨
    a.family = inet6 ∧ a.cidrlen = 128

structure Addr (a : CompactIpdata) : Prop extends Sized a where
  scope : a.Scoped

theorem ofLength_fields (a : CompactIpdata) (m : Int) : (a.ofLength m).family = a.family ∧
    (a.ofLength m).port = a.port ∧ (a.ofLength m).scopeId = a.scopeId := by
  unfold ofLength
  split_ifs <;> exact ⟨rfl, rfl, rfl⟩

theorem ip_fields (a : CompactIpdata) : a.ip.family = a.family ∧ a.ip.v6 = a.v6 ∧
    a.ip.scopeId = if a.family = inet6 then a.scopeId else 0 := by
  unfold ip
  split_ifs with h4 h6
  · rw [h4] at h6
    cases h6
  all_goals exact ⟨rfl, rfl, rfl⟩

/-- `IPAddress(ipdata)` of the data of an address with another port, length or address. -/
theorem Sized.ip {c : CompactIpdata} (h : Sized a) (hf : c.family = a.family) : Sized c.ip := by
  unfold CompactIpdata.ip
  split_ifs with h4 h6
  · exact ⟨rfl, .inr (.inl ⟨h4, rfl⟩)⟩
  · exact ⟨rfl, .inr (.inr ⟨h6, rfl⟩)⟩
  · rw [hf] at h4 h6
    obtain ⟨hfam, -⟩ := h.family.resolve_right (by simp [h4, h6])
    exact ⟨rfl, .inl ⟨hf.trans hfam, rfl⟩⟩

theorem scoped_ip_iff {c : CompactIpdata} (ha : a.Scoped) (hf : c.family = a.family)
    (hs : c.scopeId = a.scopeId) : c.ip.Scoped ↔ a.scopeId = 0 ∨ usesScopedIds c.v6 := by
  obtain ⟨hfam, hv6, hscope⟩ := ip_fields c
  rw [Scoped, hfam, hv6, hscope, hf, hs]
  by_cases h0 : a.scopeId = 0
  · simp [h0]
  · simp [h0, (ha h0).1]

theorem Obtained.addr (h : Obtained a) : Addr a := by
  induction h with
  | default => exact ⟨⟨rfl, .inl ⟨rfl, rfl⟩⟩, fun h => absurd rfl h⟩
  | inet v6 => exact ⟨⟨rfl, .inr (.inl ⟨rfl, rfl⟩)⟩, fun h => absurd rfl h⟩
  | inet6 v6 scopeId =>
    exact ⟨⟨rfl, .inr (.inr ⟨rfl, rfl⟩)⟩, by simp +contextual [ofIn6Addr, Scoped]⟩
  | scope scopeId _ ih => exact ⟨⟨ih.port, ih.family⟩, by simp +contextual [Scoped]⟩
  | @ofPrefix a m _ hk ih =>
    obtain ⟨hf, -, hs⟩ := ofLength_fields a m
    exact ⟨ih.toSized.ip hf, (scoped_ip_iff ih.scope hf hs).mpr hk⟩
  | @ofSockAddr a port _ ih =>
    refine ⟨ih.toSized.ip rfl, (scoped_ip_iff ih.scope rfl rfl).mpr ?_⟩
    exact Decidable.or_iff_not_imp_left.mpr fun h => (ih.scope h).2

theorem Sized.ofLength_cidrlen (h : Sized a) : (a.ofLength m).cidrlen = a.effective m := by
  unfold ofLength effective
  split_ifs with hfull h4 h6
  · rfl
  · rfl
  · rfl
  · have := (h.family.resolve_right (by simp [h4, h6])).2
    omega

theorem Sized.ofLength_bit {k : Nat} (h : Sized a) (hk : k < a.cidrlen) :
    bit (a.ofLength m).v6 k = (decide (k < a.effective m) && bit a.v6 k) := by
  have hfam := h.family
  unfold ofLength effective
  split_ifs with hfull h4 h6
  · simp [hk]
  · have hlen : a.cidrlen = 32 := by simpa [h4, unspec, inet, inet6] using hfam
    exact bit_maskV4 (by omega) (by omega)
  · have hlen : a.cidrlen = 128 := by simpa [h6, unspec, inet, inet6] using hfam
    exact bit_truncate (by omega)
  · have := (hfam.resolve_right (by simp [h4, h6])).2
    omega

theorem effective_le (a : CompactIpdata) (m : Int) : a.effective m ≤ a.cidrlen := by
  unfold effective
  split_ifs <;> omega

theorem Sized.cidrlen_eq (ha : Sized a) (hb : Sized b) (hf : a.family = b.family) :
    a.cidrlen = b.cidrlen := by
  have h := hb.family
  rw [← hf] at h
  rcases ha.family with ⟨hfam, hlen⟩ | ⟨hfam, hlen⟩ | ⟨hfam, hlen⟩ <;>
    simpa [hfam, hlen, unspec, inet, inet6, eq_comm] using h

theorem v6_eq_iff_bits {x y : In6Addr} : x = y ↔ ∀ k < 128, bit x k = bit y k := by
  rw [← take_eq_iff_bits (m := 16) (by decide), take_of_length_le (by simp),
    take_of_length_le (by simp), Vector.toList_inj]

theorem Sized.operatorEq_iff (ha : Sized a) (hb : Sized b) :
    (a.ofLength m).operatorEq (b.ofLength n) ↔ a.family = b.family ∧
      a.effective m = b.effective n ∧ a.scopeId = b.scopeId ∧
      ∀ k < a.cidrlen, bit (a.ofLength m).v6 k = bit (b.ofLength n).v6 k := by
  obtain ⟨hf, hp, hs⟩ := ofLength_fields a m
  obtain ⟨hf', hp', hs'⟩ := ofLength_fields b n
  rw [operatorEq, hf, hf', hp, hp', hs, hs', ha.port, hb.port, ha.ofLength_cidrlen,
    hb.ofLength_cidrlen]
  rcases ha.family with ⟨hfam, hlen⟩ | ⟨hfam, hlen⟩ | ⟨hfam, hlen⟩
  · simp [hfam, hlen]
  · simp [hfam, hlen, v4, take_eq_iff_bits, unspec, inet, and_assoc]
  · simp [hfam, hlen, v6_eq_iff_bits, unspec, inet, inet6, and_assoc]

def linkLocal (scopeId : Nat) : CompactIpdata :=
  ofIn6Addr #v[0xfe, 0x80, 0, 0, 0, 0, 0, 0, 0, 0, 0, 0, 0, 0, 0, 1] scopeId

/-- Of the address of a longer prefix the shorter prefix is that of the address itself. -/
theorem truncations_compose (ha : Obtained a) (hle : a.effective n ≤ a.effective m) :
    ((a.ofLength m).ip.ofLength n).operatorEq (a.ofLength n) := by
  obtain ⟨hf, -, hs⟩ := ofLength_fields a m
  obtain ⟨hfam, hv6, hscope⟩ := ip_fields (a.ofLength m)
  have ha := ha.addr
  have hb : Sized (a.ofLength m).ip := ha.toSized.ip hf
  have hfam : (a.ofLength m).ip.family = a.family := hfam.trans hf
  have hlen := hb.cidrlen_eq ha.toSized hfam
  have heff : (a.ofLength m).ip.effective n = a.effective n := by rw [effective, effective, hlen]
  refine (hb.operatorEq_iff ha.toSized).mpr ⟨hfam, heff, ?_, fun k hk => ?_⟩
  · rw [hscope, hf, hs]
    by_cases h0 : a.scopeId = 0
    · simp [h0]
    · rw [if_pos (ha.scope h0).1]
  · rw [hb.ofLength_bit hk, ha.ofLength_bit (hlen ▸ hk), heff, hv6, ha.ofLength_bit (hlen ▸ hk)]
    by_cases h : k < a.effective n
    · simp [h, h.trans_le hle]
    · simp [h]

theorem truncations_compose_link :
    (((linkLocal 3).ofLength 64).ip.ofLength 10).operatorEq ((linkLocal 3).ofLength 10) :=
  truncations_compose (.inet6 _ _) (by decide)

end CompactIpdata

end Netd
