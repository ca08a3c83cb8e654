import Netd.Resolv.ProxyCommands

/-!
# parsePrefix

`parsePrefix` reads an address and a length with a slash between them. The length goes
through `strtoul`, which takes blanks and a sign and more than 32 bits, and the address
through `getaddrinfo`, whose list has to be freed.
-/

namespace Netd.ParsePrefix

open DnsProxyListener List

/-- The first address that `getaddrinfo` has found. -/
inductive RawAddress where
  | inet (bytes : Fin 4 → Byte)
  | inet6 (bytes : Fin 16 → Byte)
  | other

def RawAddress.rawLength : RawAddress → Nat
  | .inet _ => 4
  | .inet6 _ => 16
  | .other => 0

/-- What is returned and written, and the lists that are obtained and freed. -/
structure Result where
  ret : Int
  prefixlen : Option Nat := none
  address : Option RawAddress := none
  obtained : Nat := 0
  freed : Nat := 0

def slash : Byte := 47

/-- The end of the call, for an address of one of the two families. -/
def copyAddress (address : RawAddress) (prefixlen : Nat) (size : Int) : Result :=
  if 8 * address.rawLength < prefixlen then ⟨-22, some prefixlen, none, 1, 0⟩
  else if size < address.rawLength then ⟨-28, some prefixlen, none, 1, 1⟩
  else ⟨address.rawLength, some prefixlen, some address, 1, 1⟩

/-- After the slash. The negative results are `-EINVAL`, `-EAFNOSUPPORT` and `-ENOSPC`. -/
def parseLength (found : Option RawAddress) (prefixlenString : CString) (size : Int) : Result :=
  let templen := strtoul prefixlenString
  if prefixlenString = [] ∨ strtoulEnd prefixlenString ≠ [] ∨ 255 < templen then { ret := -22 }
  else
    match found with
    | none => { ret := -22, prefixlen := some templen }
    | some .other => ⟨-97, some templen, none, 1, 1⟩
    | some address => copyAddress address templen size

def parsePrefix (getaddrinfo : CString → Option RawAddress) (text : CString) (size : Int) :
    Result :=
  match text.dropWhile (· ≠ slash) with
  | [] => { ret := -22 }
  | _ :: prefixlenString =>
    parseLength (getaddrinfo (text.takeWhile (· ≠ slash))) prefixlenString size

section

variable {s : CString} (hplain : ∀ b ∈ s.head?, isspace b = false ∧ b ≠ 43 ∧ b ≠ 45)
include hplain

theorem dropWhile_isspace : s.dropWhile isspace = s := by
  cases s with
  | nil => rfl
  | cons b bs => simp [hplain b rfl]

theorem strtoulEnd_eq_nil : s ≠ [] → (strtoulEnd s = [] ↔ ∀ b ∈ s, isdigit b = true) := by
  intro hs
  rw [strtoulEnd, dropWhile_isspace hplain]
  cases s with
  | nil => exact absurd rfl hs
  | cons b bs =>
    have hb := hplain b rfl
    simp only [hb, or_self, if_false, head?_cons, Option.any_some]
    split
    · rw [dropWhile_eq_nil_iff]
    · rename_i hdigit
      simp [hdigit]

theorem strtoul_eq (hsmall : digits 0 s < 2 ^ 32) : strtoul s = digits 0 s := by
  have hsigned : signed s = (false, digits 0 s) := by
    rw [signed, dropWhile_isspace hplain]
    cases s with
    | nil => rfl
    | cons b bs => simp [hplain b rfl]
  rw [strtoul, hsigned]
  simp only
  rw [if_pos (by omega), Nat.mod_eq_of_lt hsmall]

end

/-- What an address and the text of a length denote, if the address fits in the buffer. -/
def Denotes (found : Option RawAddress) (s : CString) (size : Int) (raw : RawAddress) : Prop :=
  found = some raw ∧ 0 < raw.rawLength ∧ raw.rawLength ≤ size ∧
    s ≠ [] ∧ (∀ b ∈ s, isdigit b = true) ∧ digits 0 s ≤ 8 * raw.rawLength

/-- A right result: what denotes something, and nothing else, is accepted and returned, and the list
is freed. -/
structure Exact (found : Option RawAddress) (s : CString) (size : Int) (r : Result) : Prop where
  accepts : 0 ≤ r.ret ↔ ∃ raw, Denotes found s size raw
  denoted : ∀ raw, Denotes found s size raw →
    r = ⟨raw.rawLength, some (digits 0 s), some raw, 1, 1⟩
  freed : r.freed = r.obtained

/-- A text that `strtoul` reads to its end as a length up to 255, behind an address, is not too
long, and if the buffer is large enough it has only digits and at most 32 bits. -/
def ReadsPlainly (found : Option RawAddress) (s : CString) (size : Int) : Prop :=
  ∀ raw, found = some raw → 0 < raw.rawLength → s ≠ [] → strtoulEnd s = [] → strtoul s ≤ 255 →
    strtoul s ≤ 8 * raw.rawLength ∧
      (raw.rawLength ≤ size → (∀ b ∈ s, isdigit b = true) ∧ digits 0 s < 2 ^ 32)

variable {found : Option RawAddress} {s : CString} {size : Int} {r : Result}

theorem Exact.of_rejected (hnot : ∀ raw, ¬Denotes found s size raw) (hret : r.ret < 0)
    (hfreed : r.freed = r.obtained) : Exact found s size r where
  accepts := iff_of_false (Int.not_le.mpr hret) (not_exists.mpr hnot)
  denoted raw hraw := absurd hraw (hnot raw)
  freed := hfreed

theorem plain_of_digits (hdigits : ∀ b ∈ s, isdigit b = true) :
    ∀ b ∈ s.head?, isspace b = false ∧ b ≠ 43 ∧ b ≠ 45 := by
  intro b hb
  have hdigit := hdigits b (mem_of_head? hb)
  have hall : ∀ b : Byte, isdigit b = true → isspace b = false ∧ b ≠ 43 ∧ b ≠ 45 := by
    decide +kernel
  exact hall b hdigit

/-- What denotes something is read by `strtoul` as the number that it is. -/
theorem Denotes.read {raw : RawAddress} (h : Denotes found s size raw) :
    s ≠ [] ∧ strtoulEnd s = [] ∧ strtoul s = digits 0 s ∧ strtoul s ≤ 255 := by
  obtain ⟨-, -, -, hs, hdigits, hle⟩ := h
  have hplain := plain_of_digits hdigits
  have hbits : raw.rawLength ≤ 16 := by cases raw <;> simp [RawAddress.rawLength]
  have hread := strtoul_eq hplain (by omega)
  exact ⟨hs, (strtoulEnd_eq_nil hplain hs).mpr hdigits, hread, by omega⟩

theorem exact_copyAddress_iff {raw : RawAddress} (hpos : 0 < raw.rawLength) (hs : s ≠ [])
    (hend : strtoulEnd s = []) (hlen : strtoul s ≤ 255) :
    Exact (some raw) s size (copyAddress raw (strtoul s) size) ↔
      ReadsPlainly (some raw) s size := by
  have hreads : ReadsPlainly (some raw) s size ↔ strtoul s ≤ 8 * raw.rawLength ∧
      (raw.rawLength ≤ size → (∀ b ∈ s, isdigit b = true) ∧ digits 0 s < 2 ^ 32) :=
    ⟨fun h => h raw rfl hpos hs hend hlen, by rintro h _ ⟨⟩ - - - -; exact h⟩
  rw [hreads]
  unfold copyAddress
  split
  · next hlong =>
    exact iff_of_false (fun h => by cases h.freed) fun h => absurd h.1 (Nat.not_le.mpr hlong)
  next hle =>
  have hle := Nat.not_lt.mp hle
  split
  · next hsize =>
    refine iff_of_true (.of_rejected ?_ (Int.negSucc_lt_zero _) rfl)
      ⟨hle, fun hfits => absurd hfits (Int.not_le.mpr hsize)⟩
    rintro raw ⟨⟨⟩, -, hfits, -⟩
    exact absurd hfits (Int.not_le.mpr hsize)
  next hsize =>
  have hsize := Int.not_lt.mp hsize
  constructor
  · intro h
    obtain ⟨raw', hraw⟩ := h.accepts.mp (Int.natCast_nonneg _)
    have hread := hraw.read
    exact ⟨hle, fun _ => ⟨hraw.2.2.2.2.1, by omega⟩⟩
  · rintro ⟨-, hplainly⟩
    obtain ⟨hdigits, hsmall⟩ := hplainly hsize
    have hread := strtoul_eq (plain_of_digits hdigits) hsmall
    have hraw : Denotes (some raw) s size raw :=
      ⟨rfl, hpos, hsize, hs, hdigits, hread ▸ hle⟩
    refine ⟨iff_of_true (Int.natCast_nonneg _) ⟨raw, hraw⟩, ?_, rfl⟩
    rintro raw ⟨⟨⟩, -⟩
    rw [hread]

/-- **A prefix is an address, a slash and a length**, exactly if the length is read plainly. -/
theorem parsePrefix_accepts (getaddrinfo : CString → Option RawAddress) (address s : CString)
    (size : Int) (haddress : slash ∉ address) :
    ((parsePrefix getaddrinfo address size).ret < 0 ∧
      Exact (getaddrinfo address) s size
        (parsePrefix getaddrinfo (address ++ slash :: s) size)) ↔
      ReadsPlainly (getaddrinfo address) s size := by
  have hne : ∀ b ∈ address, decide (b ≠ slash) = true := fun b hb =>
    decide_eq_true fun heq => haddress (heq ▸ hb)
  have hnoSlash : (parsePrefix getaddrinfo address size).ret < 0 := by
    rw [parsePrefix, dropWhile_eq_nil_iff.mpr hne]
    exact Int.negSucc_lt_zero _
  rw [and_iff_right hnoSlash, parsePrefix, dropWhile_append_of_pos hne,
    takeWhile_append_of_pos hne]
  have hslash : (slash :: s).dropWhile (· ≠ slash) = slash :: s := rfl
  have hnone : (slash :: s).takeWhile (· ≠ slash) = [] := rfl
  simp only [hslash, hnone, append_nil, parseLength]
  by_cases hbad : s = [] ∨ strtoulEnd s ≠ [] ∨ 255 < strtoul s
  · rw [if_pos hbad]
    refine iff_of_true (.of_rejected ?_ (Int.negSucc_lt_zero _) rfl) fun raw _ _ hs hend hlen => ?_
    · intro raw hraw
      have hread := hraw.read
      rcases hbad with hnil | hrest | hlong
      · exact hread.1 hnil
      · exact hrest hread.2.1
      · omega
    · rcases hbad with hnil | hrest | hlong
      · exact absurd hnil hs
      · exact absurd hend hrest
      · omega
  rw [if_neg hbad]
  obtain ⟨hs, hend, hlen⟩ : s ≠ [] ∧ strtoulEnd s = [] ∧ strtoul s ≤ 255 := by
    simpa [not_or] using hbad
  cases getaddrinfo address with
  | none =>
    refine iff_of_true (.of_rejected ?_ (Int.negSucc_lt_zero _) rfl) ?_
    · rintro raw ⟨⟨⟩, -⟩
    · rintro raw ⟨⟩
  | some raw =>
    cases raw with
    | other =>
      refine iff_of_true (.of_rejected ?_ (Int.negSucc_lt_zero _) rfl) ?_
      · rintro raw ⟨⟨⟩, ⟨⟩, -⟩
      · rintro raw ⟨⟩ ⟨⟩
    | inet bytes | inet6 bytes =>
      exact exact_copyAddress_iff (by simp [RawAddress.rawLength]) hs hend hlen

/-- `1/8`, where `getaddrinfo` takes every address for 0.0.0.0. -/
theorem parsePrefix_accepts_sample :
    0 ≤ (parsePrefix (fun _ => some (.inet 0)) ([49] ++ slash :: [56]) 16).ret := by
  have hexact := (parsePrefix_accepts (fun _ => some (.inet 0)) [49] [56] 16 (by decide)).mpr (by
    rintro _ ⟨⟩ - - - -
    exact ⟨by decide, fun _ => ⟨by simp [isdigit], by decide⟩⟩)
  exact hexact.2.accepts.mpr
    ⟨.inet 0, rfl, by decide, by decide, by decide, by simp [isdigit], by decide⟩

/-- `1/+8`, `1/ 8` and `1/4294967304` are accepted, and `1/33` keeps the list. -/
theorem parsePrefix_accepts_more :
    let parse := fun s => parsePrefix (fun _ => some (.inet 0)) ([49] ++ slash :: s) 16
    (∀ s ∈ [[43, 56], [32, 56], [52, 50, 57, 52, 57, 54, 55, 51, 48, 52]],
      (parse s).ret = 4 ∧ (parse s).prefixlen = some 8) ∧
      (parse [51, 51]).obtained = 1 ∧ (parse [51, 51]).freed = 0 := by
  decide

end Netd.ParsePrefix
