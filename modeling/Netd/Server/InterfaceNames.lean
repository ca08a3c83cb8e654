import Netd.Server.NetdConstants
import Netd.Server.RouteController

/-!
# Interface names in requests

`isIfaceName` counts the characters of a name and `padInterfaceName` its end too. A name of
`IFNAMSIZ` characters is accepted and does not fit.
-/

namespace Netd.RouteController

open List Char

/-- The buffer `name` after `strlcpy(name, input, IFNAMSIZ)`. -/
def strlcpy (input : String) (name : List Char) : List Char :=
  let copied := input.toList.take (ifnamsiz - 1)
  copied ++ '\x00' :: name.drop (copied.length + 1)

variable {name : String} {buffer : List Char}

theorem ascii_of_isIfaceName (h : isIfaceName name) {c : Char} (hc : c ∈ name.toList) :
    c.val ≤ 127 := by
  have hchar := char_of_isIfaceName h hc
  unfold isAlphanum isAlpha isUpper isLower isDigit at hchar
  simp only [Bool.or_eq_true, Bool.and_eq_true, decide_eq_true_eq, beq_iff_eq] at hchar
  rcases hchar with ((((hc | hc) | hc) | rfl) | rfl) | rfl
  all_goals first | decide | grind

theorem utf8Len_of_ascii {cs : List Char} (h : ∀ c ∈ cs, c.val ≤ 127) :
    String.utf8Len cs = cs.length := by
  induction cs with
  | nil => rfl
  | cons c cs ih =>
    have hc : c.utf8Size = 1 := utf8Size_eq_one_iff.mpr (h c mem_cons_self)
    rw [String.utf8Len_cons, hc, ih fun c' hc' => h c' (mem_cons_of_mem c hc')]
    rfl

theorem utf8ByteSize_of_isIfaceName (h : isIfaceName name) :
    name.utf8ByteSize = name.toList.length := by
  rw [← utf8Len_of_ascii fun c hc => ascii_of_isIfaceName h hc, ← String.utf8ByteSize_ofList,
    String.ofList_toList]

/-- **Accepted names can be encoded** exactly if they leave room for their end. -/
theorem ifaceName_encoded (h : isIfaceName name) (hbuffer : buffer.length = ifnamsiz) :
    (∃ length padding, padInterfaceName (some name) = (0, length, padding) ∧
      (∃ rest, strlcpy name buffer = name.toList ++ '\x00' :: rest) ∧ '\x00' ∉ name.toList ∧
      (strlcpy name buffer).length = ifnamsiz ∧
      IsLeast {n | 4 ∣ n ∧ 4 + length ≤ n} (4 + length + padding)) ↔
      name.toList.length < ifnamsiz := by
  constructor
  · rintro ⟨length, padding, hpad, -⟩
    by_contra hlong
    simp only [padInterfaceName, utf8ByteSize_of_isIfaceName h] at hpad
    rw [if_pos (by omega)] at hpad
    have hcode : -Errno.enametoolong = 0 := congrArg Prod.fst hpad
    exact absurd hcode (by decide)
  intro hlength
  have hpad : padInterfaceName (some name) = (0, name.toList.length + 1,
      (4 - (name.toList.length + 1 + 4) % 4) % 4) := by
    simp only [padInterfaceName, utf8ByteSize_of_isIfaceName h]
    exact if_neg (Nat.not_lt.mpr hlength)
  have hstored : strlcpy name buffer =
      name.toList ++ '\x00' :: buffer.drop (name.toList.length + 1) := by
    rw [strlcpy, take_of_length_le (Nat.le_sub_one_of_lt hlength)]
  refine ⟨_, _, hpad, ⟨_, hstored⟩, fun hmem => ?_, ?_, ⟨?_, ?_⟩, fun n ⟨hdvd, hle⟩ => ?_⟩
  · have hchar := char_of_isIfaceName h hmem
    revert hchar
    decide
  · rw [hstored, length_append, length_cons, length_drop]
    omega
  all_goals omega

theorem ifaceName_encoded_wlan0 : ∃ length padding,
    padInterfaceName (some "wlan0") = (0, length, padding) ∧
    IsLeast {n | 4 ∣ n ∧ 4 + length ≤ n} (4 + length + padding) := by
  obtain ⟨length, padding, hpad, -, -, -, hleast⟩ := (@ifaceName_encoded "wlan0" _
    (by decide +kernel) (length_replicate (n := 16) (a := 'x'))).mpr (by decide +kernel)
  exact ⟨length, padding, hpad, hleast⟩

theorem ifaceName_too_long : isIfaceName "abcdefghijklmnop" ∧
    (padInterfaceName (some "abcdefghijklmnop")).1 = -Errno.enametoolong := by
  decide +kernel

end Netd.RouteController
