import Netd.Kernel.FibRules
import Netd.Lib.RuleChains

/-!
# NetdConstants

What the controllers share: the check of interface names, and the command for both families of
iptables.
-/

namespace Netd

/-- A name that passes has no character with a meaning in a rule, such as the `+` for every
continuation. -/
def isIfaceName (name : String) : Bool :=
  match name.toList with
  | [] => false
  | c :: cs =>
    (c :: cs).length ≤ ifnamsiz && c.isAlphanum &&
      cs.all fun c => c.isAlphanum || c == '_' || c == '-' || c == ':'

theorem char_of_isIfaceName {name : String} (h : isIfaceName name) {c : Char}
    (hc : c ∈ name.toList) : c.isAlphanum || c == '_' || c == '-' || c == ':' := by
  unfold isIfaceName at h
  split at h
  · cases h
  rename_i heq
  rw [heq] at hc
  simp only [Bool.and_eq_true, List.all_eq_true] at h
  rcases List.mem_cons.mp hc with rfl | hc
  · simp [h.1.2]
  · exact h.2 c hc

inductive IptablesTarget where
  | v4
  | v6
  | v4v6

/-- The chains of both families. -/
structure Iptables (χ ρ : Type) where
  v4 : RuleChains.Chains χ ρ
  v6 : RuleChains.Chains χ ρ

namespace Iptables

open RuleChains

variable {χ ρ : Type} [DecidableEq χ] [DecidableEq ρ]

/-- A return value of `IptablesRestoreController::sendCommand`. -/
def result (ok : Bool) : Int := if ok then 0 else -1

/-- For both families the command goes to the second also if the first failed, and the results are
joined with `|=`. -/
def execIptablesRestore (target : IptablesTarget) (cmd : List (List (χ × ChainEdit ρ)))
    (t : Iptables χ ρ) : Iptables χ ρ × Int :=
  let r4 := restore cmd t.v4
  let r6 := restore cmd t.v6
  match target with
  | .v4 => ({ t with v4 := r4.1 }, result r4.2)
  | .v6 => ({ t with v6 := r6.1 }, result r6.2)
  | .v4v6 => (⟨r4.1, r6.1⟩, result (r4.2 && r6.2))

end Iptables

end Netd
