import Netd.Resolv.ProxyCommands

/-!
# References to the clients of the DNS proxy

A command that makes a handler takes a reference to the client for it. A lookup gives it back at
the end of `run`, and `resnsend` in the destructor of its handler. If the thread does not start,
`tryThreadOrError` deletes the handler and gives the reference back itself, so that of a `resnsend`
is given back twice.
-/

namespace Netd

namespace Errno

def eagain : Int := 11

end Errno

namespace DnsProxyListener

/-- The calls on the reference count of a client. -/
inductive RefCall where
  | incRef
  | decRef
  deriving DecidableEq

/-- The calls of `run`, if it returns. `ResNSendHandler::run` makes none, wherever it returns. -/
def Handler.runCalls (out : Outside) : Handler → Except NameFault (List RefCall)
  | .lookup h => do
      let _ ← h.run out
      pure [.decRef]
  | .resnsend _ => pure []

def Handler.deleteCalls : Handler → List RefCall
  | .lookup _ => []
  | .resnsend _ => [.decRef]

def runAndDelete (out : Outside) (h : Handler) : Except NameFault (List RefCall) := do
  let calls ← h.runCalls out
  pure (calls ++ h.deleteCalls)

def tryThreadOrErrorCalls (out : Outside) (h : Handler) : Except NameFault (List RefCall) :=
  if out.threadLaunch = 0 then do
    let calls ← runAndDelete out h
    pure (.incRef :: calls)
  else pure (.incRef :: (h.deleteCalls ++ [.decRef]))

/-- The calls that are made for a command, until its handler is deleted. -/
def commandCalls (cmd : ProxyCommand) (out : Outside) (uid : Nat) (argv : List CString) :
    Except NameFault (List RefCall) :=
  match newHandler out uid argv cmd with
  | none => pure []
  | some h => tryThreadOrErrorCalls out h

/-! ## Balance -/

/-- As many references are given back as are taken, and none before it is taken. -/
structure Balanced (calls : List RefCall) : Prop where
  even : calls.count .incRef = calls.count .decRef
  taken : ∀ part, part <+: calls → part.count .decRef ≤ part.count .incRef

theorem balanced_nil : Balanced [] where
  even := rfl
  taken part hpart := by
    obtain rfl := List.prefix_nil.mp hpart
    exact Nat.le_refl 0

theorem balanced_once : Balanced [.incRef, .decRef] where
  even := rfl
  taken part hpart := by
    have hall : ∀ part ∈ [RefCall.incRef, .decRef].inits,
        part.count .decRef ≤ part.count .incRef := by decide
    exact hall part ((List.mem_inits part _).mpr hpart)

theorem runAndDelete_calls {out : Outside} {h : Handler} {calls : List RefCall}
    (hdone : runAndDelete out h = .ok calls) : calls = [.decRef] := by
  cases h with
  | lookup h =>
    simp only [runAndDelete, Handler.runCalls] at hdone
    cases hrun : h.run out with
    | error fault =>
      rw [hrun] at hdone
      cases hdone
    | ok outcome =>
      rw [hrun] at hdone
      cases hdone
      rfl
  | resnsend h =>
    cases hdone
    rfl

theorem newHandler_resnsend {out : Outside} {uid : Nat} {argv : List CString} {cmd : ProxyCommand}
    {h : ResNSendHandler} (hmade : newHandler out uid argv cmd = some (.resnsend h)) :
    cmd = .resnsend := by
  cases cmd with
  | lookup cmd =>
    obtain ⟨h', _, heq⟩ := Option.map_eq_some_iff.mp hmade
    cases heq
  | resnsend => rfl

theorem not_balanced_twice : ¬Balanced [.incRef, .decRef, .decRef] :=
  fun hbalanced => absurd hbalanced.even (by decide)

/-- The numbers in a `resnsend` command line can be read. -/
theorem newHandler_resnsend_eq_none_iff {out : Outside} {uid : Nat} {argv : List CString} :
    newHandler out uid argv .resnsend = none ↔ ∀ name netId flags msg,
      argv = [name, netId, flags, msg] →
        simpleStrtoul netId = none ∨ simpleStrtoul flags = none := by
  simp only [newHandler, resNSendCommand]
  split
  · rename_i name netId flags msg
    cases hnetId : simpleStrtoul netId with
    | none =>
      refine iff_of_true rfl ?_
      rintro _ _ _ _ ⟨⟩
      exact .inl hnetId
    | some n =>
      cases hflags : simpleStrtoul flags with
      | none =>
        refine iff_of_true rfl ?_
        rintro _ _ _ _ ⟨⟩
        exact .inr hflags
      | some f =>
        refine iff_of_false (fun hnone => by cases hnone) fun hall => ?_
        have hunread := hall _ _ _ _ rfl
        simp [hnetId, hflags] at hunread
  · rename_i hcount
    exact iff_of_true rfl fun name netId flags msg hargv => absurd hargv (hcount _ _ _ _)

/-- **The references balance**, for every way through a handler, exactly if the command is no
`resnsend` with a handler whose thread does not start. -/
theorem references_balance (cmd : ProxyCommand) (out : Outside) (uid : Nat) (argv : List CString)
    {calls : List RefCall} (hdone : commandCalls cmd out uid argv = .ok calls) :
    (calls.count .incRef = calls.count .decRef ∧
      ∀ part, part <+: calls → part.count .decRef ≤ part.count .incRef) ↔
      (cmd = .resnsend → out.threadLaunch = 0 ∨ ∀ name netId flags msg,
        argv = [name, netId, flags, msg] →
          simpleStrtoul netId = none ∨ simpleStrtoul flags = none) := by
  have hfields : (calls.count .incRef = calls.count .decRef ∧
      ∀ part, part <+: calls → part.count .decRef ≤ part.count .incRef) ↔ Balanced calls :=
    ⟨fun h => ⟨h.1, h.2⟩, fun h => ⟨h.even, h.taken⟩⟩
  rw [hfields, ← @newHandler_resnsend_eq_none_iff out uid]
  unfold commandCalls at hdone
  cases hmade : newHandler out uid argv cmd with
  | none =>
    rw [hmade] at hdone
    cases hdone
    exact iff_of_true balanced_nil fun hcmd => .inr (hcmd ▸ hmade)
  | some h =>
    simp only [hmade, tryThreadOrErrorCalls] at hdone
    split at hdone
    · rename_i hlaunch
      cases hrun : runAndDelete out h with
      | error fault =>
        rw [hrun] at hdone
        cases hdone
      | ok released =>
        rw [hrun] at hdone
        cases hdone
        obtain rfl := runAndDelete_calls hrun
        exact iff_of_true balanced_once fun _ => .inl hlaunch
    · rename_i hlaunch
      cases h with
      | lookup h =>
        cases hdone
        refine iff_of_true balanced_once ?_
        rintro rfl
        obtain ⟨_, _, heq⟩ := Option.map_eq_some_iff.mp hmade
        cases heq
      | resnsend h =>
        cases hdone
        obtain rfl := newHandler_resnsend hmade
        refine iff_of_false not_balanced_twice fun hcond => ?_
        rcases hcond rfl with hzero | hnone
        · exact hlaunch hzero
        · rw [hnone] at hmade
          cases hmade

theorem references_balance_example :
    ∃ calls, commandCalls .resnsend vpnSystem 10002 (requestFor (ascii "102") .resnsend) =
        .ok calls ∧ calls ≠ [] ∧ calls.count .incRef = calls.count .decRef := by
  have hdone : commandCalls .resnsend vpnSystem 10002 (requestFor (ascii "102") .resnsend) =
      .ok [.incRef, .decRef] := by decide +kernel
  exact ⟨_, hdone, by decide, ((references_balance _ _ _ _ hdone).mpr fun _ => .inl rfl).1⟩

/-- If it does not, one reference is taken and two are given back. -/
theorem launch_failure_releases_twice :
    commandCalls .resnsend { vpnSystem with threadLaunch := -Errno.eagain } 10002
      (requestFor (ascii "102") .resnsend) = .ok [.incRef, .decRef, .decRef] := by
  decide +kernel

end DnsProxyListener

end Netd
