import Netd.Resolv.DnsProxyListener
import Netd.Server.DnsNetwork

/-!
# The commands of the DNS proxy

A command of the proxy makes a handler of its arguments, or replies at once that it cannot.

The netId in a command line may have a bit that asks for the local nameservers. The lookups clear
it before they ask for the network context, and `resnsend` asks first.
-/

namespace Netd

open Option

def NetworkController.getNetworkContext (stray : Nat → BitVec 32) (hasNameservers : Nat → Bool)
    (c : NetworkController) (netId uid : Nat) : AndroidNetContext :=
  let user : Uid := BitVec.ofNat 32 uid
  let explicitlySelected : Bool := netId ≠ netIdUnset
  let appNetid := if explicitlySelected then netId else c.getNetworkForConnectLocked user
  let fwmark : Fwmark :=
    { netId := BitVec.ofNat 16 appNetid
      explicitlySelected := explicitlySelected
      protectedFromVpn := explicitlySelected && c.canProtectLocked user
      permission := (c.getPermissionForUserLocked user).bits }
  let (dnsNetid, dnsMark) := c.getNetworkForDnsLocked stray hasNameservers netId user
  ⟨appNetid, fwmark.intValue.toNat, dnsNetid, dnsMark.toNat, uid, 0⟩

namespace DnsProxyListener

/-! ## resnsend -/

def isdigit (b : Byte) : Bool := 48 ≤ b.val && b.val ≤ 57

/-- What `strtoul` leaves unread: all of a text that has no number. -/
def strtoulEnd (s : CString) : CString :=
  match s.dropWhile isspace with
  | [] => s
  | b :: bs =>
    let number := if b = 45 ∨ b = 43 then bs else b :: bs
    if number.head?.any isdigit then number.dropWhile isdigit else s

/-- There is an `ERANGE` if the digits are a number of more than 64 bits. -/
def simpleStrtoul (input : CString) : Option Nat :=
  let endPtr := strtoulEnd input
  if input = [] ∨ endPtr ≠ [] ∨ input.length - endPtr.length ≠ input.length ∨
      2 ^ 64 ≤ (signed input).2 then none
  else some (strtoul input)

theorem simpleStrtoul_eq {input : CString} {n : Nat} (h : simpleStrtoul input = some n) :
    strtoul input = n := by
  simp only [simpleStrtoul] at h
  split at h
  · cases h
  · exact some.inj h

structure ResNSendHandler where
  mMsg : CString
  mFlags : Nat
  mNetContext : AndroidNetContext

/-- `ResNSendCommand::runCommand` up to `tryThreadOrError`: the handler, or the number that is
sent instead. -/
def resNSendCommand (out : Outside) (uid : Nat) (argv : List CString) :
    Except Int ResNSendHandler :=
  match argv with
  | [_, netId, flags, msg] =>
    match simpleStrtoul netId with
    | none => .error (-Errno.einval)
    | some netId =>
      match simpleStrtoul flags with
      | none => .error (-Errno.einval)
      | some flags =>
        let ctx := out.getNetworkContext netId uid
        let ctx :=
          if (checkAndClearUseLocalNameserversFlag netId).1 then
            { ctx with flags := ctx.flags ||| netContextFlagUseLocalNameservers }
          else ctx
        .ok ⟨msg, flags, ctx⟩
  | _ => .error (-Errno.einval)

/-! ## Handlers -/

def LookupHandler.mNetContext : LookupHandler → AndroidNetContext
  | .getaddrinfo h => h.mNetContext
  | .gethostbyname h => h.mNetContext
  | .gethostbyaddr h => h.mNetContext

inductive ProxyCommand where
  | lookup (cmd : Command)
  | resnsend

inductive Handler where
  | lookup (h : LookupHandler)
  | resnsend (h : ResNSendHandler)

def Handler.mNetContext : Handler → AndroidNetContext
  | .lookup h => h.mNetContext
  | .resnsend h => h.mNetContext

def newHandler (out : Outside) (uid : Nat) (argv : List CString) : ProxyCommand → Option Handler
  | .lookup cmd => (newLookupHandler out uid argv cmd).toOption.map .lookup
  | .resnsend => (resNSendCommand out uid argv).toOption.map .resnsend

/-! ## The network of a command -/

def netIdArg : ProxyCommand → List CString → CString
  | .lookup .getaddrinfo, argv => argv.getD 7 []
  | .lookup .gethostbyname, argv => argv.getD 1 []
  | .lookup .gethostbyaddr, argv => argv.getD 4 []
  | .resnsend, argv => argv.getD 1 []

variable {out : Outside} {uid : Nat} {argv : List CString}

theorem newLookupHandler_mNetContext {cmd : Command} {h : LookupHandler}
    (hmade : newLookupHandler out uid argv cmd = .ok h) :
    h.mNetContext = contextFor out uid (netIdArg (.lookup cmd) argv) := by
  cases cmd with
  | getaddrinfo =>
    simp only [newLookupHandler, getAddrInfoCmd] at hmade
    split at hmade
    · cases hmade
      rfl
    · cases hmade
  | gethostbyname =>
    simp only [newLookupHandler, getHostByNameCmd] at hmade
    split at hmade
    · cases hmade
      rfl
    · cases hmade
  | gethostbyaddr =>
    simp only [newLookupHandler, getHostByAddrCmd] at hmade
    split at hmade
    · split at hmade
      · cases hmade
      · cases hmade
        rfl
    · cases hmade

/-- The context of a `resnsend` for a number: the bit is in the netId that it asks with. -/
def resNSendContext (out : Outside) (uid netId : Nat) : AndroidNetContext :=
  let ctx := out.getNetworkContext netId uid
  if (checkAndClearUseLocalNameserversFlag netId).1 then
    { ctx with flags := ctx.flags ||| netContextFlagUseLocalNameservers }
  else ctx

/-- Without the bit, `resnsend` has the context that a lookup has. -/
theorem resNSendCommand_mNetContext {h : ResNSendHandler}
    (hmade : resNSendCommand out uid argv = .ok h) :
    h.mNetContext = resNSendContext out uid (strtoul (netIdArg .resnsend argv)) := by
  unfold resNSendCommand at hmade
  split at hmade
  · rename_i name netIdText flagsText msg
    split at hmade
    · cases hmade
    next netId hnetId =>
    split at hmade
    · cases hmade
    cases hmade
    exact congrArg (resNSendContext out uid) (simpleStrtoul_eq hnetId).symm
  · cases hmade

/-- A `resnsend` whose netId has the bit for local nameservers. -/
def AsksWithBit (cmd : ProxyCommand) (argv : List CString) : Prop :=
  cmd = .resnsend ∧ strtoul (netIdArg cmd argv) &&& netidUseLocalNameservers ≠ 0

theorem ok_of_toOption {ε α : Type} {x : Except ε α} {a : α} (h : x.toOption = some a) :
    x = .ok a := by
  cases x with
  | error e => cases h
  | ok b => exact congrArg _ (some.inj h)

theorem newHandler_mNetContext {cmd : ProxyCommand} {h : Handler}
    (hmade : newHandler out uid argv cmd = some h) :
    ¬AsksWithBit cmd argv ∧ h.mNetContext = contextFor out uid (netIdArg cmd argv) ∨
      AsksWithBit cmd argv ∧
        h.mNetContext = resNSendContext out uid (strtoul (netIdArg cmd argv)) := by
  cases cmd with
  | lookup cmd =>
    obtain ⟨h, hlook, rfl⟩ := map_eq_some_iff.mp hmade
    refine .inl ⟨fun hbit => ?_, newLookupHandler_mNetContext (ok_of_toOption hlook)⟩
    cases hbit.1
  | resnsend =>
    obtain ⟨h, hsend, rfl⟩ := map_eq_some_iff.mp hmade
    have hctx := resNSendCommand_mNetContext (ok_of_toOption hsend)
    by_cases hbit : strtoul (netIdArg .resnsend argv) &&& netidUseLocalNameservers = 0
    · refine .inl ⟨fun hasks => hasks.2 hbit, hctx.trans ?_⟩
      have hclear : checkAndClearUseLocalNameserversFlag _ = (false, _) := if_pos hbit
      simp only [contextFor, resNSendContext, hclear]
    · exact .inr ⟨⟨rfl, hbit⟩, hctx⟩

theorem strtoul_lt (s : CString) : strtoul s < 2 ^ 32 := by
  unfold strtoul toUint32
  split <;> split <;> omega

theorem bit_eq_zero_iff {n : Nat} (hn : n < 2 ^ 32) :
    n &&& netidUseLocalNameservers = 0 ↔ n < 2 ^ 31 := by
  change n &&& 2 ^ 31 = 0 ↔ _
  constructor
  · intro hzero
    have hbit : n.testBit 31 = false := by
      rw [← Bool.and_true (n.testBit 31), ← Nat.testBit_two_pow_self (n := 31), ← Nat.testBit_and,
        hzero, Nat.zero_testBit]
    rw [Nat.testBit_eq_decide_div_mod_eq, decide_eq_false_iff_not] at hbit
    omega
  · intro hsmall
    refine Nat.eq_of_testBit_eq fun i => ?_
    rw [Nat.testBit_and, Nat.testBit_two_pow, Nat.zero_testBit]
    by_cases hi : 31 = i
    · subst hi
      simp [Nat.testBit_lt_two_pow hsmall]
    · simp [hi]

theorem clear_of_bit {n : Nat} (hn : n < 2 ^ 32) (hbit : n &&& netidUseLocalNameservers ≠ 0) :
    checkAndClearUseLocalNameserversFlag n = (true, n - 2 ^ 31) ∧ 2 ^ 31 ≤ n := by
  have hlarge : 2 ^ 31 ≤ n := Nat.not_lt.mp (mt (bit_eq_zero_iff hn).mpr hbit)
  refine ⟨(if_neg hbit).trans (congrArg (true, ·) ?_), hlarge⟩
  have hmod : n &&& (2 ^ 31 - 1) = n % 2 ^ 31 := Nat.and_two_pow_sub_one_eq_mod n 31
  exact hmod.trans (by omega)

theorem clear_lt {n : Nat} (hn : n < 2 ^ 32) :
    (checkAndClearUseLocalNameserversFlag n).2 < 2 ^ 31 := by
  by_cases hbit : n &&& netidUseLocalNameservers = 0
  · rw [checkAndClearUseLocalNameserversFlag, if_pos hbit]
    exact (bit_eq_zero_iff hn).mp hbit
  · rw [(clear_of_bit hn hbit).1]
    dsimp only
    omega

section Contexts

variable (stray : Nat → BitVec 32) (hasNameservers : Nat → Bool) (c : NetworkController)

def Outside.onController (out : Outside) : Outside :=
  { out with getNetworkContext := c.getNetworkContext stray hasNameservers }

variable {stray hasNameservers c}

/-- The netId with the bit is used as it is, and the one without is a network or none. -/
theorem contexts_differ (out : Outside) (uid : Nat) {arg : CString} {n : Nat} (hn : n < 2 ^ 32)
    (hbit : n &&& netidUseLocalNameservers ≠ 0) :
    { resNSendContext (out.onController stray hasNameservers c) uid n with flags := 0 } ≠
      { contextFor (out.onController stray hasNameservers c) uid arg with flags := 0 } := by
  intro hsame
  obtain ⟨hclear, hlarge⟩ := clear_of_bit hn hbit
  have hset : n ≠ netIdUnset := by
    rintro rfl
    exact absurd hlarge (by decide)
  have hsmall := clear_lt (strtoul_lt arg)
  have happ := congrArg AndroidNetContext.appNetid hsame
  have hmark := congrArg AndroidNetContext.appMark hsame
  simp only [resNSendContext, contextFor, hclear, if_true, Outside.onController,
    NetworkController.getNetworkContext] at happ hmark
  generalize checkAndClearUseLocalNameserversFlag (strtoul arg) = cleared at *
  obtain ⟨useLocal, netId⟩ := cleared
  have hmark : (NetworkController.getNetworkContext stray hasNameservers c n uid).appMark =
      (NetworkController.getNetworkContext stray hasNameservers c netId uid).appMark := by
    cases useLocal <;> exact hmark
  have happ : (NetworkController.getNetworkContext stray hasNameservers c n uid).appNetid =
      (NetworkController.getNetworkContext stray hasNameservers c netId uid).appNetid := by
    cases useLocal <;> exact happ
  have hexplicit := congrArg Fwmark.explicitlySelected
    (Fwmark.intValue_inj.mp (BitVec.eq_of_toNat_eq hmark))
  have hnetId : netId ≠ netIdUnset := by simpa [hset] using hexplicit
  have happ : n = netId := by
    simpa [NetworkController.getNetworkContext, hset, hnetId] using happ
  dsimp only at hsmall
  omega

/-- **Two requests for one netId share the context**, up to the flags where they differ in the bit
for local nameservers, exactly if none or both are a `resnsend` with the bit. -/
theorem commands_share_context (out : Outside) (uid : Nat) {cmd cmd' : ProxyCommand}
    {argv argv' : List CString} {h h' : Handler}
    (hmade : newHandler (out.onController stray hasNameservers c) uid argv cmd = some h)
    (hmade' : newHandler (out.onController stray hasNameservers c) uid argv' cmd' = some h')
    (hnetId : (checkAndClearUseLocalNameserversFlag (strtoul (netIdArg cmd argv))).2 =
      (checkAndClearUseLocalNameserversFlag (strtoul (netIdArg cmd' argv'))).2) :
    ({ h.mNetContext with flags := 0 } = { h'.mNetContext with flags := 0 } ∧
      (strtoul (netIdArg cmd argv) = strtoul (netIdArg cmd' argv') →
        h.mNetContext = h'.mNetContext)) ↔
      (AsksWithBit cmd argv ↔ AsksWithBit cmd' argv') := by
  rcases newHandler_mNetContext hmade with ⟨hasks, hctx⟩ | ⟨hasks, hctx⟩ <;>
    rcases newHandler_mNetContext hmade' with ⟨hasks', hctx'⟩ | ⟨hasks', hctx'⟩
  all_goals rw [hctx, hctx']
  · refine iff_of_true ⟨?_, fun hsame => ?_⟩ (iff_of_false hasks hasks')
    · simp only [contextFor, hnetId]
      split <;> split <;> rfl
    · rw [contextFor, contextFor, hsame]
  · refine iff_of_false (fun hsame => ?_) fun hiff => hasks (hiff.mpr hasks')
    exact contexts_differ out uid (strtoul_lt _) hasks'.2 hsame.1.symm
  · refine iff_of_false (fun hsame => ?_) fun hiff => hasks' (hiff.mp hasks)
    exact contexts_differ out uid (strtoul_lt _) hasks.2 hsame.1
  · obtain ⟨hclear, hlarge⟩ := clear_of_bit (strtoul_lt _) hasks.2
    obtain ⟨hclear', hlarge'⟩ := clear_of_bit (strtoul_lt _) hasks'.2
    rw [hclear, hclear'] at hnetId
    have hsame : strtoul (netIdArg cmd argv) = strtoul (netIdArg cmd' argv') := by
      dsimp only at hnetId
      omega
    rw [hsame]
    exact iff_of_true ⟨rfl, fun _ => rfl⟩ (iff_of_true hasks hasks')

end Contexts

def vpnSystem : Outside :=
  { plain with inetPton := fun _ _ => some [192, 0, 2, 1] }.onController (fun _ => 0)
    (fun _ => true) NetworkController.secureVpn.1

def requestFor (netId : CString) : ProxyCommand → List CString
  | .lookup .getaddrinfo => [ascii "getaddrinfo", ascii "example", ascii "^", ascii "-1",
      ascii "-1", ascii "-1", ascii "-1", netId]
  | .lookup .gethostbyname => [ascii "gethostbyname", netId, ascii "example", ascii "2"]
  | .lookup .gethostbyaddr => [ascii "gethostbyaddr", ascii "192.0.2.1", ascii "4", ascii "2",
      netId]
  | .resnsend => [ascii "resnsend", netId, ascii "0", ascii "AAAB"]

/-- The context of such a request of user 10002. -/
def contextOf (netId : CString) (cmd : ProxyCommand) : Option AndroidNetContext :=
  (newHandler vpnSystem 10002 (requestFor netId cmd) cmd).map (·.mNetContext)

/-- User 10002 asks for network 102. -/
theorem commands_share_context_secureVpn :
    ∃ ctx, contextOf (ascii "102") .resnsend = some ctx ∧ ctx.dnsNetid = 102 ∧
      contextOf (ascii "102") (.lookup .getaddrinfo) = some ctx := by
  have hmade : (newHandler vpnSystem 10002 (requestFor (ascii "102") .resnsend) .resnsend).any
      (fun h => h.mNetContext.dnsNetid = 102) = true := by decide +kernel
  have hmade' : (newHandler vpnSystem 10002 (requestFor (ascii "102") (.lookup .getaddrinfo))
      (.lookup .getaddrinfo)).isSome = true := by decide +kernel
  obtain ⟨h, hmade, hdns⟩ := (any_eq_true _ _).mp hmade
  obtain ⟨h', hmade'⟩ := isSome_iff_exists.mp hmade'
  have hsame := ((commands_share_context _ _ hmade hmade' rfl).mpr
    (iff_of_false (fun hasks => hasks.2 (by decide +kernel)) fun hasks => by cases hasks.1)).2 rfl
  exact ⟨h.mNetContext, by rw [contextOf, hmade]; rfl, of_decide_eq_true hdns,
    by rw [contextOf, hmade', hsame]; rfl⟩

/-- With the bit for local nameservers, lookups are for network 102, and `resnsend` for the default
100. -/
theorem resnsend_loses_network :
    ((contextOf (ascii "2147483750") (.lookup .getaddrinfo)).map (·.dnsNetid) = some 102 ∧
      (contextOf (ascii "2147483750") (.lookup .gethostbyname)).map (·.dnsNetid) = some 102 ∧
      (contextOf (ascii "2147483750") (.lookup .gethostbyaddr)).map (·.dnsNetid) = some 102) ∧
      (contextOf (ascii "2147483750") .resnsend).map (fun ctx => (ctx.appNetid, ctx.dnsNetid)) =
        some (2147483750, 100) := by
  decide +kernel

end DnsProxyListener

end Netd
