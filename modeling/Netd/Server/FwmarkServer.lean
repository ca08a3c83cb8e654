import Netd.Server.WellFormed

/-!
# FwmarkServer

Apps send a socket and a command to the fwmark server, which reads the mark, changes it by what the
controller says about the sender, and writes it back. `FwmarkServer.processClient` is one command,
with the results of its system calls given by a `Delivery`.

The mark left by earlier commands is input to later ones.
-/

namespace Netd

open NetworkController

/-- `FwmarkCommand::cmdId`, with the numbers that name no command. -/
inductive CmdId where
  | onAccept
  | onConnect
  | selectNetwork
  | protectFromVpn
  | selectForUser
  | queryUserAccess
  | onConnectComplete
  | tagSocket
  | untagSocket
  | setCounterset
  | deleteTagdata
  | unknown
  deriving DecidableEq

structure FwmarkCommand where
  cmdId : CmdId
  netId : BitVec 32
  uid : Uid
  trafficCtrlInfo : BitVec 32

def fwmarkCommandSize : Int := 16

def fwmarkConnectInfoSize : Int := 36

def afInet : Nat := 2
def afInet6 : Nat := 10

def FwmarkCommand.isSupportedFamily (family : Nat) : Bool := family = afInet || family = afInet6

/-- What the system calls made for one command return. -/
structure Delivery where
  /-- The result of `recvmsg` and the `errno` that goes with it. -/
  messageLength : Int
  recvErrno : Int
  /-- Whether a descriptor came with the message. -/
  hasSocketFd : Bool
  /-- The socket's `SO_DOMAIN`, or an `errno`. -/
  domain : Except Int Nat
  /-- The `errno` of a failed read or write of `SO_MARK`. -/
  markReadErrno : Option Int
  markWriteErrno : Option Int

namespace FwmarkServer

variable (stray : Nat → BitVec 32) (c : NetworkController)

/-- The `switch` over the commands that read the mark: the new mark, with its permission bits, or an
error. Tagging is left to `trafficCtrl`. -/
def switchCommand (trafficCtrl : FwmarkCommand → Uid → Int) (uid : Uid) (command : FwmarkCommand)
    (fwmark : Fwmark) : Except Int Fwmark :=
  let permission := (c.getPermissionForUserLocked uid).bits
  match command.cmdId with
  | .onAccept => .ok { fwmark with permission := permission ||| fwmark.permission }
  | .onConnect =>
    let netId :=
      if fwmark.explicitlySelected then fwmark.netId
      else if fwmark.protectedFromVpn = false then
        BitVec.ofNat 16 (c.getNetworkForConnectLocked uid)
      else if c.isVirtualNetworkLocked fwmark.netId.toNat then fwmark.netId
      else BitVec.ofNat 16 c.mDefaultNetId
    .ok { fwmark with netId, permission }
  | .onConnectComplete => .ok { fwmark with permission }
  | .selectNetwork =>
    let netId := command.netId.setWidth 16
    if command.netId.toNat = netIdUnset then
      .ok { fwmark with
        netId, explicitlySelected := false, protectedFromVpn := false,
        permission := Permission.none.bits }
    else
      let ret := c.checkUserNetworkAccessLocked stray uid command.netId.toNat
      if ret ≠ 0 then .error ret
      else
        .ok { fwmark with
          netId, explicitlySelected := true, protectedFromVpn := c.canProtectLocked uid,
          permission }
  | .protectFromVpn =>
    if c.canProtectLocked uid = false then .error (-Errno.eperm)
    else
      let netId :=
        if fwmark.explicitlySelected = false ∧ c.isVirtualNetworkLocked fwmark.netId.toNat then
          BitVec.ofNat 16 c.mDefaultNetId
        else fwmark.netId
      .ok { fwmark with
        netId, protectedFromVpn := true, permission := permission ||| fwmark.permission }
  | .selectForUser =>
    if holdsAll permission Permission.system.bits = false then .error (-Errno.eperm)
    else
      .ok { fwmark with
        netId := BitVec.ofNat 16 (c.getNetworkForUser command.uid), protectedFromVpn := true,
        permission }
  | .tagSocket =>
    let command := if command.uid = invalidUid then { command with uid := uid } else command
    .error (trafficCtrl command uid)
  | .untagSocket => .error (trafficCtrl command uid)
  | _ => .error (-Errno.eproto)

/-- The response, and the mark of the socket after it. -/
def processClient (trafficCtrl : FwmarkCommand → Uid → Int) (uid : Uid)
    (request : Delivery × FwmarkCommand) (mark : Fwmark) : Int × Fwmark :=
  let (d, command) := request
  if d.messageLength ≤ 0 then (-d.recvErrno, mark)
  else if ¬ ((command.cmdId ≠ .onConnectComplete ∧ d.messageLength = fwmarkCommandSize) ∨
      (command.cmdId = .onConnectComplete ∧
        d.messageLength = fwmarkCommandSize + fwmarkConnectInfoSize)) then
    (-Errno.ebadmsg, mark)
  else if command.cmdId = .queryUserAccess then
    if holdsAll (c.getPermissionForUserLocked uid).bits Permission.system.bits = false then
      (-Errno.eperm, mark)
    else (c.checkUserNetworkAccessLocked stray command.uid command.netId.toNat, mark)
  else if command.cmdId = .setCounterset ∨ command.cmdId = .deleteTagdata then
    (trafficCtrl command uid, mark)
  else if d.hasSocketFd = false then (-Errno.ebadf, mark)
  else
    match d.domain with
    | .error errno => (-errno, mark)
    | .ok family =>
      if FwmarkCommand.isSupportedFamily family = false then (-Errno.eafnosupport, mark)
      else
        match d.markReadErrno with
        | some errno => (-errno, mark)
        | none =>
          match switchCommand stray c trafficCtrl uid command mark with
          | .error ret => (ret, mark)
          | .ok fwmark =>
            match d.markWriteErrno with
            | some errno => (-errno, mark)
            | none => (0, fwmark)

/-- The mark after a sequence of commands from one sender. -/
def processClients (trafficCtrl : FwmarkCommand → Uid → Int) (uid : Uid) :
    List (Delivery × FwmarkCommand) → Fwmark → Fwmark
  | [], mark => mark
  | request :: rest, mark =>
    processClients trafficCtrl uid rest (processClient stray c trafficCtrl uid request mark).2

/-! ## What a sender can be granted -/

/-- The mark gives its sender nothing the controller would refuse. -/
structure Granted (uid : Uid) (mark : Fwmark) : Prop where
  protect : mark.protectedFromVpn = true → c.canProtectLocked uid = true
  access : mark.explicitlySelected = true →
    c.checkUserNetworkAccessLocked stray uid mark.netId.toNat = 0
  /-- An implicit netId was chosen by the server. -/
  implicit : mark.explicitlySelected = false →
    mark.netId.toNat = netIdUnset ∨ mark.netId.toNat = c.mDefaultNetId ∨
      mark.netId.toNat = c.getNetworkForConnectLocked uid
  not_vpn : mark.explicitlySelected = false → mark.protectedFromVpn = true →
    c.isVirtualNetworkLocked mark.netId.toNat = false
  permission : holdsAll (c.getPermissionForUserLocked uid).bits mark.permission = true

theorem holdsAll_or {bits a b : BitVec 2} (ha : holdsAll bits a = true)
    (hb : holdsAll bits b = true) : holdsAll bits (a ||| b) = true := by
  revert bits a b
  decide

theorem holdsAll_self (bits : BitVec 2) : holdsAll bits bits = true := by
  revert bits
  decide

theorem holdsAll_none (bits : BitVec 2) : holdsAll bits Permission.none.bits = true := by
  revert bits
  decide

end FwmarkServer

namespace NetworkController

variable {c : NetworkController}

theorem Shape.getVirtualNetworkForUser {uid : Uid} {v : VirtualNetwork} (h : Shape c)
    (hv : c.getVirtualNetworkForUserLocked uid = some v) :
    c.getNetworkLocked v.mNetId = some (.virtual v) ∧ v.appliesToUser uid = true := by
  obtain ⟨e, he, hsome⟩ := List.exists_of_findSome?_eq_some hv
  obtain ⟨k, n⟩ := e
  cases n with
  | virtual w =>
    dsimp only at hsome
    split at hsome
    · rename_i happ
      cases hsome
      have hget : c.getNetworkLocked k = some (.virtual v) := OrdMap.find?_eq_some.mpr he
      have hid : v.mNetId = k := h.netId_eq k _ hget
      exact ⟨hid ▸ hget, happ⟩
    · cases hsome
  | dummy _ | «local» _ | physical _ => cases hsome

theorem isVirtualNetworkLocked_iff {k : Nat} :
    c.isVirtualNetworkLocked k = true ↔ ∃ v, c.getNetworkLocked k = some (.virtual v) := by
  rw [isVirtualNetworkLocked]
  cases c.getNetworkLocked k with
  | none => simp
  | some n => cases n <;> simp [Network.getType]

theorem WellFormed.default_not_virtual (h : WellFormed c) :
    c.mDefaultNetId ≤ 65535 ∧ c.isVirtualNetworkLocked c.mDefaultNetId = false := by
  rcases h.default_ok with hunset | ⟨p, hp, _⟩
  · rw [hunset]
    refine ⟨by decide, Bool.eq_false_iff.mpr fun hv => ?_⟩
    obtain ⟨v, hv⟩ := isVirtualNetworkLocked_iff.mp hv
    exact h.toShape.ne_unset hv rfl
  · refine ⟨(h.toShape.key_bounds hp).2, ?_⟩
    rw [isVirtualNetworkLocked, hp]
    rfl

/-- What `getNetworkForConnect` picks fits a mark and is no secure VPN. -/
theorem WellFormed.getNetworkForConnect (h : WellFormed c) (uid : Uid) :
    c.getNetworkForConnectLocked uid ≤ 65535 ∧
      ∀ v, c.getNetworkLocked (c.getNetworkForConnectLocked uid) = some (.virtual v) →
        v.mSecure = false := by
  have hdefault : c.mDefaultNetId ≤ 65535 ∧
      ∀ v, c.getNetworkLocked c.mDefaultNetId = some (.virtual v) → v.mSecure = false := by
    refine ⟨h.default_not_virtual.1, fun v hv => ?_⟩
    have hno := h.default_not_virtual.2
    rw [isVirtualNetworkLocked_iff.mpr ⟨v, hv⟩] at hno
    cases hno
  rw [getNetworkForConnectLocked]
  split
  · rename_i w hw
    obtain ⟨hget, _⟩ := h.toShape.getVirtualNetworkForUser hw
    split
    · exact hdefault
    rename_i hsecure
    refine ⟨(h.toShape.key_bounds hget).2, fun v hv => ?_⟩
    rw [hget] at hv
    cases hv
    exact Bool.eq_false_iff.mpr hsecure
  · exact hdefault

end NetworkController

namespace FwmarkServer

variable {stray : Nat → BitVec 32} {c : NetworkController}

theorem toNat_ofNat_netId {n : Nat} (h : n ≤ 65535) : (BitVec.ofNat 16 n).toNat = n := by
  exact Nat.mod_eq_of_lt (by omega)

theorem toNat_setWidth_netId {x : BitVec 32} (h : x.toNat ≤ 65535) :
    (x.setWidth 16).toNat = x.toNat := by
  exact Nat.mod_eq_of_lt (by omega)

variable {uid : Uid} {mark : Fwmark} {trafficCtrl : FwmarkCommand → Uid → Int}

section

variable (h : c.WellFormed)
include h

theorem onConnect_granted (hg : Granted stray c uid mark) : Granted stray c uid
      { mark with
        netId :=
          if mark.explicitlySelected then mark.netId
          else if mark.protectedFromVpn = false then
            BitVec.ofNat 16 (c.getNetworkForConnectLocked uid)
          else if c.isVirtualNetworkLocked mark.netId.toNat then mark.netId
          else BitVec.ofNat 16 c.mDefaultNetId
        permission := (c.getPermissionForUserLocked uid).bits } := by
  obtain ⟨hfits, hnovpn⟩ := h.default_not_virtual
  refine ⟨hg.protect, fun hexpl => ?_, fun hexpl => ?_, fun hexpl hprot => ?_, holdsAll_self _⟩
  · replace hexpl : mark.explicitlySelected = true := hexpl
    rw [if_pos hexpl]
    exact hg.access hexpl
  · replace hexpl : mark.explicitlySelected = false := hexpl
    rw [hexpl, if_neg Bool.false_ne_true]
    split
    · exact .inr (.inr (toNat_ofNat_netId (h.getNetworkForConnect uid).1))
    split
    · exact hg.implicit hexpl
    · exact .inr (.inl (toNat_ofNat_netId hfits))
  · replace hexpl : mark.explicitlySelected = false := hexpl
    -- the socket was protected before, so its netId was no VPN
    have hold := hg.not_vpn hexpl hprot
    rw [hexpl, hprot, hold, if_neg Bool.false_ne_true, if_neg (by decide),
      if_neg Bool.false_ne_true, toNat_ofNat_netId hfits]
    exact hnovpn

theorem selectNetwork_granted {netId : BitVec 32}
    (haccess : c.checkUserNetworkAccessLocked stray uid netId.toNat = 0) :
    Granted stray c uid
      { mark with
        netId := netId.setWidth 16, explicitlySelected := true
        protectedFromVpn := c.canProtectLocked uid
        permission := (c.getPermissionForUserLocked uid).bits } := by
  -- access is only given to a network that exists, and its netId has 16 bits
  have hfits : netId.toNat ≤ 65535 := by
    cases hget : c.getNetworkLocked netId.toNat with
    | none =>
      rw [checkUserNetworkAccessLocked, hget] at haccess
      cases haccess
    | some n => exact (h.toShape.key_bounds hget).2
  refine ⟨fun hprot => hprot, fun _ => ?_, fun hexpl => (by cases hexpl),
    fun hexpl => (by cases hexpl), holdsAll_self _⟩
  rwa [toNat_setWidth_netId hfits]

theorem protectFromVpn_granted (hg : Granted stray c uid mark)
    (hprot : c.canProtectLocked uid = true) :
    Granted stray c uid
      { mark with
        netId :=
          if mark.explicitlySelected = false ∧ c.isVirtualNetworkLocked mark.netId.toNat then
            BitVec.ofNat 16 c.mDefaultNetId
          else mark.netId
        protectedFromVpn := true
        permission := (c.getPermissionForUserLocked uid).bits ||| mark.permission } := by
  obtain ⟨hfits, hnovpn⟩ := h.default_not_virtual
  refine ⟨fun _ => hprot, fun hexpl => ?_, fun hexpl => ?_, fun hexpl _ => ?_,
    holdsAll_or (holdsAll_self _) hg.permission⟩
  · replace hexpl : mark.explicitlySelected = true := hexpl
    rw [if_neg fun hand => by rw [hexpl] at hand; cases hand.1]
    exact hg.access hexpl
  · dsimp only
    split
    · exact .inr (.inl (toNat_ofNat_netId hfits))
    · exact hg.implicit hexpl
  · dsimp only
    split
    · rw [toNat_ofNat_netId hfits]
      exact hnovpn
    rename_i hno
    cases hv : c.isVirtualNetworkLocked mark.netId.toNat with
    | false => rfl
    | true => exact absurd ⟨hexpl, hv⟩ hno

/-- One command keeps the mark within its sender's rights. -/
theorem switchCommand_granted {command : FwmarkCommand} {mark' : Fwmark}
    (huser : holdsAll (c.getPermissionForUserLocked uid).bits Permission.system.bits = false)
    (hg : Granted stray c uid mark)
    (hs : switchCommand stray c trafficCtrl uid command mark = .ok mark') :
    Granted stray c uid mark' := by
  rw [switchCommand] at hs
  cases hcmd : command.cmdId with
  | onAccept =>
    rw [hcmd] at hs
    cases hs
    exact ⟨hg.protect, hg.access, hg.implicit, hg.not_vpn,
      holdsAll_or (holdsAll_self _) hg.permission⟩
  | onConnect =>
    rw [hcmd] at hs
    cases hs
    exact onConnect_granted h hg
  | onConnectComplete =>
    rw [hcmd] at hs
    cases hs
    exact ⟨hg.protect, hg.access, hg.implicit, hg.not_vpn, holdsAll_self _⟩
  | selectNetwork =>
    rw [hcmd] at hs
    dsimp only at hs
    split at hs
    · rename_i hunset
      cases hs
      refine ⟨fun hp => (by cases hp), fun he => (by cases he), fun _ => .inl ?_,
        fun _ hp => (by cases hp), holdsAll_none _⟩
      rw [toNat_setWidth_netId (hunset ▸ by decide), hunset]
    · split at hs
      · cases hs
      rename_i haccess
      cases hs
      exact selectNetwork_granted h (not_not.mp haccess)
  | protectFromVpn =>
    rw [hcmd] at hs
    dsimp only at hs
    split at hs
    · cases hs
    rename_i hcan
    cases hs
    exact protectFromVpn_granted h hg (Bool.not_eq_false _ ▸ hcan)
  | selectForUser =>
    rw [hcmd] at hs
    rw [if_pos huser] at hs
    cases hs
  | queryUserAccess | tagSocket | untagSocket | setCounterset | deleteTagdata | unknown =>
    rw [hcmd] at hs; cases hs

end

/-- A command leaves the mark alone or writes what the switch produced. -/
theorem processClient_mark (trafficCtrl : FwmarkCommand → Uid → Int) (uid : Uid)
    (request : Delivery × FwmarkCommand) (mark : Fwmark) :
    (processClient stray c trafficCtrl uid request mark).2 = mark ∨
      switchCommand stray c trafficCtrl uid request.2 mark =
        .ok (processClient stray c trafficCtrl uid request mark).2 := by
  simp only [processClient]
  split
  · exact .inl rfl
  split
  · exact .inl rfl
  split
  · split
    · exact .inl rfl
    · exact .inl rfl
  split
  · exact .inl rfl
  split
  · exact .inl rfl
  split
  · exact .inl rfl
  split
  · exact .inl rfl
  split
  · exact .inl rfl
  split
  · exact .inl rfl
  rename_i hok
  split
  · exact .inl rfl
  · exact .inr hok

/-- Sequences of commands keep the mark within their sender's rights. -/
theorem processClients_granted (h : c.WellFormed)
    (huser : holdsAll (c.getPermissionForUserLocked uid).bits Permission.system.bits = false)
    (requests : List (Delivery × FwmarkCommand)) (hg : Granted stray c uid mark) :
    Granted stray c uid (processClients stray c trafficCtrl uid requests mark) := by
  induction requests generalizing mark with
  | nil => exact hg
  | cons request rest ih =>
    refine ih ?_
    rcases @processClient_mark stray c trafficCtrl uid request mark with hsame | hok
    · rwa [hsame]
    · exact switchCommand_granted h huser hg hok

/-- The server never grants a mark beyond its sender's rights, for any reached controller, commands
and results of system calls, after each step. -/
theorem mark_within_senders_rights {σ : Type} (rc : RouteApi σ) {st : NetworkController × σ}
    (hst : NetworkController.Reachable rc st) (stray : Nat → BitVec 32)
    (trafficCtrl : FwmarkCommand → Uid → Int) (uid : Uid)
    (huser : holdsAll (st.1.getPermissionForUserLocked uid).bits Permission.system.bits = false)
    (requests : List (Delivery × FwmarkCommand)) (mark : Fwmark)
    (hmark : mark = processClients stray st.1 trafficCtrl uid requests {}) :
    (mark.protectedFromVpn = true → st.1.canProtectLocked uid = true) ∧
      (mark.explicitlySelected = true →
        st.1.checkUserNetworkAccessLocked stray uid mark.netId.toNat = 0) ∧
      (mark.explicitlySelected = false →
        (mark.netId.toNat = netIdUnset ∨ mark.netId.toNat = st.1.mDefaultNetId ∨
          mark.netId.toNat = st.1.getNetworkForConnectLocked uid) ∧
        ∀ v, st.1.getNetworkLocked mark.netId.toNat = some (.virtual v) → v.mSecure = false) ∧
      (mark.explicitlySelected = false → mark.protectedFromVpn = true →
        st.1.isVirtualNetworkLocked mark.netId.toNat = false) ∧
      holdsAll (st.1.getPermissionForUserLocked uid).bits mark.permission = true := by
  have hwf := reachable_wellFormed rc hst
  have hg : Granted stray st.1 uid mark :=
    hmark ▸ processClients_granted hwf huser requests ⟨fun h => (by cases h),
      fun h => (by cases h), fun _ => .inl rfl, fun _ h => (by cases h), holdsAll_none _⟩
  refine ⟨hg.protect, hg.access, fun hexpl => ⟨hg.implicit hexpl, fun v hv => ?_⟩, hg.not_vpn,
    hg.permission⟩
  rcases hg.implicit hexpl with hunset | hdefault | hconnect
  · exact absurd hunset (hwf.toShape.ne_unset hv)
  · have hno := hwf.default_not_virtual.2
    rw [← hdefault, isVirtualNetworkLocked_iff.mpr ⟨v, hv⟩] at hno
    cases hno
  · exact (hwf.getNetworkForConnect uid).2 v (hconnect ▸ hv)

/-- System calls that all succeed on an IPv4 socket. -/
def delivered : Delivery := ⟨fwmarkCommandSize, 0, true, .ok afInet, none, none⟩

/-- A controller with the physical network 100 and the bypassable VPN 101 of user 10001. -/
def bypassableVpn : NetworkController × List Int :=
  let run := fun st op => (step scripted op st).2
  [.createPhysicalNetwork 100 .none, .setDefaultNetwork 100, .createVirtualNetwork 101 false,
    .addUsersToNetwork 101 [⟨10001, 10001⟩]].foldl run (.new, [])

/-- The netId of the mark of user 10001 after each of four commands. -/
theorem mark_within_senders_rights_bypassableVpn :
    let mark := fun commands : List FwmarkCommand =>
      processClients (fun _ => 0) bypassableVpn.1 (fun _ _ => 0) 10001
        (commands.map (Prod.mk delivered)) {}
    (mark [⟨.onConnect, 0, 0, 0⟩, ⟨.selectNetwork, 0x10064, 0, 0⟩]).netId = 101 ∧
      (mark [⟨.onConnect, 0, 0, 0⟩, ⟨.selectNetwork, 100, 0, 0⟩]).explicitlySelected = true ∧
      bypassableVpn.1.checkUserNetworkAccessLocked (fun _ => 0) 10001
        (mark [⟨.onConnect, 0, 0, 0⟩, ⟨.selectNetwork, 100, 0, 0⟩]).netId.toNat = 0 := by
  have hreach : NetworkController.Reachable scripted bypassableVpn :=
    .step _ (.step _ (.step _ (.step _ (.init _))))
  refine ⟨by decide, by decide, ?_⟩
  exact (mark_within_senders_rights _ hreach (fun _ => 0) (fun _ _ => 0) 10001 (by decide)
    ([⟨.onConnect, 0, 0, 0⟩, ⟨.selectNetwork, 100, 0, 0⟩].map (Prod.mk delivered)) _ rfl).2.1
    (by decide)

end FwmarkServer

end Netd
