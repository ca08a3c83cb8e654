import Mathlib.Data.Nat.Digits.Defs
import Netd.Lib.Lts
import Netd.Server.NetdConstants

/-!
# TetherController: dnsmasq

The daemon is told the interfaces it serves and the DNS servers it forwards to by commands on its
standard input. The controller keeps the last command of each kind in `mDnsmasqState` and sends
both whenever one of them changes. Three cases are left out by this.

* There is no command for an empty list of interfaces.
* `stopTethering` clears both commands, and `startTethering` makes only one of them anew.
* `startTethering` sends nothing at all if there are no interfaces.

Otherwise (`Configured`) the daemon has what the controller has. Its command line is not here.
-/

namespace Netd.Dnsmasq

open List Errno Fwmark

abbrev Text := List Char

def maxCmdSize : Nat := 1023

def separator : Char := '|'

/-- The first field of a command for interfaces. -/
def updateIfaces : Text := "update_ifaces".toList

/-- The first field of a command for DNS. -/
def updateDns : Text := "update_dns".toList

/-- The commands that were last made, with the empty text for none. -/
structure DnsmasqState where
  updateIfacesCmd : Text := []
  updateDnsCmd : Text := []

structure Daemon where
  received : List Text := []

/-- `mDaemonPid` and `mDaemonFd` are set and cleared together. -/
structure State where
  mInterfaces : List String := []
  mDnsNetId : Nat := 0
  mDnsForwarders : List String := []
  mDaemon : Option Daemon := none
  mDnsmasqState : DnsmasqState := {}

/-- What happens outside of the controller in a call. -/
structure Outcomes where
  /-- `pipe` and `fork`, 0 or an error number -/
  spawn : Int := 0
  /-- `configureForIPv6Router` -/
  router : Bool := true
  /-- the `write` of the interfaces -/
  writeIfaces : Bool := true
  /-- the `write` of the DNS servers -/
  writeDns : Bool := true

/-- The texts that `getaddrinfo` takes as a numeric address. No such text has the separator. -/
structure NumericHosts where
  accepts : String → Bool
  plain : ∀ host, accepts host → separator ∉ host.toList

/-! ## Commands -/

def hex (n : Nat) : Text := if n = 0 then ['0'] else (Nat.digits 16 n).reverse.map Nat.digitChar

/-- The mark of the sockets for a network. -/
def fwmark (netId : Nat) : Fwmark where
  netId := BitVec.ofNat 16 netId
  explicitlySelected := true
  protectedFromVpn := true
  permission := Permission.system.bits

def markText (netId : Nat) : Text := "0x".toList ++ hex (fwmark netId).intValue.toNat

/-- Append fields to a command while it is short enough. The second part says whether there is
one. -/
def appendFields (cmd : Text) : List String → Text × Bool
  | [] => (cmd, false)
  | name :: names =>
    if maxCmdSize ≤ cmd.length + 1 + name.toList.length then (cmd, false)
    else ((appendFields (cmd ++ separator :: name.toList) names).1, true)

/-- The loop of `setDnsForwarders`, with the command and the forwarders so far. -/
def appendServers (hosts : NumericHosts) (cmd : Text) (forwarders : List String) :
    List String → Option (Text × List String)
  | [] => some (cmd, forwarders)
  | server :: servers =>
    if !hosts.accepts server then none
    else if maxCmdSize ≤ cmd.length + 1 + server.toList.length then some (cmd, forwarders)
    else appendServers hosts (cmd ++ separator :: server.toList) (forwarders ++ [server]) servers

namespace Daemon

/-- `sendCmd`, with the result of `write`. -/
def sendCmd (ok : Bool) (cmd : Text) (d : Daemon) : Daemon × Int :=
  if cmd.isEmpty then (d, 0)
  else if ok then (⟨d.received ++ [cmd]⟩, 0)
  else (d, -1)

/-- The results are 0 or -1, and are joined with `|`. -/
def sendAllState (o : Outcomes) (st : DnsmasqState) (d : Daemon) : Daemon × Int :=
  let (d, res) := d.sendCmd o.writeIfaces st.updateIfacesCmd
  let (d, res') := d.sendCmd o.writeDns st.updateDnsCmd
  (d, if res = 0 then res' else res)

end Daemon

namespace State

/-- The results are 0 or -1, and are joined with `|`. -/
def sendAllState (o : Outcomes) (s : State) : State × Int :=
  match s.mDaemon with
  | none => (s, 0)
  | some d =>
    let (d, res) := d.sendAllState o s.mDnsmasqState
    ({ s with mDaemon := some d }, res)

def applyDnsInterfaces (o : Outcomes) (s : State) : State × Bool :=
  let (daemonCmd, haveInterfaces) := appendFields updateIfaces s.mInterfaces
  if !haveInterfaces then
    ({ s with mDnsmasqState := { s.mDnsmasqState with updateIfacesCmd := [] } }, true)
  else
    let s := { s with mDnsmasqState := { s.mDnsmasqState with updateIfacesCmd := daemonCmd } }
    let (s, res) := s.sendAllState o
    (s, res == 0)

def startTethering (o : Outcomes) (s : State) : State × Int :=
  if s.mDaemon.isSome then (s, -ebusy)
  else if o.spawn ≠ 0 then (s, -o.spawn)
  else ((applyDnsInterfaces o { s with mDaemon := some {} }).1, 0)

def stopTethering (s : State) : State × Int :=
  if s.mDaemon.isNone then (s, 0)
  else ({ s with mDaemon := none, mDnsmasqState := {} }, 0)

def setDnsForwarders (hosts : NumericHosts) (netId : Nat) (servers : List String) (o : Outcomes)
    (s : State) : State × Int :=
  let daemonCmd := updateDns ++ separator :: markText netId
  match appendServers hosts daemonCmd [] servers with
  | none => ({ s with mDnsForwarders := [] }, -einval)
  | some (daemonCmd, forwarders) =>
    let s := { s with
      mDnsForwarders := forwarders
      mDnsNetId := netId
      mDnsmasqState := { s.mDnsmasqState with updateDnsCmd := daemonCmd } }
    let (s, res) := s.sendAllState o
    if res ≠ 0 then ({ s with mDnsForwarders := [] }, -eremoteio) else (s, 0)

def tetherInterface (interface : String) (o : Outcomes) (s : State) : State × Int :=
  if !isIfaceName interface then (s, -enoent)
  else if !o.router then (s, -eremoteio)
  else
    let (s, ok) := applyDnsInterfaces o { s with mInterfaces := s.mInterfaces ++ [interface] }
    if !ok then ({ s with mInterfaces := s.mInterfaces.dropLast }, -eremoteio) else (s, 0)

def untetherInterface (interface : String) (o : Outcomes) (s : State) : State × Int :=
  if interface ∈ s.mInterfaces then
    let (s, ok) := applyDnsInterfaces o { s with mInterfaces := s.mInterfaces.erase interface }
    (s, if ok then 0 else -eremoteio)
  else (s, -enoent)

end State

inductive Call where
  | startTethering
  | stopTethering
  | setDnsForwarders (netId : Nat) (servers : List String)
  | tetherInterface (interface : String)
  | untetherInterface (interface : String)

def Call.run (hosts : NumericHosts) (o : Outcomes) (s : State) : Call → State × Int
  | .startTethering => s.startTethering o
  | .stopTethering => s.stopTethering
  | .setDnsForwarders netId servers => s.setDnsForwarders hosts netId servers o
  | .tetherInterface interface => s.tetherInterface interface o
  | .untetherInterface interface => s.untetherInterface interface o

def step (hosts : NumericHosts) (c : Call × Outcomes) (s : State) : Option State :=
  some (c.1.run hosts c.2 s).1

/-! ## The daemon -/

/-- The value of a hexadecimal digit. -/
def digitVal (c : Char) : Nat := if c.isDigit then c.toNat - 48 else c.toNat - 87

/-- The network of a mark in a command. -/
def parseMark (mark : Text) : Nat :=
  let value := Nat.ofDigits 16 ((mark.drop 2).reverse.map digitVal)
  (Fwmark.ofInt (BitVec.ofNat 32 value)).netId.toNat

/-- The interfaces in a command, if it is for interfaces. -/
def parseIfaces (cmd : Text) : Option (List Text) :=
  match cmd.splitOn separator with
  | kind :: names => if kind = updateIfaces then some names else none
  | [] => none

/-- The network and the servers in a command, if it is for DNS. -/
def parseDns (cmd : Text) : Option (Nat × List Text) :=
  match cmd.splitOn separator with
  | kind :: mark :: servers =>
    if kind = updateDns then some (parseMark mark, servers) else none
  | _ => none

namespace Daemon

def ifaces (d : Daemon) : Option (List Text) := (d.received.filterMap parseIfaces).getLast?

def dns (d : Daemon) : Option (Nat × List Text) := (d.received.filterMap parseDns).getLast?

end Daemon

/-! ## What the daemon reads in a command -/

/-- A command with further fields. -/
def extend (cmd : Text) (fields : List String) : Text :=
  fields.foldl (fun cmd field => cmd ++ separator :: field.toList) cmd

def Plain (field : Text) : Prop := separator ∉ field

theorem plain_updateIfaces : Plain updateIfaces := by
  unfold Plain
  decide

theorem plain_updateDns : Plain updateDns := by
  unfold Plain
  decide

theorem updateIfaces_ne_updateDns : updateIfaces ≠ updateDns := by
  decide

theorem intercalate_merge (a b : Text) (fields : List Text) :
    [separator].intercalate ((a ++ separator :: b) :: fields) =
      [separator].intercalate (a :: b :: fields) := by
  cases fields <;> simp [List.intercalate]

theorem extend_eq_intercalate (cmd : Text) (fields : List String) :
    extend cmd fields = [separator].intercalate (cmd :: fields.map String.toList) := by
  induction fields generalizing cmd with
  | nil => simp [extend, List.intercalate]
  | cons field fields ih =>
    rw [map_cons, ← intercalate_merge]
    exact ih _

variable {forwarders : List String} {cmd : Text} {hosts : NumericHosts} {netId : Nat}
  {fields : List String}

theorem splitOn_extend (hcmd : Plain cmd) (hfields : ∀ field ∈ fields, Plain field.toList) :
    (extend cmd fields).splitOn separator = cmd :: fields.map String.toList := by
  rw [extend_eq_intercalate]
  refine splitOn_intercalate _ ?_ (cons_ne_nil _ _)
  intro field hfield
  rcases mem_cons.mp hfield with rfl | hfield
  · exact hcmd
  · obtain ⟨f, hf, rfl⟩ := mem_map.mp hfield
    exact hfields f hf

theorem length_le_length_extend (cmd : Text) (fields : List String) :
    cmd.length ≤ (extend cmd fields).length := by
  induction fields generalizing cmd with
  | nil => exact le_rfl
  | cons field fields ih =>
    refine le_trans ?_ (ih (cmd ++ separator :: field.toList))
    simp

theorem appendFields_eq (h : (extend cmd fields).length < maxCmdSize) :
    appendFields cmd fields = (extend cmd fields, !fields.isEmpty) := by
  induction fields generalizing cmd with
  | nil => rfl
  | cons field fields ih =>
    have hle := length_le_length_extend (cmd ++ separator :: field.toList) fields
    have hshort : ¬maxCmdSize ≤ cmd.length + 1 + field.toList.length := by
      have hlt : (extend (cmd ++ separator :: field.toList) fields).length < maxCmdSize := h
      simp only [length_append, length_cons] at hle
      omega
    rw [appendFields, if_neg hshort, ih h]
    rfl

/-- The forwarders are the servers in the command. -/
theorem appendServers_spec {cmd' : Text} {forwarders' servers : List String}
    (h : appendServers hosts cmd forwarders servers = some (cmd', forwarders')) :
    ∃ taken, forwarders' = forwarders ++ taken ∧ cmd' = extend cmd taken ∧
      ∀ server ∈ taken, Plain server.toList := by
  induction servers generalizing cmd forwarders with
  | nil =>
    cases h
    exact ⟨[], by simp, rfl, by simp⟩
  | cons server servers ih =>
    rw [appendServers] at h
    split at h
    · cases h
    rename_i haccepts
    split at h
    · cases h
      exact ⟨[], by simp, rfl, by simp⟩
    obtain ⟨taken, rfl, rfl, hplain⟩ := ih h
    refine ⟨server :: taken, by simp, rfl, ?_⟩
    intro t ht
    rcases mem_cons.mp ht with rfl | ht
    · exact hosts.plain t (by simpa using haccepts)
    · exact hplain t ht

theorem plain_of_isIfaceName {name : String} (h : isIfaceName name) : Plain name.toList := by
  intro hmem
  have hchar := char_of_isIfaceName h hmem
  revert hchar
  decide

/-! ## Marks -/

theorem digitVal_digitChar : ∀ d < 16, digitVal (Nat.digitChar d) = d := by
  decide

theorem digitChar_ne_separator : ∀ d < 16, Nat.digitChar d ≠ separator := by
  decide

theorem plain_hex (n : Nat) : Plain (hex n) := by
  unfold hex
  split
  · simp [Plain, separator]
  intro hmem
  obtain ⟨d, hd, hchar⟩ := mem_map.mp hmem
  have hlt := Nat.digits_lt_base (by norm_num) (mem_reverse.mp hd)
  exact digitChar_ne_separator d hlt hchar

theorem ofDigits_hex (n : Nat) : Nat.ofDigits 16 ((hex n).reverse.map digitVal) = n := by
  unfold hex
  split
  · rename_i hn
    subst hn
    decide
  rw [← map_reverse, reverse_reverse, map_map]
  have hmap : (Nat.digits 16 n).map (digitVal ∘ Nat.digitChar) = (Nat.digits 16 n).map id :=
    map_congr_left fun d hd => digitVal_digitChar d (Nat.digits_lt_base (by norm_num) hd)
  rw [hmap, map_id, Nat.ofDigits_digits]

theorem plain_markText (netId : Nat) : Plain (markText netId) := by
  simp only [Plain, markText, mem_append, not_or]
  exact ⟨by decide, plain_hex _⟩

theorem parseMark_markText (h : netId < 2 ^ 16) : parseMark (markText netId) = netId := by
  have hfields : ofInt (fwmark netId).intValue = fwmark netId := intValue_inj.mp (intValue_ofInt _)
  have hdrop : (markText netId).drop 2 = hex (fwmark netId).intValue.toNat := rfl
  simp only [parseMark, hdrop, ofDigits_hex, BitVec.ofNat_toNat, BitVec.setWidth_eq, hfields]
  simpa [fwmark] using Nat.mod_eq_of_lt h

/-! ## The commands that are kept -/

/-- The command for some interfaces, and no command for none. -/
def ifacesCmd (names : List String) : Text :=
  if names.isEmpty then [] else extend updateIfaces names

/-- The command for a DNS configuration. -/
def dnsCmd (netId : Nat) (forwarders : List String) : Text :=
  extend (updateDns ++ separator :: markText netId) forwarders

theorem splitOn_dnsCmd (netId : Nat) (h : ∀ server ∈ forwarders, Plain server.toList) :
    (dnsCmd netId forwarders).splitOn separator =
      updateDns :: markText netId :: forwarders.map String.toList := by
  rw [dnsCmd, extend_eq_intercalate, intercalate_merge]
  refine splitOn_intercalate _ ?_ (cons_ne_nil _ _)
  intro field hfield
  rcases mem_cons.mp hfield with rfl | hfield
  · exact plain_updateDns
  rcases mem_cons.mp hfield with rfl | hfield
  · exact plain_markText netId
  · obtain ⟨f, hf, rfl⟩ := mem_map.mp hfield
    exact h f hf

@[simp] theorem parseDns_nil : parseDns [] = none := rfl

theorem parseDns_ifacesCmd {names : List String} (h : ∀ name ∈ names, Plain name.toList) :
    parseDns (ifacesCmd names) = none := by
  cases names with
  | nil => rfl
  | cons name names =>
    have hsplit := splitOn_extend plain_updateIfaces h
    rw [parseDns, ifacesCmd, if_neg (by simp), hsplit]
    exact if_neg updateIfaces_ne_updateDns

/-! ## What a command changes -/

theorem getLast?_filterMap_snoc {α β : Type} (f : α → Option β) (ts : List α) (t : α) :
    ((ts ++ [t]).filterMap f).getLast? = (f t).or (ts.filterMap f).getLast? := by
  cases h : f t with
  | none | some b => simp [h]

namespace Daemon

variable (d : Daemon) (cmd : Text)

theorem sendCmd_ifaces : (d.sendCmd true cmd).1.ifaces = (parseIfaces cmd).or d.ifaces := by
  cases cmd with
  | nil => rfl
  | cons c cmd => exact getLast?_filterMap_snoc parseIfaces d.received (c :: cmd)

theorem sendCmd_dns : (d.sendCmd true cmd).1.dns = (parseDns cmd).or d.dns := by
  cases cmd with
  | nil => rfl
  | cons c cmd => exact getLast?_filterMap_snoc parseDns d.received (c :: cmd)

theorem sendCmd_result : (d.sendCmd true cmd).2 = 0 := by
  cases cmd <;> rfl

end Daemon

def Outcomes.delivered (o : Outcomes) : Bool := o.writeIfaces && o.writeDns

theorem Daemon.sendAllState_spec (d : Daemon) {o : Outcomes} (ho : o.delivered)
    (st : DnsmasqState) :
    (d.sendAllState o st).2 = 0 ∧
      (d.sendAllState o st).1.ifaces = (parseIfaces st.updateDnsCmd).or
        ((parseIfaces st.updateIfacesCmd).or d.ifaces) ∧
      (d.sendAllState o st).1.dns = (parseDns st.updateDnsCmd).or
        ((parseDns st.updateIfacesCmd).or d.dns) := by
  obtain ⟨hifaces, hdns⟩ : o.writeIfaces = true ∧ o.writeDns = true := by
    simpa [Outcomes.delivered] using ho
  simp [Daemon.sendAllState, hifaces, hdns, Daemon.sendCmd_result, Daemon.sendCmd_ifaces,
    Daemon.sendCmd_dns]

/-! ## The invariant -/

/-- The daemon received last what the controller has, and nothing only if that has nothing. -/
structure Agree (s : State) (d : Daemon) : Prop where
  ifaces : d.ifaces = some (s.mInterfaces.map String.toList) ∨ d.ifaces = none ∧ s.mInterfaces = []
  dns : d.dns = some (s.mDnsNetId, s.mDnsForwarders.map String.toList) ∨
    d.dns = none ∧ s.mDnsNetId = 0 ∧ s.mDnsForwarders = []

/-- What can be said about every state after successful calls. -/
structure Stored (s : State) : Prop where
  names : ∀ name ∈ s.mInterfaces, Plain name.toList
  netId : s.mDnsNetId < 2 ^ 16
  servers : ∀ server ∈ s.mDnsForwarders, Plain server.toList
  dnsCmd : s.mDnsmasqState.updateDnsCmd = [] ∨
    s.mDnsmasqState.updateDnsCmd = dnsCmd s.mDnsNetId s.mDnsForwarders

structure Inv (s : State) : Prop where
  stored : Stored s
  running : ∀ d, s.mDaemon = some d →
    s.mDnsmasqState.updateIfacesCmd = ifacesCmd s.mInterfaces ∧ Agree s d

/-- Sending the commands makes the daemon agree, if it agreed on what there is no command for. -/
theorem Stored.agree {s : State} (h : Stored s)
    (hcmd : s.mDnsmasqState.updateIfacesCmd = ifacesCmd s.mInterfaces) {o : Outcomes}
    (ho : o.delivered) {d : Daemon}
    (hifaces : s.mInterfaces ≠ [] ∨ d.ifaces = some (s.mInterfaces.map String.toList) ∨
      d.ifaces = none ∧ s.mInterfaces = []) (hdns : s.mDnsmasqState.updateDnsCmd ≠ [] ∨
      d.dns = some (s.mDnsNetId, s.mDnsForwarders.map String.toList) ∨
      d.dns = none ∧ s.mDnsNetId = 0 ∧ s.mDnsForwarders = []) :
    Agree s (d.sendAllState o s.mDnsmasqState).1 := by
  obtain ⟨-, hifaces', hdns'⟩ := d.sendAllState_spec ho s.mDnsmasqState
  rw [hcmd, parseDns_ifacesCmd h.names, Option.none_or] at hdns'
  have hnone : parseIfaces s.mDnsmasqState.updateDnsCmd = none := by
    rcases h.dnsCmd with hempty | heq
    · rw [hempty]
      rfl
    · rw [heq, parseIfaces, splitOn_dnsCmd _ h.servers]
      exact if_neg updateIfaces_ne_updateDns.symm
  rw [hnone, Option.none_or, hcmd] at hifaces'
  constructor
  · rw [hifaces']
    by_cases hne : s.mInterfaces = []
    · have hnothing : parseIfaces (ifacesCmd s.mInterfaces) = none := by
        rw [hne]
        rfl
      rw [hnothing, Option.none_or]
      exact hifaces.resolve_left (not_not_intro hne)
    · rw [parseIfaces, ifacesCmd, if_neg (by simpa using hne),
        splitOn_extend plain_updateIfaces h.names]
      exact .inl rfl
  · rw [hdns']
    by_cases hempty : s.mDnsmasqState.updateDnsCmd = []
    · rw [hempty, parseDns_nil, Option.none_or]
      exact hdns.resolve_left (not_not_intro hempty)
    · rw [h.dnsCmd.resolve_left hempty, parseDns, splitOn_dnsCmd _ h.servers]
      simp only [if_true, parseMark_markText h.netId]
      exact .inl rfl

open State

theorem State.sendAllState_eq (s : State) {o : Outcomes} (ho : o.delivered) : s.sendAllState o =
      ({ s with mDaemon := s.mDaemon.map fun d => (d.sendAllState o s.mDnsmasqState).1 }, 0) := by
  unfold sendAllState
  cases hd : s.mDaemon with
  | none =>
    cases s
    cases hd
    rfl
  | some d => simp [(d.sendAllState_spec ho s.mDnsmasqState).1]

/-- A state after `applyDnsInterfaces` has the command for its interfaces. -/
theorem State.applyDnsInterfaces_eq (s : State) {o : Outcomes} (ho : o.delivered)
    (hshort : (extend updateIfaces s.mInterfaces).length < maxCmdSize) :
    s.applyDnsInterfaces o =
      ({ s with
          mDnsmasqState := ⟨ifacesCmd s.mInterfaces, s.mDnsmasqState.updateDnsCmd⟩
          mDaemon :=
            if s.mInterfaces.isEmpty then s.mDaemon
            else s.mDaemon.map fun d =>
              (d.sendAllState o ⟨ifacesCmd s.mInterfaces, s.mDnsmasqState.updateDnsCmd⟩).1 },
        true) := by
  cases hempty : s.mInterfaces.isEmpty with
  | true => simp [applyDnsInterfaces, appendFields_eq hshort, hempty, ifacesCmd]
  | false =>
    simp [applyDnsInterfaces, appendFields_eq hshort, hempty, ifacesCmd,
      sendAllState_eq _ ho]

/-! ## Calls -/

/-- The controller has no DNS configuration. -/
def State.Unconfigured (s : State) : Prop := s.mDnsNetId = 0 ∧ s.mDnsForwarders = []

/-- The call returns 0, its commands are short enough and they are delivered. -/
def Successful (hosts : NumericHosts) (s : State) (c : Call × Outcomes) : Prop :=
  c.2.delivered ∧ (c.1.run hosts c.2 s).2 = 0 ∧
    (extend updateIfaces (c.1.run hosts c.2 s).1.mInterfaces).length < maxCmdSize

/-- The daemon is started with interfaces and a DNS configuration set since it was last stopped or
before there is one. The last interface stays while it runs, and a netId fits into a mark. -/
def Configured (s : State) : Call → Prop
  | .startTethering =>
    s.Unconfigured ∨ s.mInterfaces ≠ [] ∧ s.mDnsmasqState.updateDnsCmd ≠ []
  | .setDnsForwarders netId _ => netId < 2 ^ 16
  | .untetherInterface interface =>
    s.mDaemon.isNone ∨ s.mInterfaces.erase interface ≠ []
  | .stopTethering | .tetherInterface _ => True

variable {s : State} {o : Outcomes}

/-- `applyDnsInterfaces` keeps the invariant, if the daemon agrees on what there is no command
for. -/
theorem Stored.applyDnsInterfaces (h : Stored s) (ho : o.delivered)
    (hshort : (extend updateIfaces s.mInterfaces).length < maxCmdSize)
    (hd : ∀ d, s.mDaemon = some d →
      (s.mDnsmasqState.updateDnsCmd ≠ [] ∨
        d.dns = some (s.mDnsNetId, s.mDnsForwarders.map String.toList) ∨
        d.dns = none ∧ s.mDnsNetId = 0 ∧ s.mDnsForwarders = []) ∧
      (s.mInterfaces = [] → Agree s d)) : Inv (s.applyDnsInterfaces o).1 := by
  rw [s.applyDnsInterfaces_eq ho hshort]
  refine ⟨⟨h.names, h.netId, h.servers, h.dnsCmd⟩, ?_⟩
  intro d' hd'
  refine ⟨rfl, ?_⟩
  by_cases hne : s.mInterfaces = []
  · simp only [hne] at hd'
    obtain ⟨-, hagree⟩ := hd d' hd'
    exact ⟨(hagree hne).ifaces, (hagree hne).dns⟩
  simp only [isEmpty_eq_false_iff.mpr hne] at hd'
  obtain ⟨d, hrun, rfl⟩ := Option.map_eq_some_iff.mp hd'
  have hstored : Stored { s with
      mDnsmasqState := ⟨ifacesCmd s.mInterfaces, s.mDnsmasqState.updateDnsCmd⟩ } :=
    ⟨h.names, h.netId, h.servers, h.dnsCmd⟩
  have hagree := hstored.agree rfl ho (.inl hne) (hd d hrun).1
  exact ⟨hagree.ifaces, hagree.dns⟩

theorem applyDnsInterfaces_mInterfaces (o : Outcomes) (s : State) :
    (s.applyDnsInterfaces o).1.mInterfaces = s.mInterfaces := by
  have hsend : ∀ s : State, (s.sendAllState o).1.mInterfaces = s.mInterfaces := by
    intro s
    unfold sendAllState
    split <;> rfl
  unfold applyDnsInterfaces
  dsimp only
  split
  · rfl
  · exact hsend _

theorem Inv.startTethering (h : Inv s) (ho : o.delivered)
    (hconf : s.Unconfigured ∨ s.mInterfaces ≠ [] ∧ s.mDnsmasqState.updateDnsCmd ≠ [])
    (hret : (s.startTethering o).2 = 0)
    (hshort : (extend updateIfaces (s.startTethering o).1.mInterfaces).length < maxCmdSize) :
    Inv (s.startTethering o).1 := by
  unfold State.startTethering at hret hshort ⊢
  split_ifs at hret hshort ⊢ with hrunning hspawn
  · exact h
  · exact absurd hret (by simpa using hspawn)
  · rw [applyDnsInterfaces_mInterfaces] at hshort
    have hstored : Stored { s with mDaemon := some {} } :=
      ⟨h.stored.names, h.stored.netId, h.stored.servers, h.stored.dnsCmd⟩
    refine hstored.applyDnsInterfaces ho hshort ?_
    intro d hd
    cases hd
    refine ⟨?_, ?_⟩
    · rcases hconf with hnone | ⟨-, hcmd⟩
      · exact .inr (.inr ⟨rfl, hnone⟩)
      · exact .inl hcmd
    · intro hne
      rcases hconf with hnone | ⟨hsome, -⟩
      · exact ⟨.inr ⟨rfl, hne⟩, .inr ⟨rfl, hnone⟩⟩
      · exact absurd hne hsome

theorem Inv.stopTethering (h : Inv s) : Inv s.stopTethering.1 := by
  unfold State.stopTethering
  split
  · exact h
  refine ⟨⟨h.stored.names, h.stored.netId, h.stored.servers, .inl rfl⟩, ?_⟩
  intro d hd
  cases hd

theorem Inv.tetherInterface (h : Inv s) (interface : String) (ho : o.delivered)
    (hret : (s.tetherInterface interface o).2 = 0) (hshort : (extend updateIfaces
      (s.tetherInterface interface o).1.mInterfaces).length < maxCmdSize) :
    Inv (s.tetherInterface interface o).1 := by
  unfold State.tetherInterface at hret hshort ⊢
  dsimp only at hret hshort ⊢
  split_ifs at hret hshort ⊢ with hname hrouter hok
  · exact h
  · exact h
  · simp [eremoteio] at hret
  · rw [applyDnsInterfaces_mInterfaces] at hshort
    have hstored : Stored { s with mInterfaces := s.mInterfaces ++ [interface] } := by
      refine ⟨?_, h.stored.netId, h.stored.servers, h.stored.dnsCmd⟩
      intro name hmem
      rcases mem_append.mp hmem with hmem | hmem
      · exact h.stored.names name hmem
      · rw [mem_singleton.mp hmem]
        exact plain_of_isIfaceName (by simpa using hname)
    refine hstored.applyDnsInterfaces ho hshort ?_
    intro d hd
    refine ⟨.inr (h.running d hd).2.dns, ?_⟩
    intro hempty
    simp at hempty

theorem Inv.untetherInterface (h : Inv s) (interface : String) (ho : o.delivered)
    (hconf : s.mDaemon.isNone ∨ s.mInterfaces.erase interface ≠ []) (hshort : (extend updateIfaces
      (s.untetherInterface interface o).1.mInterfaces).length < maxCmdSize) :
    Inv (s.untetherInterface interface o).1 := by
  unfold State.untetherInterface at hshort ⊢
  by_cases hmem : interface ∈ s.mInterfaces
  · rw [if_pos hmem] at hshort ⊢
    rw [applyDnsInterfaces_mInterfaces] at hshort
    have hstored : Stored { s with mInterfaces := s.mInterfaces.erase interface } :=
      ⟨fun name hname => h.stored.names name (mem_of_mem_erase hname), h.stored.netId,
        h.stored.servers, h.stored.dnsCmd⟩
    refine hstored.applyDnsInterfaces ho hshort ?_
    intro d hd
    refine ⟨.inr (h.running d hd).2.dns, ?_⟩
    intro hempty
    rcases hconf with hnone | hne
    · simp only at hd
      simp [hd] at hnone
    · exact absurd hempty hne
  · rw [if_neg hmem]
    exact h

theorem Inv.setDnsForwarders (h : Inv s) (servers : List String) (ho : o.delivered)
    (hnet : netId < 2 ^ 16) (hret : (s.setDnsForwarders hosts netId servers o).2 = 0) :
    Inv (s.setDnsForwarders hosts netId servers o).1 := by
  unfold State.setDnsForwarders at hret ⊢
  dsimp only at hret ⊢
  cases happend : appendServers hosts (updateDns ++ separator :: markText netId) [] servers with
  | none =>
    simp [happend, einval] at hret
  | some cf =>
    obtain ⟨cmd, forwarders⟩ := cf
    obtain ⟨taken, htaken, rfl, hplain⟩ := appendServers_spec happend
    obtain rfl : forwarders = taken := htaken
    simp only [sendAllState_eq _ ho]
    have hstored : Stored { s with
        mDnsForwarders := forwarders
        mDnsNetId := netId
        mDnsmasqState := ⟨s.mDnsmasqState.updateIfacesCmd, dnsCmd netId forwarders⟩ } :=
      ⟨h.stored.names, hnet, hplain, .inr rfl⟩
    refine ⟨⟨h.stored.names, hnet, hplain, .inr rfl⟩, ?_⟩
    intro d' hd'
    obtain ⟨d, hd, rfl⟩ := Option.map_eq_some_iff.mp hd'
    obtain ⟨hcmd, hagree⟩ := h.running d hd
    refine ⟨hcmd, ?_⟩
    have hne : dnsCmd netId forwarders ≠ [] := by
      have hle := length_le_length_extend (updateDns ++ separator :: markText netId) forwarders
      intro hempty
      rw [← dnsCmd, hempty] at hle
      simp at hle
    have hagree' := hstored.agree hcmd ho (.inr hagree.ifaces) (.inl hne)
    exact ⟨hagree'.ifaces, hagree'.dns⟩

theorem inv_init : Inv {} := by
  refine ⟨⟨by simp, by simp, by simp, .inl rfl⟩, ?_⟩
  intro d hd
  cases hd

theorem inv_step {c : Call × Outcomes} {s' : State} (h : Inv s) (hok : Successful hosts s c)
    (hconf : Configured s c.1) (hs : step hosts c s = some s') : Inv s' := by
  obtain ⟨call, o⟩ := c
  obtain ⟨ho, hret, hshort⟩ := hok
  cases hs
  cases call with
  | startTethering => exact h.startTethering ho hconf hret hshort
  | stopTethering => exact h.stopTethering
  | setDnsForwarders netId servers => exact h.setDnsForwarders servers ho hconf hret
  | tetherInterface interface => exact h.tetherInterface interface ho hret hshort
  | untetherInterface interface => exact h.untetherInterface interface ho hconf hshort

/-- The daemon has the interfaces and the DNS configuration of the controller. -/
theorem dnsmasq_configured (hosts : NumericHosts) {calls : List (Call × Outcomes)} {s : State}
    {d : Daemon}
    (hrun : Lts.Run (step hosts) (fun s c => Successful hosts s c ∧ Configured s c.1) {} calls s)
    (hd : s.mDaemon = some d) :
    (d.ifaces = some (s.mInterfaces.map String.toList) ∨ d.ifaces = none ∧ s.mInterfaces = []) ∧
    (d.dns = some (s.mDnsNetId, s.mDnsForwarders.map String.toList) ∨
      d.dns = none ∧ s.mDnsNetId = 0 ∧ s.mDnsForwarders = []) := by
  have h := hrun.invariant (I := fun _ s => Inv s) inv_init
    fun h hok hs => inv_step h hok.1 hok.2 hs
  obtain ⟨-, hagree⟩ := h.running d hd
  exact ⟨hagree.ifaces, hagree.dns⟩

/-! ## Runs -/

def sampleHosts : NumericHosts where
  accepts host := host = "8.8.8.8"
  plain host h := by
    have heq : host = "8.8.8.8" := by simpa using h
    subst heq
    decide

instance decidableSuccessful (hosts : NumericHosts) (s : State) (c : Call × Outcomes) :
    Decidable (Successful hosts s c) :=
  inferInstanceAs (Decidable (_ ∧ _ ∧ _))

instance decidableConfigured (s : State) : ∀ c, Decidable (Configured s c)
  | .startTethering => inferInstanceAs (Decidable ((_ ∧ _) ∨ _ ∧ _))
  | .setDnsForwarders _ _ => inferInstanceAs (Decidable (_ < _))
  | .untetherInterface _ => inferInstanceAs (Decidable (_ ∨ _))
  | .stopTethering => inferInstanceAs (Decidable True)
  | .tetherInterface _ => inferInstanceAs (Decidable True)

theorem dnsmasq_configured_started : ∃ s d, Lts.Run (step sampleHosts)
        (fun s c => Successful sampleHosts s c ∧ Configured s c.1) {}
        [(.startTethering, {}), (.setDnsForwarders 100 ["8.8.8.8"], {}),
          (.tetherInterface "wlan0", {})] s ∧
      s.mDaemon = some d ∧ s.mInterfaces = ["wlan0"] ∧
      (d.ifaces = some (s.mInterfaces.map String.toList) ∨ d.ifaces = none ∧ s.mInterfaces = []) ∧
      (d.dns = some (s.mDnsNetId, s.mDnsForwarders.map String.toList) ∨
        d.dns = none ∧ s.mDnsNetId = 0 ∧ s.mDnsForwarders = []) := by
  let as : List (Call × Outcomes) := [(.tetherInterface "wlan0", {}),
    (.setDnsForwarders 100 ["8.8.8.8"], {}), (.startTethering, {})]
  obtain ⟨s, hrun, hsome, hifaces⟩ : ∃ s, Lts.Run (step sampleHosts)
      (fun s c => Successful sampleHosts s c ∧ Configured s c.1) {} as.reverse s ∧
      s.mDaemon.isSome ∧ s.mInterfaces = ["wlan0"] := Lts.run_of_mem _ (by decide +kernel)
  obtain ⟨d, hd⟩ := Option.isSome_iff_exists.mp hsome
  exact ⟨s, d, hrun, hd, hifaces, dnsmasq_configured sampleHosts hrun hd⟩

/-- A restarted daemon has no DNS configuration, and serves the last interface after that is gone.
Every call returned 0. -/
theorem last_interface_stays : ∃ s d, Lts.Run (step sampleHosts) (Successful sampleHosts) {}
        [(.untetherInterface "wlan0", {}), (.startTethering, {}), (.stopTethering, {}),
          (.startTethering, {}), (.setDnsForwarders 100 ["8.8.8.8"], {}),
          (.tetherInterface "wlan0", {})] s ∧
      s.mDaemon = some d ∧
      d.ifaces = some ["wlan0".toList] ∧ s.mInterfaces = [] ∧
      d.dns = none ∧ s.mDnsNetId = 100 ∧ s.mDnsForwarders = ["8.8.8.8"] := by
  have hx : ((Lts.exec (step sampleHosts) (Successful sampleHosts)
      [(.tetherInterface "wlan0", {}), (.setDnsForwarders 100 ["8.8.8.8"], {}),
        (.startTethering, {}), (.stopTethering, {}), (.startTethering, {}),
        (.untetherInterface "wlan0", {})] {}).bind
      fun s => s.mDaemon.map fun d => decide (d.ifaces = some ["wlan0".toList] ∧
        s.mInterfaces = [] ∧ d.dns = none ∧ s.mDnsNetId = 100 ∧
        s.mDnsForwarders = ["8.8.8.8"])) = some true := by decide +kernel
  obtain ⟨s, hs, hmap⟩ := Option.bind_eq_some_iff.mp hx
  obtain ⟨d, hd, heq⟩ := Option.map_eq_some_iff.mp hmap
  exact ⟨s, d, Lts.Run.start.exec _ hs, hd, of_decide_eq_true heq⟩

end Netd.Dnsmasq
