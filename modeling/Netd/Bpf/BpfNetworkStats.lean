import Mathlib.Algebra.Group.Int.Defs
import Netd.Lib.Lts
import Netd.Lib.Tally

/-!
# BpfNetworkStats

The kernel counts traffic in one of two maps. `parseBpfNetworkStatsDetail` makes it use the other
one, waits until no program of the kernel still uses the first, and then reads and clears that one.
It may return with an error between any two of these steps.

A program selects a map by the configuration map when it starts, and adds to it later. Before the
wait of `synchronize_rcu` a processor may still see the old configuration.
-/

namespace Netd.Bpf

open Tally

structure StatsKey where
  uid : Nat
  tag : Nat
  counterSet : Nat
  ifaceIndex : Nat
  deriving DecidableEq

@[ext]
structure StatsValue (ν : Type) where
  rxPackets : ν
  rxBytes : ν
  txPackets : ν
  txBytes : ν
  deriving DecidableEq

instance instAddStatsValue {ν : Type} [Add ν] : Add (StatsValue ν) :=
  ⟨fun a b => ⟨a.rxPackets + b.rxPackets, a.rxBytes + b.rxBytes, a.txPackets + b.txPackets,
    a.txBytes + b.txBytes⟩⟩

instance instZeroStatsValue {ν : Type} [Zero ν] : Zero (StatsValue ν) := ⟨⟨0, 0, 0, 0⟩⟩

instance instAddCommMonoidStatsValue {ν : Type} [AddCommMonoid ν] :
    AddCommMonoid (StatsValue ν) where
  add_assoc _ _ _ := StatsValue.ext (add_assoc _ _ _) (add_assoc _ _ _) (add_assoc _ _ _)
    (add_assoc _ _ _)
  zero_add _ := StatsValue.ext (zero_add _) (zero_add _) (zero_add _) (zero_add _)
  add_zero _ := StatsValue.ext (add_zero _) (add_zero _) (add_zero _) (add_zero _)
  add_comm _ _ := StatsValue.ext (add_comm _ _) (add_comm _ _) (add_comm _ _) (add_comm _ _)
  nsmul := nsmulRec

/-- A `stats_line`. Its four counters are in `stats`. -/
structure StatsLine (ν : Type) where
  iface : String
  uid : Nat
  set : Nat
  tag : Nat
  stats : StatsValue ν
  deriving DecidableEq

/-- What `operator==` of `stats_line` compares. -/
structure LineKey where
  iface : Option String
  uid : Nat
  tag : Nat
  set : Nat
  deriving DecidableEq

variable {ν : Type} [AddCommMonoid ν]

def StatsLine.key (line : StatsLine ν) : LineKey := ⟨some line.iface, line.uid, line.tag, line.set⟩

def StatsLine.lt (lhs rhs : StatsLine ν) : Bool :=
  if lhs.iface ≠ rhs.iface then lhs.iface < rhs.iface
  else if lhs.uid < rhs.uid then true
  else if lhs.uid > rhs.uid then false
  else if lhs.tag < rhs.tag then true
  else if lhs.tag > rhs.tag then false
  else if lhs.set < rhs.set then true
  else false

def StatsLine.add (lhs rhs : StatsLine ν) : StatsLine ν :=
  { lhs with stats := lhs.stats + rhs.stats }

/-- `groupNetworkStats`, with what `std::sort` has made of the lines. -/
def groupInPlaceStats (lines sorted : List (StatsLine ν)) : List (StatsLine ν) :=
  if lines.length ≤ 1 then lines
  else groupInPlace StatsLine.key StatsLine.add (sorted.length - 1) sorted 0 1

/-- `groupNetworkStats`, with a sort that leaves equal lines in their order. -/
def groupNetworkStats (lines : List (StatsLine ν)) : List (StatsLine ν) :=
  groupInPlaceStats lines (lines.mergeSort fun lhs rhs => !rhs.lt lhs)

def populateStatsEntry (statsKey : StatsKey) (statsEntry : StatsValue ν) (ifname : String) :
    StatsLine ν :=
  ⟨ifname, statsKey.uid, statsKey.counterSet, statsKey.tag, statsEntry⟩

def uidAll : Int := -1

def tagAll : Int := -1

structure Limits where
  limitIfaces : List String
  limitTag : Int
  limitUid : Int

/-- The conversion to `uint32_t`. -/
def toUint32 (n : Int) : Nat := (n % 2 ^ 32).toNat

/-- `processDetailUidStats`, with the lines so far. `fails` is the code of a failed `readValue`. -/
def processDetailUidStats (limits : Limits) (ifaceMap : Nat → Option String) (fails : Option Nat)
    (key : StatsKey) (statsEntry : StatsValue ν) (lines : List (StatsLine ν)) :
    Except Nat (List (StatsLine ν)) :=
  match ifaceMap key.ifaceIndex with
  | none => .ok lines
  | some ifname =>
    if limits.limitIfaces.length > 0 ∧ ifname ∉ limits.limitIfaces then .ok lines
    else if limits.limitTag ≠ tagAll ∧ toUint32 limits.limitTag ≠ key.tag then .ok lines
    else if limits.limitUid ≠ uidAll ∧ toUint32 limits.limitUid ≠ key.uid then .ok lines
    else
      match fails with
      | some code => .error code
      | none => .ok (lines ++ [populateStatsEntry key statsEntry ifname])

/-! ## The system -/

inductive StatsMapType where
  | a
  | b
  deriving DecidableEq

def StatsMapType.other : StatsMapType → StatsMapType
  | .a => .b
  | .b => .a

/-- A program of the kernel that has selected a map. -/
structure Program (ν : Type) where
  id : Nat
  map : StatsMapType
  key : StatsKey
  value : StatsValue ν

/-- Where `parseBpfNetworkStatsDetail` is. `configuration` is the value that it has read. -/
inductive Thread (ν : Type) where
  /-- Between calls, with the result of the last one. -/
  | idle (ret : Int)
  | opened (configuration : StatsMapType)
  /-- The configuration map has been written. -/
  | toggled (configuration : StatsMapType)
  /-- In `synchronizeKernelRCU`, for the programs that started before number `before`. -/
  | waiting (configuration : StatsMapType) (before : Nat)
  /-- In `iterate`, before entry `i`. -/
  | reading (configuration : StatsMapType) (i : Nat) (lines : List (StatsLine ν))
  | clearing (configuration : StatsMapType) (lines : List (StatsLine ν))
  deriving DecidableEq

structure State (ν : Type) where
  configuration : StatsMapType
  /-- Every processor sees the configuration. -/
  settled : Bool
  maps : StatsMapType → List (StatsKey × StatsValue ν)
  programs : List (Program ν)
  started : Nat
  thread : Thread ν
  /-- The lines that successful calls have returned. -/
  reported : List (StatsLine ν)
  /-- What the kernel has counted, in a map of its own. -/
  counted : List (StatsKey × StatsValue ν)

/-- The start. The maps are empty and map A is selected. -/
def init : State ν := ⟨.a, true, fun _ => [], [], 0, .idle 0, [], []⟩

namespace State

/-- A call returns, with its vector of lines. -/
def ret (code : Int) (lines : List (StatsLine ν)) (s : State ν) : State ν :=
  { s with
    thread := .idle code
    reported := if code = 0 then s.reported ++ lines else s.reported }

/-- One step of `parseBpfNetworkStatsDetail`. `fails` is the code of the step if it fails. -/
def parseStep (limits : Limits) (ifaceMap : Nat → Option String) (fails : Option Nat)
    (s : State ν) : Option (State ν) :=
  match s.thread, fails with
  | .idle _, some code => some (s.ret (-(code : Int)) [])
  | .idle _, none => some { s with thread := .opened s.configuration }
  | .opened _, some code => some (s.ret (-(code : Int)) [])
  | .opened configuration, none =>
    some { s with
      configuration := configuration.other
      settled := false
      thread := .toggled configuration }
  | .toggled _, some code => some (s.ret (-(code : Int)) [])
  | .toggled configuration, none =>
    some { s with settled := true, thread := .waiting configuration s.started }
  | .waiting _ _, some code => some (s.ret (-(code : Int)) [])
  | .waiting configuration before, none =>
    if ∀ p ∈ s.programs, before ≤ p.id then
      some { s with thread := .reading configuration 0 [] }
    else none
  | .reading configuration i lines, fails =>
    match (s.maps configuration)[i]? with
    | none =>
      match fails with
      | some code => some (s.ret (-(code : Int)) lines)
      | none => some { s with thread := .clearing configuration (groupNetworkStats lines) }
    | some (key, statsEntry) =>
      match processDetailUidStats limits ifaceMap fails key statsEntry lines with
      | .error code => some (s.ret (-(code : Int)) lines)
      | .ok lines => some { s with thread := .reading configuration (i + 1) lines }
  | .clearing _ lines, some code => some (s.ret (-(code : Int)) lines)
  | .clearing configuration lines, none =>
    match s.maps configuration with
    | [] => some (s.ret 0 lines)
    | _ :: rest => some { s with maps := Function.update s.maps configuration rest }

end State

inductive Action (ν : Type) where
  /-- A program of the kernel starts and selects a map. -/
  | select (map : StatsMapType) (key : StatsKey) (value : StatsValue ν)
  /-- A running program adds to its map and is done. -/
  | add (i : Nat)
  /-- The reading thread does its next step. -/
  | parse (fails : Option Nat)

def step (limits : Limits) (ifaceMap : Nat → Option String) (a : Action ν) (s : State ν) :
    Option (State ν) :=
  match a with
  | .select map key value =>
    if map = s.configuration ∨ s.settled = false then
      some { s with
        programs := s.programs ++ [⟨s.started, map, key, value⟩]
        started := s.started + 1 }
    else none
  | .add i =>
    match s.programs[i]? with
    | none => none
    | some p =>
      some { s with
        maps := Function.update s.maps p.map (upsert p.key p.value (s.maps p.map))
        programs := s.programs.eraseIdx i
        counted := (p.key, p.value) :: s.counted }
  | .parse fails => s.parseStep limits ifaceMap fails

end Netd.Bpf
