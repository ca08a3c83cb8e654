import Mathlib.Algebra.Group.Nat.Defs
import Netd.Bpf.BpfNetworkStats

/-!
# Traffic counters are conserved

What the kernel has counted is, between calls, in one of the two maps or in the lines of a
successful call. No program adds any more to the map that a call reads
(`Stage`), so each entry is read as it will be cleared. The traffic of an interface without a
name is in no line.
-/

namespace Netd.Bpf

open Tally List Function

variable {ν : Type} [AddCommMonoid ν] {ifaceMap : Nat → Option String}

/-- The total of some lines for an interface, a user, a tag and a set. -/
def lineTally (lines : List (StatsLine ν)) (k : LineKey) : StatsValue ν :=
  tally StatsLine.key StatsLine.stats lines k

def keyOf (ifaceMap : Nat → Option String) (key : StatsKey) : LineKey :=
  ⟨ifaceMap key.ifaceIndex, key.uid, key.tag, key.counterSet⟩

def mapTally (ifaceMap : Nat → Option String) (entries : List (StatsKey × StatsValue ν))
    (k : LineKey) : StatsValue ν :=
  tally (fun x => keyOf ifaceMap x.1) Prod.snd entries k

/-! ## Lines -/

theorem lineTally_append (lines lines' : List (StatsLine ν)) (k : LineKey) :
    lineTally (lines ++ lines') k = lineTally lines k + lineTally lines' k :=
  tally_append _ _ lines lines' k

/-- What is done in place is `group` of the sorted lines. -/
theorem groupInPlaceStats_eq {line : StatsLine ν} {rest lines : List (StatsLine ν)}
    (hperm : (line :: rest).Perm lines) :
    groupInPlaceStats lines (line :: rest) = group StatsLine.key StatsLine.add line rest := by
  unfold groupInPlaceStats
  split
  next hshort =>
    have hlen := hperm.length_eq
    obtain rfl : rest = [] := length_eq_zero_iff.mp (by simp at hlen; omega)
    exact (singleton_perm.mp hperm).symm ▸ rfl
  next => simpa using groupInPlace_eq StatsLine.key StatsLine.add rest [] [] line

theorem lineTally_groupNetworkStats (lines : List (StatsLine ν)) (k : LineKey) :
    lineTally (groupNetworkStats lines) k = lineTally lines k := by
  have hperm := mergeSort_perm lines fun lhs rhs => !rhs.lt lhs
  unfold groupNetworkStats
  cases hsorted : lines.mergeSort fun lhs rhs => !rhs.lt lhs with
  | nil =>
    rw [hsorted] at hperm
    obtain rfl := nil_perm.mp hperm
    rfl
  | cons line rest =>
    rw [hsorted] at hperm
    rw [groupInPlaceStats_eq hperm]
    exact (tally_group StatsLine.key StatsLine.stats StatsLine.add (fun _ _ => rfl)
      (fun _ _ => rfl) line rest k).trans (tally_perm _ _ hperm k)

def noLimits : Limits := ⟨[], tagAll, uidAll⟩

omit [AddCommMonoid ν] in
variable {lines : List (StatsLine ν)} {fails : Option Nat} {i : Nat} {configuration : StatsMapType}
  {key : StatsKey} {statsEntry : StatsValue ν} {k : LineKey}

theorem fails_of_error {limits : Limits} {code : Nat}
    (h : processDetailUidStats limits ifaceMap fails key statsEntry lines = .error code) :
    fails = some code := by
  unfold processDetailUidStats at h
  split at h
  · cases h
  split at h
  · cases h
  split at h
  · cases h
  split at h
  · cases h
  split at h
  · cases h
    rfl
  · cases h

/-- An entry without limits: it is in the lines if its interface has a name. -/
theorem processDetailUidStats_noLimits {lines' : List (StatsLine ν)}
    (h : processDetailUidStats noLimits ifaceMap fails key statsEntry lines = .ok lines')
    (hk : k.iface ≠ none) :
    lineTally lines' k = lineTally lines k + mapTally ifaceMap [(key, statsEntry)] k := by
  unfold processDetailUidStats at h
  split at h
  · rename_i hname
    cases h
    have hne : keyOf ifaceMap key ≠ k := by
      rintro rfl
      exact hk hname
    rw [mapTally, tally_cons, if_neg hne, tally_nil, add_zero, add_zero]
  · rename_i ifname hname
    simp only [noLimits, length_nil, gt_iff_lt, Nat.lt_irrefl, false_and, if_false,
      ne_eq, not_true_eq_false] at h
    split at h
    · cases h
    cases h
    rw [lineTally_append]
    have hkey : (populateStatsEntry key statsEntry ifname).key = keyOf ifaceMap key := by
      simp [populateStatsEntry, StatsLine.key, keyOf, hname]
    rw [lineTally, lineTally, mapTally, tally_cons, tally_cons, hkey]
    rfl

/-! ## The maps -/

theorem mapTally_upsert (key : StatsKey) (value : StatsValue ν)
    (entries : List (StatsKey × StatsValue ν)) (k : LineKey) :
    mapTally ifaceMap (upsert key value entries) k =
      mapTally ifaceMap [(key, value)] k + mapTally ifaceMap entries k := by
  rw [mapTally, tally_upsert, mapTally, tally_cons, tally_nil, add_zero]
  rfl

theorem mapTally_cons (x : StatsKey × StatsValue ν) (entries : List (StatsKey × StatsValue ν))
    (k : LineKey) :
    mapTally ifaceMap (x :: entries) k = mapTally ifaceMap [x] k + mapTally ifaceMap entries k :=
  tally_append _ _ [x] entries k

theorem StatsMapType.other_ne (m : StatsMapType) : m.other ≠ m := by
  cases m <;> simp [StatsMapType.other]

def bothTally (ifaceMap : Nat → Option String) (s : State ν) (k : LineKey) : StatsValue ν :=
  mapTally ifaceMap (s.maps .a) k + mapTally ifaceMap (s.maps .b) k

theorem bothTally_eq (s : State ν) (m : StatsMapType) (k : LineKey) : bothTally ifaceMap s k =
      mapTally ifaceMap (s.maps m) k + mapTally ifaceMap (s.maps m.other) k := by
  cases m with
  | a => rfl
  | b => exact add_comm _ _

/-! ## The invariant -/

/-- What is not reported yet: the maps, or the lines of a call that has read one of them. -/
def held (ifaceMap : Nat → Option String) (s : State ν) (k : LineKey) : StatsValue ν :=
  match s.thread with
  | .clearing configuration lines =>
    lineTally lines k + mapTally ifaceMap (s.maps configuration.other) k
  | _ => bothTally ifaceMap s k

/-- The programs that run do not use the map of the call, and all processors see that. -/
structure Swapped (configuration : StatsMapType) (s : State ν) : Prop where
  toggled : s.configuration = configuration.other
  settled : s.settled = true
  programs : ∀ p ∈ s.programs, p.map = configuration.other

/-- What holds at each step of a call. -/
def Stage (ifaceMap : Nat → Option String) (s : State ν) : Prop :=
  match s.thread with
  | .idle _ => True
  | .opened configuration => s.configuration = configuration
  | .toggled configuration => s.configuration = configuration.other
  | .waiting configuration before =>
    s.configuration = configuration.other ∧ s.settled = true ∧
      ∀ p ∈ s.programs, before ≤ p.id → p.map = configuration.other
  | .reading configuration i lines =>
    Swapped configuration s ∧ ∀ k : LineKey, k.iface ≠ none →
      lineTally lines k = mapTally ifaceMap ((s.maps configuration).take i) k
  | .clearing configuration _ => Swapped configuration s

structure Inv (ifaceMap : Nat → Option String) (s : State ν) : Prop where
  balance : ∀ k : LineKey, k.iface ≠ none →
    lineTally s.reported k + held ifaceMap s k = mapTally ifaceMap s.counted k
  ids : ∀ p ∈ s.programs, p.id < s.started
  stage : Stage ifaceMap s

variable {s s' : State ν}

/-! ### The kernel -/

theorem Inv.select (h : Inv ifaceMap s) {map : StatsMapType} (key : StatsKey)
    (value : StatsValue ν) (hmap : map = s.configuration ∨ s.settled = false) :
    Inv ifaceMap { s with
      programs := s.programs ++ [⟨s.started, map, key, value⟩]
      started := s.started + 1 } := by
  -- a program that starts when the configuration is settled selects that one
  have hprogs : ∀ {configuration : StatsMapType} {p : Program ν},
      s.configuration = configuration → s.settled = true →
      (p ∈ s.programs → p.map = configuration) →
      p ∈ s.programs ++ [⟨s.started, map, key, value⟩] → p.map = configuration := by
    intro configuration p hconf hsettled hold hp
    rcases mem_append.mp hp with hp | hp
    · exact hold hp
    · rw [mem_singleton.mp hp]
      exact (hmap.resolve_right (by simp [hsettled])).trans hconf
  refine ⟨h.balance, fun p hp => ?_, ?_⟩
  · rcases mem_append.mp hp with hp | hp
    · exact Nat.lt_succ_of_lt (h.ids p hp)
    · rw [mem_singleton.mp hp]
      exact Nat.lt_succ_self s.started
  · have hstage := h.stage
    unfold Stage at hstage ⊢
    split at hstage
    · rename_i heq
      simp only [heq]
    · rename_i heq
      simp only [heq]
      exact hstage
    · rename_i heq
      simp only [heq]
      exact hstage
    · rename_i heq
      simp only [heq]
      obtain ⟨hconf, hsettled, hold⟩ := hstage
      exact ⟨hconf, hsettled, fun p hp hid =>
        hprogs hconf hsettled (fun hp => hold p hp hid) hp⟩
    · rename_i heq
      simp only [heq]
      obtain ⟨⟨hconf, hsettled, hold⟩, hlines⟩ := hstage
      exact ⟨⟨hconf, hsettled, fun p hp => hprogs hconf hsettled (hold p) hp⟩, hlines⟩
    · rename_i heq
      simp only [heq]
      obtain ⟨hconf, hsettled, hold⟩ := hstage
      exact ⟨hconf, hsettled, fun p hp => hprogs hconf hsettled (hold p) hp⟩

theorem bothTally_upsert (map : StatsMapType) (key : StatsKey) (value : StatsValue ν)
    (hmaps : s'.maps = update s.maps map (upsert key value (s.maps map))) (k : LineKey) :
    bothTally ifaceMap s' k = mapTally ifaceMap [(key, value)] k + bothTally ifaceMap s k := by
  rw [bothTally_eq s' map, bothTally_eq s map, hmaps, update_self,
    update_of_ne map.other_ne, mapTally_upsert, add_assoc]

theorem Inv.add (h : Inv ifaceMap s) {p : Program ν} (hp : s.programs[i]? = some p) :
    Inv ifaceMap { s with
      maps := update s.maps p.map (upsert p.key p.value (s.maps p.map))
      programs := s.programs.eraseIdx i
      counted := (p.key, p.value) :: s.counted } := by
  have hmem : p ∈ s.programs := mem_of_getElem? hp
  have hrest : ∀ q ∈ s.programs.eraseIdx i, q ∈ s.programs := fun q hq => mem_of_mem_eraseIdx hq
  have hstage := h.stage
  unfold Stage at hstage
  refine ⟨fun k hk => ?_, fun q hq => h.ids q (hrest q hq), ?_⟩
  · rw [mapTally_cons, ← h.balance k hk, add_left_comm]
    refine congrArg (lineTally s.reported k + ·) ?_
    unfold held
    cases hthread : s.thread with
    | clearing configuration lines =>
      -- the program adds to the map that is not being cleared
      simp only [hthread] at hstage ⊢
      have hmap := hstage.programs p hmem
      rw [← hmap, update_self, mapTally_upsert, add_left_comm]
    | idle ret | opened configuration | toggled configuration | waiting configuration before
    | reading configuration i lines => exact bothTally_upsert p.map p.key p.value rfl k
  · unfold Stage
    cases hthread : s.thread with
    | idle ret => trivial
    | opened configuration | toggled configuration =>
      simp only [hthread] at hstage
      exact hstage
    | waiting configuration before =>
      simp only [hthread] at hstage
      exact ⟨hstage.1, hstage.2.1, fun q hq => hstage.2.2 q (hrest q hq)⟩
    | reading configuration i lines =>
      -- and not to the one that is being read
      simp only [hthread] at hstage
      obtain ⟨hswap, hlines⟩ := hstage
      have hne : configuration ≠ p.map := by
        rw [hswap.programs p hmem]
        exact configuration.other_ne.symm
      refine ⟨⟨hswap.toggled, hswap.settled, fun q hq => hswap.programs q (hrest q hq)⟩, ?_⟩
      simpa only [update_of_ne hne] using hlines
    | clearing configuration lines =>
      simp only [hthread] at hstage
      exact ⟨hstage.toggled, hstage.settled, fun q hq => hstage.programs q (hrest q hq)⟩

/-! ### The reading thread -/

section

variable (hthread : ∀ configuration lines, s.thread ≠ .clearing configuration lines)
include hthread

theorem held_eq (k : LineKey) : held ifaceMap s k = bothTally ifaceMap s k := by
  unfold held
  split
  · next configuration lines heq => exact absurd heq (hthread configuration lines)
  · rfl

theorem Inv.ret_failed (h : Inv ifaceMap s) {code : Nat} (hcode : code ≠ 0)
    (lines : List (StatsLine ν)) :
    Inv ifaceMap (s.ret (-(code : Int)) lines) := by
  have hret : (-(code : Int)) ≠ 0 := by omega
  refine ⟨fun k hk => ?_, h.ids, trivial⟩
  have hbalance := h.balance k hk
  rw [held_eq hthread k] at hbalance
  simp only [State.ret, if_neg hret]
  exact hbalance

/-- A step that leaves the maps. -/
theorem Inv.move (h : Inv ifaceMap s) (hmaps : s'.maps = s.maps)
    (hprogs : s'.programs = s.programs) (hstarted : s'.started = s.started)
    (hreported : s'.reported = s.reported) (hcounted : s'.counted = s.counted)
    (hheld : ∀ k, k.iface ≠ none → held ifaceMap s' k = bothTally ifaceMap s' k)
    (hstage : Stage ifaceMap s') : Inv ifaceMap s' := by
  refine ⟨fun k hk => ?_, ?_, hstage⟩
  · rw [hreported, hcounted, hheld k hk, ← h.balance k hk, held_eq hthread k, bothTally, bothTally,
      hmaps]
  · rw [hprogs, hstarted]
    exact h.ids

end

/-- The end of `iterate`: the lines have what is in the map. -/
theorem held_read (hend : (s.maps configuration)[i]? = none)
    (hlines : ∀ k : LineKey, k.iface ≠ none →
      lineTally lines k = mapTally ifaceMap ((s.maps configuration).take i) k)
    (hk : k.iface ≠ none) :
    lineTally (groupNetworkStats lines) k + mapTally ifaceMap (s.maps configuration.other) k =
      bothTally ifaceMap s k := by
  have htake : (s.maps configuration).take i = s.maps configuration :=
    take_of_length_le (List.getElem?_eq_none_iff.mp hend)
  rw [lineTally_groupNetworkStats, hlines k hk, htake, bothTally_eq s configuration]

theorem Inv.read (h : Inv ifaceMap s) (hthread : s.thread = .reading configuration i lines)
    (hcode : fails ≠ some 0) (hs : s.parseStep noLimits ifaceMap fails = some s') :
    Inv ifaceMap s' := by
  have hstage := h.stage
  simp only [Stage, hthread] at hstage
  obtain ⟨hswap, hlines⟩ := hstage
  simp only [State.parseStep, hthread] at hs
  split at hs
  · rename_i hend
    cases fails with
    | some code =>
      cases hs
      exact h.ret_failed (by simp [hthread]) (by simpa using hcode) lines
    | none =>
      cases hs
      exact h.move (by simp [hthread]) rfl rfl rfl rfl rfl
        (fun k hk => held_read hend hlines hk)
        ⟨hswap.toggled, hswap.settled, hswap.programs⟩
  · rename_i key statsEntry hentry
    split at hs
    · rename_i code herror
      cases hs
      rw [fails_of_error herror] at hcode
      exact h.ret_failed (by simp [hthread]) (by simpa using hcode) lines
    · rename_i lines' hprocess
      cases hs
      refine h.move (by simp [hthread]) rfl rfl rfl rfl rfl (fun _ _ => rfl)
        ⟨⟨hswap.toggled, hswap.settled, hswap.programs⟩, fun k hk => ?_⟩
      rw [processDetailUidStats_noLimits hprocess hk, hlines k hk, take_add_one, hentry]
      exact (tally_append _ _ _ _ k).symm

theorem Inv.clear (h : Inv ifaceMap s) (hthread : s.thread = .clearing configuration lines)
    (hs : s.parseStep noLimits ifaceMap none = some s') : Inv ifaceMap s' := by
  have hstage := h.stage
  simp only [Stage, hthread] at hstage
  simp only [State.parseStep, hthread] at hs
  split at hs
  · rename_i hempty
    cases hs
    refine ⟨fun k hk => ?_, h.ids, trivial⟩
    have hbalance := h.balance k hk
    simp only [held, hthread] at hbalance
    change lineTally (s.reported ++ lines) k + bothTally ifaceMap s k = _
    have hnone : mapTally ifaceMap ([] : List (StatsKey × StatsValue ν)) k = 0 := rfl
    rw [lineTally_append, bothTally_eq s configuration, hempty, hnone, zero_add, add_assoc]
    exact hbalance
  · rename_i rest hrest
    cases hs
    refine ⟨fun k hk => ?_, h.ids, ?_⟩
    · have hbalance := h.balance k hk
      simp only [held, hthread] at hbalance ⊢
      rwa [update_of_ne configuration.other_ne]
    · simp only [Stage]
      exact ⟨hstage.toggled, hstage.settled, hstage.programs⟩

theorem Inv.parse (h : Inv ifaceMap s) (hcode : fails ≠ some 0)
    (hclear : ∀ configuration lines, s.thread = .clearing configuration lines → fails = none)
    (hs : s.parseStep noLimits ifaceMap fails = some s') : Inv ifaceMap s' := by
  cases fails with
  | some code =>
    cases hthread : s.thread with
    | idle _ | opened _ | toggled _ | waiting _ _ =>
      simp only [State.parseStep, hthread] at hs
      cases hs
      exact h.ret_failed (by simp [hthread]) (by simpa using hcode) []
    | reading configuration i lines => exact h.read hthread hcode hs
    | clearing configuration lines => cases hclear configuration lines hthread
  | none =>
    have hstage := h.stage
    cases hthread : s.thread with
    | idle ret | opened configuration =>
      simp only [State.parseStep, hthread] at hs
      cases hs
      exact h.move (by simp [hthread]) rfl rfl rfl rfl rfl (fun _ _ => rfl) rfl
    | toggled configuration =>
      simp only [Stage, hthread] at hstage
      simp only [State.parseStep, hthread] at hs
      cases hs
      refine h.move (by simp [hthread]) rfl rfl rfl rfl rfl (fun _ _ => rfl) ⟨hstage, rfl, ?_⟩
      -- no program has started since
      intro p hp hid
      exact absurd (h.ids p hp) (Nat.not_lt.mpr hid)
    | waiting configuration before =>
      simp only [Stage, hthread] at hstage
      simp only [State.parseStep, hthread] at hs
      split at hs
      · rename_i hdone
        cases hs
        refine h.move (by simp [hthread]) rfl rfl rfl rfl rfl (fun _ _ => rfl) ?_
        exact ⟨⟨hstage.1, hstage.2.1, fun p hp => hstage.2.2 p hp (hdone p hp)⟩, fun _ _ => rfl⟩
      · cases hs
    | reading configuration i lines => exact h.read hthread hcode hs
    | clearing configuration lines => exact h.clear hthread hs

/-! ## Runs -/

/-- Steps fail with a code, and clearing does not fail. -/
def ClearsMaps (s : State ν) : Action ν → Prop
  | .parse fails =>
    fails ≠ some 0 ∧
      match s.thread with
      | .clearing _ _ => fails = none
      | _ => True
  | .select _ _ _ | .add _ => True

instance decidableClearsMaps (s : State ν) (a : Action ν) : Decidable (ClearsMaps s a) := by
  cases a with
  | parse fails =>
    unfold ClearsMaps
    cases s.thread <;> infer_instance
  | select map key value => exact isTrue trivial
  | add i => exact isTrue trivial

theorem inv_init : Inv ifaceMap (init : State ν) where
  balance k _ := by
    change (0 : StatsValue ν) + (0 + 0) = 0
    rw [add_zero, add_zero]
  ids _ hp := absurd hp not_mem_nil
  stage := trivial

theorem inv_step {a : Action ν} (h : Inv ifaceMap s) (hok : ClearsMaps s a)
    (hs : step noLimits ifaceMap a s = some s') : Inv ifaceMap s' := by
  cases a with
  | select map key value =>
    simp only [step] at hs
    split at hs
    · rename_i hmap
      cases hs
      exact h.select key value hmap
    · cases hs
  | add i =>
    simp only [step] at hs
    split at hs
    · cases hs
    rename_i p hp
    cases hs
    exact h.add hp
  | parse fails =>
    refine h.parse hok.1 (fun configuration lines hthread => ?_) hs
    have hfails := hok.2
    rwa [hthread] at hfails

/-- **Traffic counters are conserved across map swaps.** Whatever steps but clearing fail, the lines
of the successful calls without limits and the two maps have together what the kernel has
counted. -/
theorem counters_conserved {h : List (Action ν)} {s : State ν}
    (hrun : Lts.Run (step noLimits ifaceMap) ClearsMaps init h s) {ret : Int}
    (hidle : s.thread = .idle ret) (iface : String) (uid tag set : Nat) :
    lineTally s.reported ⟨some iface, uid, tag, set⟩ +
        (mapTally ifaceMap (s.maps .a) ⟨some iface, uid, tag, set⟩ +
          mapTally ifaceMap (s.maps .b) ⟨some iface, uid, tag, set⟩) =
      mapTally ifaceMap s.counted ⟨some iface, uid, tag, set⟩ := by
  have hinv : Inv ifaceMap s := hrun.invariant (I := fun _ s => Inv ifaceMap s) inv_init inv_step
  have hbalance := hinv.balance ⟨some iface, uid, tag, set⟩ (Option.some_ne_none iface)
  rwa [held_eq (by simp [hidle])] at hbalance

/-- A call whose wait fails, and then one that reads the other map while the kernel counts. -/
def sampleActions : List (Action Nat) :=
  [.select .a ⟨10007, 0, 0, 3⟩ ⟨1, 100, 0, 0⟩, .parse none, .parse none, .parse (some 24),
    .select .b ⟨10007, 0, 0, 3⟩ ⟨1, 60, 0, 0⟩, .add 0, .add 0, .parse none, .parse none,
    .parse none, .select .a ⟨10007, 0, 0, 3⟩ ⟨0, 0, 2, 90⟩, .parse none, .add 0, .parse none,
    .parse none, .parse none, .parse none]

theorem counters_conserved_sample : let ifaceMap : Nat → Option String := fun _ => some "wlan0"
    let k : LineKey := ⟨some "wlan0", 10007, 0, 0⟩
    ∃ (h : List (Action Nat)) (s : State Nat),
      Lts.Run (step noLimits ifaceMap) ClearsMaps init h s ∧ s.thread = .idle 0 ∧
      lineTally s.reported k = ⟨1, 60, 0, 0⟩ ∧
      lineTally s.reported k +
          (mapTally ifaceMap (s.maps .a) k + mapTally ifaceMap (s.maps .b) k) =
        mapTally ifaceMap s.counted k := by
  intro ifaceMap k
  obtain ⟨s, hrun, hidle, hlines⟩ : ∃ s,
      Lts.Run (step noLimits ifaceMap) ClearsMaps init sampleActions.reverse s ∧
        s.thread = .idle 0 ∧ lineTally s.reported k = ⟨1, 60, 0, 0⟩ :=
    Lts.run_of_mem _ (by decide +kernel)
  exact ⟨_, s, hrun, hidle, hlines, counters_conserved hrun hidle "wlan0" 10007 0 0⟩

end Netd.Bpf
