import Netd.Resolv.PrivateDnsConfiguration

/-!
# What private DNS validation guarantees

`HasEntry c netId e` says that the tracker of `netId` has the binding `e`. A thread may record
its result when the configuration it was started for is gone, and then the record writes an entry
(`reinserts`).
-/

namespace Netd.PrivateDnsConfiguration

open List OrdMap CmpMap Option Netd.PrivateDnsConfiguration.System DnsTlsServer

variable {parseServer : String → Option SockaddrStorage} {c : PrivateDnsConfiguration}
  {netId mark n : Nat} {servers : List String} {name : String}
  {fingerprints : OrdSet (List Byte)} {server : DnsTlsServer} {success : Bool}
  {e : DnsTlsServer × Validation}

/-- The tracker of a network has a binding. -/
def HasEntry (c : PrivateDnsConfiguration) (netId : Nat) (e : DnsTlsServer × Validation) : Prop :=
  ∃ tracker, c.mPrivateDnsTransports.find? netId = some tracker ∧ e ∈ tracker.entries

theorem not_hasEntry_new : ¬ HasEntry new n e := by
  rintro ⟨tracker, htracker, -⟩
  cases htracker

theorem hasEntry_of_mem_getD (h : e ∈ ((c.mPrivateDnsTransports.find? netId).getD .empty).entries) :
    HasEntry c netId e := by
  cases htracker : c.mPrivateDnsTransports.find? netId with
  | none =>
    rw [htracker] at h
    cases h
  | some tracker =>
    rw [htracker] at h
    exact ⟨tracker, htracker, h⟩

theorem mem_validatedServers (h : server ∈ (c.getStatus netId).validatedServers) :
    HasEntry c netId (server, .success) := by
  simp only [getStatus] at h
  split at h
  · cases h
  split at h
  · cases h
  rename_i tracker htracker
  obtain ⟨d, hd, rfl⟩ := mem_map.mp h
  obtain ⟨hmem, hsucc⟩ := mem_filter.mp hd
  refine ⟨tracker, htracker, ?_⟩
  rwa [← of_decide_eq_true hsucc]

/-! ## Setting a configuration -/

/-- The servers that a call of `set` asks for, or `none` when one is malformed. -/
def requested (parseServer : String → Option SockaddrStorage) (servers : List String)
    (name : String) (fingerprints : OrdSet (List Byte)) : Option (List DnsTlsServer) :=
  servers.mapM fun s => (parseServer s).map (tlsServer name fingerprints)

theorem requested_cons {s : String} : requested parseServer (s :: servers) name fingerprints =
      (parseServer s).bind fun parsed =>
        (requested parseServer servers name fingerprints).map
          (tlsServer name fingerprints parsed :: ·) := by
  simp only [requested, mapM_cons]
  cases parseServer s with
  | none => rfl
  | some parsed =>
    cases hrest : servers.mapM fun s => (parseServer s).map (tlsServer name fingerprints) <;> simp

/-- The set of servers that a list of them makes. -/
def serverSet (l : List DnsTlsServer) (m : DnsTlsServerSet) : DnsTlsServerSet :=
  l.foldl (fun m server => m.assign server ()) m

theorem parseServers_eq (m : DnsTlsServerSet) :
    parseServers parseServer name fingerprints servers m =
      (requested parseServer servers name fingerprints).map (serverSet · m) := by
  induction servers generalizing m with
  | nil => rfl
  | cons s servers ih =>
    rw [requested_cons, parseServers]
    cases parseServer s with
    | none => rfl
    | some parsed =>
      show parseServers parseServer name fingerprints servers _ = _
      rw [ih, Option.bind_some, Option.map_map]
      rfl

variable {l : List DnsTlsServer} {tracker : PrivateDnsTracker} {m : DnsTlsServerSet}

theorem mem_serverSet {x : DnsTlsServer × Unit} (h : x ∈ (serverSet l m).entries) :
    x ∈ m.entries ∨ x.1 ∈ l := by
  induction l generalizing m with
  | nil => exact .inl h
  | cons server l ih =>
    rcases ih h with hx | hx
    · rcases mem_assign.mp hx with hx | rfl
      · exact .inl hx.1
      cases hfind : m.find? server with
      | none =>
        rw [storedKey_of_none hfind]
        exact .inr mem_cons_self
      | some d =>
        rw [storedKey_of_find? hfind]
        exact .inl (find?_eq_some.mp hfind).1
    · exact .inr (mem_cons_of_mem _ hx)

theorem find?_serverSet {k : DnsTlsServer} (h : ((serverSet l .empty).find? k).isSome = true) :
    ∃ server ∈ l, server.operatorEq k := by
  obtain ⟨x, hx⟩ := isSome_iff_exists.mp h
  obtain ⟨hmem, hequiv⟩ := find?_eq_some.mp hx
  rcases mem_serverSet hmem with hnil | hl
  · cases hnil
  · exact ⟨x.1, hl, equivalent_operatorLt.mp hequiv⟩

/-- Starting validations adds entries in process, under the servers' own keys or old ones. -/
theorem mem_startValidations (h : e ∈ (startValidations netId mark l tracker).1.entries) :
    e ∈ tracker.entries ∨ (e.2 = .inProcess ∧ (e.1 ∈ l ∨ ∃ v, (e.1, v) ∈ tracker.entries)) := by
  induction l generalizing tracker with
  | nil => exact .inl h
  | cons server l ih =>
    -- the entries after the first server, seen from the tracker before it
    have hassign : ∀ d ∈ (tracker.assign server .inProcess).entries,
        d ∈ tracker.entries ∨ (d.2 = .inProcess ∧
          (d.1 ∈ server :: l ∨ ∃ v, (d.1, v) ∈ tracker.entries)) := by
      intro d hd
      rcases mem_assign.mp hd with hd | rfl
      · exact .inl hd.1
      refine .inr ⟨rfl, ?_⟩
      cases hfind : tracker.find? server with
      | none =>
        rw [storedKey_of_none hfind]
        exact .inl mem_cons_self
      | some x =>
        rw [storedKey_of_find? hfind]
        exact .inr ⟨x.2, (find?_eq_some.mp hfind).1⟩
    simp only [startValidations] at h
    split at h
    · rcases ih h with he | ⟨hv, hl | ⟨v, hv'⟩⟩
      · exact hassign e he
      · exact .inr ⟨hv, .inl (mem_cons_of_mem _ hl)⟩
      rcases hassign _ hv' with he | ⟨-, he⟩
      · exact .inr ⟨hv, .inr ⟨v, he⟩⟩
      · exact .inr ⟨hv, he⟩
    · rcases ih h with he | ⟨hv, hl | hold⟩
      · exact .inl he
      · exact .inr ⟨hv, .inl (mem_cons_of_mem _ hl)⟩
      · exact .inr ⟨hv, .inr hold⟩

/-- A call of `set` turns private DNS off. -/
def TurnsOff (servers : List String) (name : String) (fingerprints : OrdSet (List Byte)) : Prop :=
  servers = [] ∧ name = "" ∧ fingerprints.entries = []

instance : Decidable (TurnsOff servers name fingerprints) := inferInstanceAs (Decidable (_ ∧ _))

theorem serverSet_ne_nil (h : m.entries ≠ [] ∨ l ≠ []) : (serverSet l m).entries ≠ [] := by
  induction l generalizing m with
  | nil => simpa [serverSet] using h
  | cons server l ih =>
    apply ih
    refine .inl fun hnil => ?_
    have hfind := m.find?_assign_self server ()
    simp [CmpMap.find?, hnil] at hfind

theorem modeFor_eq_off (hreq : requested parseServer servers name fingerprints = some l) :
    modeFor name fingerprints (serverSet l .empty) = .off ↔ TurnsOff servers name fingerprints := by
  have hnil : (serverSet l .empty).entries = [] ↔ servers = [] := by
    cases servers with
    | nil =>
      cases hreq
      simp [serverSet]
    | cons s servers =>
      have hl : l ≠ [] := by
        rintro rfl
        simp [requested_cons, bind_eq_some_iff] at hreq
      simpa using serverSet_ne_nil (.inr hl)
  rw [TurnsOff, ← hnil, modeFor]
  by_cases hname : name = "" <;> by_cases hprints : fingerprints.entries = [] <;>
    by_cases hset : (serverSet l .empty).entries = [] <;> simp [hname, hprints]

/-- What `set` does: nothing when a server is malformed; it drops the tracker when private DNS is
off; otherwise the tracker has old entries and ones in process, for the requested servers only. -/
theorem set_cases (c : PrivateDnsConfiguration) (parseServer : String → Option SockaddrStorage)
    (netId mark : Nat) (servers : List String) (name : String) (fingerprints : OrdSet (List Byte)) :
    let c' := (c.set parseServer netId mark servers name fingerprints).2.2
    (requested parseServer servers name fingerprints = none ∧ c' = c) ∨
    (TurnsOff servers name fingerprints ∧
      c'.mPrivateDnsTransports = c.mPrivateDnsTransports.erase netId ∧
      c'.mPrivateDnsModes = c.mPrivateDnsModes.insert netId .off) ∨
    (¬ TurnsOff servers name fingerprints ∧ ∃ l tracker mode,
      requested parseServer servers name fingerprints = some l ∧
      c'.mPrivateDnsTransports = c.mPrivateDnsTransports.insert netId tracker ∧
      c'.mPrivateDnsModes = c.mPrivateDnsModes.insert netId mode ∧
      ∀ e ∈ tracker.entries, (∃ server ∈ l, server.operatorEq e.1) ∧
        (e.2 = .inProcess ∨ HasEntry c netId e)) := by
  intro c'
  cases hreq : requested parseServer servers name fingerprints with
  | none =>
    refine .inl ⟨rfl, ?_⟩
    simp [c', set, parseServers_eq, hreq]
  | some l =>
    right
    have hc' : c' = (c.set parseServer netId mark servers name fingerprints).2.2 := rfl
    simp only [set, parseServers_eq, hreq, map_some] at hc'
    by_cases hoff : TurnsOff servers name fingerprints
    · have hmode := (modeFor_eq_off hreq).mpr hoff
      rw [if_pos hmode, hmode] at hc'
      exact .inl ⟨hoff, by rw [hc'], by rw [hc']⟩
    have hmode := mt (modeFor_eq_off hreq).mp hoff
    rw [if_neg hmode] at hc'
    refine .inr ⟨hoff, l, _, _, rfl, by rw [hc'], by rw [hc'], fun e he => ?_⟩
    have hkept : ∀ d ∈ (((c.mPrivateDnsTransports.find? netId).getD .empty).filter
        fun server _ => ((serverSet l .empty).find? server).isSome).entries,
        (∃ server ∈ l, server.operatorEq d.1) ∧ HasEntry c netId d := by
      intro d hd
      obtain ⟨hd, hcount⟩ := CmpMap.mem_filter.mp hd
      exact ⟨find?_serverSet hcount, hasEntry_of_mem_getD hd⟩
    rcases mem_startValidations he with he | ⟨hv, hl | ⟨v, hv'⟩⟩
    · exact ⟨(hkept e he).1, .inr (hkept e he).2⟩
    · obtain ⟨x, hx, hxe⟩ := mem_map.mp hl
      rcases mem_serverSet hx with hnil | hl
      · cases hnil
      · exact ⟨⟨e.1, hxe ▸ hl, (operatorEq_iff _ _).mpr rfl⟩, .inl hv⟩
    · exact ⟨(hkept _ hv').1, .inl hv⟩

/-- `set` leaves the entries of the other networks. -/
theorem set_hasEntry
    (h : HasEntry (c.set parseServer netId mark servers name fingerprints).2.2 n e) :
    (HasEntry c n e ∨ e.2 = .inProcess) ∧
      ((n ≠ netId ∨ requested parseServer servers name fingerprints = none) ∧ HasEntry c n e ∨
        n = netId ∧ ¬ TurnsOff servers name fingerprints ∧
          ∃ l, requested parseServer servers name fingerprints = some l ∧
            ∃ server ∈ l, server.operatorEq e.1) := by
  rcases set_cases c parseServer netId mark servers name fingerprints with
    ⟨hreq, hc⟩ | ⟨-, hc, -⟩ | ⟨hoff, l, tracker, mode, hreq, hc, -, hentries⟩
  · rw [hc] at h
    exact ⟨.inl h, .inl ⟨.inr hreq, h⟩⟩
  · obtain ⟨tr, htr, he⟩ := h
    rw [hc] at htr
    obtain ⟨hne, htr⟩ := find?_of_erase htr
    exact ⟨.inl ⟨tr, htr, he⟩, .inl ⟨.inl hne, tr, htr, he⟩⟩
  · obtain ⟨tr, htr, he⟩ := h
    rw [hc, find?_insert] at htr
    split at htr
    · rename_i heq
      cases htr
      obtain ⟨hserver, hstat⟩ := hentries e he
      exact ⟨heq ▸ hstat.symm, .inr ⟨heq, hoff, l, hreq, hserver⟩⟩
    · next hne => exact ⟨.inl ⟨tr, htr, he⟩, .inl ⟨.inl hne, tr, htr, he⟩⟩

theorem clear_hasEntry (h : HasEntry (c.clear netId) n e) : n ≠ netId ∧ HasEntry c n e := by
  obtain ⟨tr, htr, he⟩ := h
  obtain ⟨hne, htr⟩ := find?_of_erase htr
  exact ⟨hne, tr, htr, he⟩

theorem setCallback_hasEntry {callback : Nat} :
    HasEntry (c.setCallback callback) n e ↔ HasEntry c n e := by
  unfold setCallback
  split <;> rfl

/-! ## Recording a result -/

/-- A record would write an entry for a server that was removed from the tracker. -/
def reinserts (c : PrivateDnsConfiguration) (server : DnsTlsServer) (netId : Nat) : Bool :=
  match c.mPrivateDnsTransports.find? netId, c.mPrivateDnsModes.find? netId with
  | some tracker, some _ => findServer tracker server = .removed
  | _, _ => false

/-- What a record writes into a tracker: it does nothing without a tracker or a mode. -/
theorem record_cases (c : PrivateDnsConfiguration) (server : DnsTlsServer) (netId : Nat)
    (success : Bool) :
    let c' := (c.recordPrivateDnsValidation server netId success).2.2
    ((c.mPrivateDnsTransports.find? netId = none ∨ c.mPrivateDnsModes.find? netId = none) ∧
      c' = c) ∨
    (∃ tracker mode, c.mPrivateDnsTransports.find? netId = some tracker ∧
      c.mPrivateDnsModes.find? netId = some mode ∧
      c'.mPrivateDnsModes = c.mPrivateDnsModes ∧
      c'.mPrivateDnsTransports = c.mPrivateDnsTransports.insert netId (tracker.assign server
        (recordedStatus (findServer tracker server = .current && success)
          (findServer tracker server = .current && !success && mode = .strict)))) := by
  intro c'
  cases htracker : c.mPrivateDnsTransports.find? netId with
  | none =>
    left
    exact ⟨.inl rfl, by simp [c', recordPrivateDnsValidation, htracker]⟩
  | some tracker =>
    cases hmode : c.mPrivateDnsModes.find? netId with
    | none =>
      left
      exact ⟨.inr rfl, by simp [c', recordPrivateDnsValidation, htracker, hmode]⟩
    | some mode =>
      right
      refine ⟨tracker, mode, rfl, rfl, ?_, ?_⟩ <;>
        simp [c', recordPrivateDnsValidation, htracker, hmode]

theorem recordedStatus_eq_success {reevaluate : Bool} :
    recordedStatus success reevaluate = .success ↔ success = true := by
  cases success <;> cases reevaluate <;> simp [recordedStatus]

/-- After a record a network has old entries, one whose key was there, or one for a removed
server. -/
theorem record_hasEntry (h : HasEntry (c.recordPrivateDnsValidation server netId success).2.2 n e) :
    HasEntry c n e ∨ n = netId ∧
      ((∃ v, HasEntry c n (e.1, v) ∧
          (e.2 = .success → success = true ∧ e.1.operatorEq server)) ∨
        c.reinserts server netId = true ∧ e.1 = server ∧ e.2 ≠ .success) := by
  rcases record_cases c server netId success with
    ⟨-, hc⟩ | ⟨tracker, mode, htracker, hmode, -, hc⟩
  · rw [hc] at h
    exact .inl h
  · obtain ⟨tr, htr, he⟩ := h
    rw [hc, find?_insert] at htr
    split at htr
    · rename_i heq
      subst heq
      cases htr
      rcases mem_assign.mp he with hold | rfl
      · exact .inl ⟨tracker, htracker, hold.1⟩
      refine .inr ⟨rfl, ?_⟩
      cases hfind : tracker.find? server with
      | none =>
        have hremoved : findServer tracker server = .removed := by
          simp [findServer, hfind]
        refine .inr ⟨by simp [reinserts, htracker, hmode, hremoved], by simp [storedKey, hfind], ?_⟩
        simp [hremoved, recordedStatus]
      | some d =>
        rw [storedKey_of_find? hfind]
        refine .inl ⟨d.2, ⟨tracker, htracker, (find?_eq_some.mp hfind).1⟩, ?_⟩
        intro hsucc
        rw [recordedStatus_eq_success, Bool.and_eq_true] at hsucc
        obtain ⟨hcurrent, hs⟩ := hsucc
        refine ⟨hs, ?_⟩
        by_contra hne
        simp [findServer, hfind, hne] at hcurrent
    · exact .inl ⟨tr, htr, he⟩

/-! ## Steps -/

def configAfter (parseServer : String → Option SockaddrStorage) (c : PrivateDnsConfiguration) :
    Action → PrivateDnsConfiguration
  | .set netId mark servers name fingerprints =>
    (c.set parseServer netId mark servers name fingerprints).2.2
  | .clear netId => c.clear netId
  | .setCallback callback => c.setCallback callback
  | .validate _ _ => c
  | .record t success => (c.recordPrivateDnsValidation t.server t.netId success).2.2

/-- A step that does not record a result for a server that was removed. -/
def recordsPresent (s : System) : Action → Bool
  | .record t _ => !s.config.reinserts t.server t.netId
  | _ => true

section

variable {h : List Action} {s s' : System} {a : Action} {t : ValidateThread}

theorem step_config (hstep : step parseServer a s = some s') :
    s'.config = configAfter parseServer s.config a := by
  cases a with
  | set | clear | setCallback => exact (some.inj hstep) ▸ rfl
  | validate t success | record t success =>
    simp only [step] at hstep
    split at hstep
    · exact (some.inj hstep) ▸ rfl
    · cases hstep

theorem step_record_mem (hstep : step parseServer (.record t success) s = some s') :
    (t, .validated success) ∈ s.threads := by
  simp only [step] at hstep
  split at hstep
  · assumption
  · cases hstep

theorem step_validated (hstep : step parseServer a s = some s')
    (h : (t, .validated success) ∈ s'.threads) :
    (t, .validated success) ∈ s.threads ∨ a = .validate t success := by
  cases a with
  | set netId mark servers name fingerprints =>
    rw [← some.inj hstep] at h
    rcases mem_append.mp h with hold | hnew
    · exact .inl hold
    · obtain ⟨_, _, heq⟩ := mem_map.mp hnew
      cases heq
  | clear | setCallback =>
    rw [← some.inj hstep] at h
    exact .inl h
  | validate t' success' =>
    simp only [step] at hstep
    split at hstep
    · rw [← some.inj hstep] at h
      rcases mem_cons.mp h with heq | hold
      · cases heq
        exact .inr rfl
      · exact .inl (mem_of_mem_erase hold)
    · cases hstep
  | record t' success' =>
    simp only [step] at hstep
    split at hstep
    · rw [← some.inj hstep] at h
      left
      split at h
      · rcases mem_cons.mp h with heq | hold
        · cases heq
        · exact mem_of_mem_erase hold
      · exact mem_of_mem_erase h
    · cases hstep

/-! ## Validated servers were validated -/

/-- The runs of the configuration with its validation threads. -/
abbrev Run (parseServer : String → Option SockaddrStorage) : List Action → System → Prop :=
  Lts.Run (System.step parseServer) (fun _ _ => True) .new

/-- Every success, recorded or about to be, is backed by a `validate` call that returned true. -/
structure Backed (h : List Action) (s : System) : Prop where
  recorded : ∀ n k, HasEntry s.config n (k, .success) →
    ∃ t, Action.validate t true ∈ h ∧ t.netId = n ∧ t.server.operatorEq k
  pending : ∀ t, (t, .validated true) ∈ s.threads → Action.validate t true ∈ h

theorem Backed.step (hs : Backed h s) (hstep : step parseServer a s = some s') :
    Backed (a :: h) s' := by
  constructor
  · intro n k hk
    rw [step_config hstep] at hk
    have hback : HasEntry s.config n (k, .success) →
        ∃ t, Action.validate t true ∈ a :: h ∧ t.netId = n ∧ t.server.operatorEq k := by
      intro hold
      obtain ⟨t, ht, heq⟩ := hs.recorded n k hold
      exact ⟨t, mem_cons_of_mem _ ht, heq⟩
    cases a with
    | set netId mark servers name fingerprints =>
      rcases (set_hasEntry hk).1 with hold | hstat
      · exact hback hold
      · cases hstat
    | clear netId => exact hback (clear_hasEntry hk).2
    | setCallback callback => exact hback (setCallback_hasEntry.mp hk)
    | validate t success => exact hback hk
    | record t success =>
      rcases record_hasEntry hk with hold | ⟨rfl, ⟨v, -, hsucc⟩ | ⟨-, -, hne⟩⟩
      · exact hback hold
      · obtain ⟨rfl, heq⟩ := hsucc rfl
        have hmem := hs.pending t (step_record_mem hstep)
        exact ⟨t, mem_cons_of_mem _ hmem, rfl, heq.symm⟩
      · exact absurd rfl hne
  · intro t ht
    rcases step_validated hstep ht with hold | rfl
    · exact mem_cons_of_mem _ (hs.pending t hold)
    · exact mem_cons_self

/-- In every run, a server returned as validated equals one for which a `validate` call on that
network returned true. -/
theorem validatedServers_were_validated (hrun : Run parseServer h s) (netId : Nat)
    (server : DnsTlsServer) (hserver : server ∈ (s.config.getStatus netId).validatedServers) :
    ∃ t, Action.validate t true ∈ h ∧ t.netId = netId ∧ t.server.operatorEq server := by
  have hstart : Backed [] System.new :=
    ⟨fun n k hk => absurd hk not_hasEntry_new, fun t ht => absurd ht not_mem_nil⟩
  have hbacked : Backed h s := hrun.invariant hstart fun hs _ hstep => hs.step hstep
  exact hbacked.recorded netId server (mem_validatedServers hserver)

/-- Two servers, with their addresses and port 853 in network byte order. -/
def parseTestNet : String → Option SockaddrStorage
  | "192.0.2.1" => some (.inet ⟨21763, 16908480⟩)
  | "192.0.2.2" => some (.inet ⟨21763, 33685696⟩)
  | _ => none

/-- The thread that validates an address under a name on network 100. -/
def threadFor (sinAddr : Nat) (name : String) : ValidateThread :=
  ⟨tlsServer name .empty (.inet ⟨21763, sinAddr⟩), 100, 0⟩

/-- A server is configured, validated and recorded. -/
def strictRun : List Action :=
  [.set 100 0 ["192.0.2.1"] "dns.example" .empty, .validate (threadFor 16908480 "dns.example") true,
    .record (threadFor 16908480 "dns.example") true]

def after (as : List Action) : System :=
  (Lts.exec (System.step parseTestNet) (fun s a => recordsPresent s a = true) as .new).getD .new

theorem run_strictRun : Lts.Run (step parseTestNet) (fun s a => recordsPresent s a = true)
    .new strictRun.reverse (after strictRun) := by
  have hexec : Lts.exec (step parseTestNet) (fun s a => recordsPresent s a = true)
      strictRun .new = some (after strictRun) := by decide +kernel
  simpa using Lts.Run.start.exec strictRun hexec

theorem validatedServers_were_validated_strictRun : (threadFor 16908480 "dns.example").server ∈
        ((after strictRun).config.getStatus 100).validatedServers ∧
      ∃ t, Action.validate t true ∈ strictRun.reverse ∧ t.netId = 100 ∧
        t.server.operatorEq (threadFor 16908480 "dns.example").server := by
  have hmem : (threadFor 16908480 "dns.example").server ∈
      ((after strictRun).config.getStatus 100).validatedServers := by decide +kernel
  have hrun : Run parseTestNet strictRun.reverse (after strictRun) :=
    run_strictRun.mono fun _ _ _ => trivial
  exact ⟨hmem, validatedServers_were_validated hrun 100 _ hmem⟩

/-! ## Validated servers are configured -/

/-- The servers of the last successful `set` for a network, or `none` when that turned private DNS
off or the network was cleared after it. The last action comes first. -/
def latest (parseServer : String → Option SockaddrStorage) :
    List Action → Nat → Option (List DnsTlsServer)
  | [], _ => none
  | .set netId _ servers name fingerprints :: h, n =>
    if n = netId then
      match requested parseServer servers name fingerprints with
      | none => latest parseServer h n
      | some l => if TurnsOff servers name fingerprints then none else some l
    else latest parseServer h n
  | .clear netId :: h, n => if n = netId then none else latest parseServer h n
  | _ :: h, n => latest parseServer h n

/-- A network with a tracker has a mode and is configured. -/
def Tracked (parseServer : String → Option SockaddrStorage) (h : List Action)
    (c : PrivateDnsConfiguration) : Prop :=
  ∀ n tracker, c.mPrivateDnsTransports.find? n = some tracker →
    (∃ mode, c.mPrivateDnsModes.find? n = some mode) ∧ ∃ l, latest parseServer h n = some l

theorem Tracked.after (hs : Tracked parseServer h c) (a : Action) :
    Tracked parseServer (a :: h) (configAfter parseServer c a) := by
  intro n tracker htracker
  cases a with
  | set netId mark servers name fingerprints =>
    simp only [configAfter] at htracker ⊢
    rcases set_cases c parseServer netId mark servers name fingerprints with
      ⟨hreq, hc⟩ | ⟨-, htrans, hmodes⟩ | ⟨hoff, l, tr, mode, hreq, htrans, hmodes, -⟩
    · rw [hc] at htracker ⊢
      simpa [latest, hreq] using hs n tracker htracker
    · rw [htrans, find?_erase] at htracker
      rw [hmodes, find?_insert]
      split at htracker
      · cases htracker
      · next hne => simpa [latest, hne] using hs n tracker htracker
    · rw [htrans, find?_insert] at htracker
      rw [hmodes, find?_insert]
      split at htracker
      · next heq => simp [latest, heq, hreq, hoff]
      · next hne => simpa [latest, hne] using hs n tracker htracker
  | clear netId =>
    simp only [configAfter, clear, find?_erase] at htracker ⊢
    split at htracker
    · cases htracker
    · next hne => simpa [latest, hne] using hs n tracker htracker
  | setCallback callback =>
    have hsame : (c.setCallback callback).mPrivateDnsTransports = c.mPrivateDnsTransports ∧
        (c.setCallback callback).mPrivateDnsModes = c.mPrivateDnsModes := by
      unfold setCallback
      split <;> exact ⟨rfl, rfl⟩
    simp only [configAfter, hsame] at htracker ⊢
    exact hs n tracker htracker
  | validate t success => exact hs n tracker htracker
  | record t success =>
    simp only [configAfter] at htracker ⊢
    rcases record_cases c t.server t.netId success with
      ⟨-, hc⟩ | ⟨tr, mode, htr, -, hmodes, htrans⟩
    · rw [hc] at htracker ⊢
      exact hs n tracker htracker
    · rw [htrans, find?_insert] at htracker
      rw [hmodes]
      split at htracker
      · rename_i heq
        rw [heq]
        exact hs t.netId tr htr
      · exact hs n tracker htracker

theorem tracked (hrun : Run parseServer h s) : Tracked parseServer h s.config := by
  refine hrun.invariant (I := fun h s => Tracked parseServer h s.config) ?_ ?_
  · intro n tracker htracker
    cases htracker
  · intro h s a s' hs _ hstep
    rw [step_config hstep]
    exact hs.after a

/-- In every run, a network that was cleared or turned off, and not set since, has no
validated servers. -/
theorem validatedServers_eq_nil (hrun : Run parseServer h s)
    (hlast : latest parseServer h netId = none) :
    (s.config.getStatus netId).validatedServers = [] := by
  rw [eq_nil_iff_forall_not_mem]
  intro server hserver
  obtain ⟨tracker, htracker, -⟩ := mem_validatedServers hserver
  obtain ⟨-, l, hl⟩ := tracked hrun netId tracker htracker
  rw [hlast] at hl
  cases hl

def Configured (parseServer : String → Option SockaddrStorage) (h : List Action)
    (c : PrivateDnsConfiguration) : Prop :=
  ∀ n e, HasEntry c n e → ∃ l, latest parseServer h n = some l ∧ ∃ server ∈ l, server.operatorEq e.1

/-- Where an entry comes from: the step has kept its server, configured it, or recorded a result for
it after it had been removed. -/
theorem hasEntry_after {c : PrivateDnsConfiguration}
    (h : List Action) (he : HasEntry (configAfter parseServer c a) n e) :
    (∃ v, HasEntry c n (e.1, v) ∧ latest parseServer (a :: h) n = latest parseServer h n) ∨
    (∃ l, latest parseServer (a :: h) n = some l ∧ ∃ server ∈ l, server.operatorEq e.1) ∨
    ∃ t success, a = .record t success ∧ t.netId = n ∧ t.server = e.1 ∧
      c.reinserts t.server t.netId = true := by
  cases a with
  | set netId mark servers name fingerprints =>
    rcases (set_hasEntry he).2 with ⟨hne | hreq, hold⟩ | ⟨rfl, hoff, l, hreq, hserver⟩
    · exact .inl ⟨e.2, hold, by simp [latest, hne]⟩
    · exact .inl ⟨e.2, hold, by simp [latest, hreq]⟩
    · exact .inr (.inl ⟨l, by simp [latest, hreq, hoff], hserver⟩)
  | clear netId =>
    obtain ⟨hne, hold⟩ := clear_hasEntry he
    exact .inl ⟨e.2, hold, by simp [latest, hne]⟩
  | setCallback callback => exact .inl ⟨e.2, setCallback_hasEntry.mp he, rfl⟩
  | validate t success => exact .inl ⟨e.2, he, rfl⟩
  | record t success =>
    rcases record_hasEntry he with hold | ⟨rfl, ⟨v, hold, -⟩ | ⟨hremoved, hserver, -⟩⟩
    · exact .inl ⟨e.2, hold, rfl⟩
    · exact .inl ⟨v, hold, rfl⟩
    · exact .inr (.inr ⟨t, success, rfl, rfl, hserver.symm, hremoved⟩)

theorem Configured.after (hs : Configured parseServer h s.config)
    (hok : recordsPresent s a = true) :
    Configured parseServer (a :: h) (configAfter parseServer s.config a) := by
  intro n e he
  rcases hasEntry_after h he with ⟨v, hold, hlatest⟩ | hset | ⟨t, success, rfl, -, -, hremoved⟩
  · rw [hlatest]
    exact hs n (e.1, v) hold
  · exact hset
  · simp [recordsPresent, hremoved] at hok

/-- If no result is recorded for a removed server, the validated servers belong to the latest
configuration, and there are none after a `clear` or when private DNS is off. -/
theorem validatedServers_configured
    (hrun : Lts.Run (System.step parseServer) (fun s a => recordsPresent s a = true) .new h s)
    (netId : Nat) :
    (∀ server ∈ (s.config.getStatus netId).validatedServers,
      ∃ l, latest parseServer h netId = some l ∧ ∃ asked ∈ l, asked.operatorEq server) ∧
    (latest parseServer h netId = none → (s.config.getStatus netId).validatedServers = []) := by
  have hconfigured : Configured parseServer h s.config := by
    refine hrun.invariant (I := fun h s => Configured parseServer h s.config) ?_ ?_
    · intro n e he
      exact absurd he not_hasEntry_new
    · intro h s a s' hs hok hstep
      rw [step_config hstep]
      exact hs.after hok
  refine ⟨fun server hserver => ?_, validatedServers_eq_nil (hrun.mono fun _ _ _ => trivial)⟩
  exact hconfigured netId _ (mem_validatedServers hserver)

theorem validatedServers_configured_strictRun :
    ((after strictRun).config.getStatus 100).validatedServers =
        [(threadFor 16908480 "dns.example").server] ∧
      ∀ server ∈ ((after strictRun).config.getStatus 100).validatedServers,
        ∃ l, latest parseTestNet strictRun.reverse 100 = some l ∧
          ∃ asked ∈ l, asked.operatorEq server :=
  ⟨by decide +kernel, (validatedServers_configured run_strictRun 100).1⟩

/-- Two configurations alternate, and the threads of the first configuration finish last. -/
def alternation : List Action :=
  [.set 100 0 ["192.0.2.1"] "" .empty, .set 100 0 ["192.0.2.2"] "" .empty,
    .set 100 0 ["192.0.2.1"] "" .empty, .set 100 0 ["192.0.2.2"] "" .empty,
    .validate (threadFor 16908480 "") true, .record (threadFor 16908480 "") true,
    .validate (threadFor 16908480 "") true, .record (threadFor 16908480 "") true]

/-- A server that was removed is reported as validated. -/
theorem removed_server_validated : ∃ s, Run parseTestNet alternation.reverse s ∧
      (s.config.getStatus 100).validatedServers = [(threadFor 16908480 "").server] ∧
      latest parseTestNet alternation.reverse 100 = some [(threadFor 33685696 "").server] ∧
      ¬ (threadFor 33685696 "").server.operatorEq (threadFor 16908480 "").server :=
  Lts.run_of_mem alternation (by decide +kernel)

/-! ## Records of superseded validations -/

/-- The latest configuration of the network does not have the server. -/
def Superseded (parseServer : String → Option SockaddrStorage) (h : List Action) (netId : Nat)
    (server : DnsTlsServer) : Prop :=
  ∀ l, latest parseServer h netId = some l → ∀ asked ∈ l, ¬ asked.operatorEq server

/-- A result has been recorded for the server. -/
def WasRecorded (h : List Action) (netId : Nat) (server : DnsTlsServer) : Prop :=
  ∃ t success, Action.record t success ∈ h ∧ t.netId = netId ∧ t.server.operatorEq server

/-- An entry for a superseded server is one that a record has left. -/
theorem wasRecorded (hrun : Run parseServer h s) (hentry : HasEntry s.config netId e)
    (heq : e.1.operatorEq server) (hsuperseded : Superseded parseServer h netId server) :
    WasRecorded h netId server := by
  have hinv : ∀ n e, HasEntry s.config n e → Superseded parseServer h n e.1 →
      WasRecorded h n e.1 := by
    refine hrun.invariant (I := fun h s => ∀ n e, HasEntry s.config n e →
      Superseded parseServer h n e.1 → WasRecorded h n e.1) ?_ ?_
    · intro n e he
      exact absurd he not_hasEntry_new
    · intro h s a s' hs _ hstep n e he hsuperseded
      rw [step_config hstep] at he
      rcases hasEntry_after h he with ⟨v, hold, hlatest⟩ | ⟨l, hl, asked, hasked, heq⟩ |
        ⟨t, success, rfl, hnet, hserver, -⟩
      · rw [Superseded, hlatest] at hsuperseded
        obtain ⟨t, success, hmem, hsame⟩ := hs n (e.1, v) hold hsuperseded
        exact ⟨t, success, mem_cons_of_mem _ hmem, hsame⟩
      · exact absurd heq (hsuperseded l hl asked hasked)
      · exact ⟨t, success, mem_cons_self, hnet, (operatorEq_iff _ _).mpr (hserver ▸ rfl)⟩
  have hkey := (operatorEq_iff _ _).mp heq
  obtain ⟨t, success, hmem, hnet, hsame⟩ := hinv netId e hentry fun l hl asked hasked hsame =>
    hsuperseded l hl asked hasked
      ((operatorEq_iff _ _).mpr (((operatorEq_iff _ _).mp hsame).trans hkey))
  exact ⟨t, success, hmem, hnet,
    (operatorEq_iff _ _).mpr (((operatorEq_iff _ _).mp hsame).trans hkey)⟩

/-- What a record writes for an address that the tracker has: for a server that was changed it is a
failure, whatever the result. -/
theorem recordedStatus_eq {mode : PrivateDnsMode} (hfind : tracker.find? server = some e) :
    recordedStatus (findServer tracker server = .current && success)
        (findServer tracker server = .current && !success && mode = .strict) =
      if e.1.operatorEq server then recordedStatus success (mode = .strict) else .fail := by
  by_cases heq : e.1.operatorEq server <;> cases success <;> simp [findServer, hfind, heq,
    recordedStatus]

/-- A server is validated under a second name, and the validation under the first one fails last. -/
def renamed : List Action :=
  [.set 100 0 ["192.0.2.1"] "a.example" .empty, .set 100 0 ["192.0.2.1"] "b.example" .empty,
    .validate (threadFor 16908480 "b.example") true,
    .record (threadFor 16908480 "b.example") true,
    .validate (threadFor 16908480 "a.example") false]

end

end Netd.PrivateDnsConfiguration
