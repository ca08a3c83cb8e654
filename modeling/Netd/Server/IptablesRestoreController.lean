import Netd.Lib.Lts
import Netd.Lib.Marker
import Netd.Resolv.HostLookups

/-!
# IptablesRestoreController

netd keeps an `iptables-restore` and an `ip6tables-restore` process and writes its commands to
their standard input. After a command it writes a ping, which is a comment that the process echoes,
and it waits until it finds the ping in the output of the process. `sendCommand` takes a step here
for each system call it makes, and between any two of them the processes take steps of their own.

A call that gives up after `MAX_RETRIES` stops the process. If `poll` fails in
`drainAndWaitForAck`, or a write fails, it does not, and the next call takes the answer for its
own.
-/

namespace Netd.IptablesRestore

open List Option Marker

inductive IptablesProcessType where
  | iptablesProcess
  | ip6tablesProcess
  deriving DecidableEq

def ping : List Byte := ascii "#PING\n"

/-! ## The child -/

/-- What was written to a child: text of a command, or a ping, and the call it is for. -/
inductive Chunk where
  | text (call : Nat) (bytes : List Byte)
  | ping (call : Nat)
  deriving DecidableEq

/-- What a child did. -/
inductive Deed where
  | took (chunk : Chunk)
  | wrote (b : Byte)
  deriving DecidableEq

/-- Whether a child runs, has died, or was stopped, which sets `processTerminated`. -/
inductive Life where
  | running
  | died
  | stopped
  deriving DecidableEq

structure IptablesProcess where
  life : Life
  /-- What the child has not taken yet, and what netd has not read yet. -/
  stdIn : List Chunk
  stdOut : List Byte
  /-- It has taken text and no ping after it. -/
  busy : Bool
  /-- What it wrote for the text that it took last. -/
  written : List Byte
  history : List Deed
  deriving DecidableEq

namespace IptablesProcess

def new : IptablesProcess := ⟨.running, [], [], false, [], []⟩

def alive (p : IptablesProcess) : Bool := p.life = .running

def processTerminated (p : IptablesProcess) : Bool := p.life = .stopped

/-- The child is dead when `waitpid` returns. -/
def stop (p : IptablesProcess) : IptablesProcess :=
  if p.processTerminated then p else { p with life := .stopped }

theorem stop_eq (p : IptablesProcess) : p.stop = { p with life := .stopped } := by
  rcases p with ⟨_ | _ | _⟩ <;> rfl

inductive Action where
  | take
  | write (b : Byte)
  | die

/-- The child takes what was written to it, and echoes it if it is a ping. -/
def take (p : IptablesProcess) : Option IptablesProcess :=
  match p.stdIn with
  | [] => none
  | .text call bytes :: rest =>
    some { p with
      stdIn := rest
      busy := true
      written := []
      history := p.history ++ [.took (.text call bytes)] }
  | .ping call :: rest =>
    some { p with
      stdIn := rest
      stdOut := p.stdOut ++ ping
      busy := false
      history := p.history ++ [.took (.ping call)] }

/-- A step of a child that is alive. -/
def act (p : IptablesProcess) : Action → Option IptablesProcess
  | .take => if p.alive then p.take else none
  | .write b =>
    if p.alive ∧ p.busy then
      some { p with
        stdOut := p.stdOut ++ [b]
        written := p.written ++ [b]
        history := p.history ++ [.wrote b] }
    else none
  | .die => if p.alive then some { p with life := .died } else none

/-- The steps of a child. -/
inductive Acts (p : IptablesProcess) : Action → IptablesProcess → Prop where
  | text {call : Nat} {bytes : List Byte} {rest : List Chunk} :
      p.stdIn = .text call bytes :: rest →
      Acts p .take { p with
        stdIn := rest
        busy := true
        written := []
        history := p.history ++ [.took (.text call bytes)] }
  | ping {call : Nat} {rest : List Chunk} :
      p.stdIn = .ping call :: rest →
      Acts p .take { p with
        stdIn := rest
        stdOut := p.stdOut ++ ping
        busy := false
        history := p.history ++ [.took (.ping call)] }
  | write (b : Byte) :
      p.busy = true →
      Acts p (.write b) { p with
        stdOut := p.stdOut ++ [b]
        written := p.written ++ [b]
        history := p.history ++ [.wrote b] }
  | die : Acts p .die { p with life := .died }

theorem acts_of_act {p p' : IptablesProcess} {a : Action} (h : p.act a = some p') :
    p.alive = true ∧ Acts p a p' := by
  cases a with
  | take =>
    obtain ⟨halive, htake⟩ : p.alive = true ∧ p.take = some p' := by simpa [act] using h
    refine ⟨halive, ?_⟩
    unfold take at htake
    split at htake
    · cases htake
    · obtain rfl := some.inj htake
      exact .text ‹_›
    · obtain rfl := some.inj htake
      exact .ping ‹_›
  | write b =>
    obtain ⟨⟨halive, hbusy⟩, rfl⟩ : (p.alive = true ∧ p.busy = true) ∧ _ = p' := by
      simpa [act] using h
    exact ⟨halive, .write b hbusy⟩
  | die =>
    obtain ⟨halive, rfl⟩ : p.alive = true ∧ _ = p' := by simpa [act] using h
    exact ⟨halive, .die⟩

end IptablesProcess

/-! ## sendCommand -/

/-- A call of `sendCommand`, with `*output` at its start and now. -/
structure Call where
  id : Nat
  type : IptablesProcessType
  command : List Byte
  start : List Byte
  output : List Byte
  deriving DecidableEq

/-- The events of `poll` for the two descriptors. -/
structure Revents where
  outIn : Bool
  outHup : Bool
  errHup : Bool

/-- Where the call is. The numbers are `timeout`. -/
inductive Pc where
  | idle
  /-- About to call `outputReady`. -/
  | checking (c : Call)
  /-- About to call `forkAndExec`. -/
  | forking (c : Call)
  /-- About to write the command. -/
  | writing (c : Call)
  /-- About to write the ping. -/
  | pinging (c : Call)
  | polling (c : Call) (timeout : Nat)
  /-- In the loop that reads from the standard output. -/
  | reading (c : Call) (timeout : Nat) (revents : Revents) (receivedAck : Bool)

def Pc.call? : Pc → Option Call
  | .idle => none
  | .checking c => some c
  | .forking c => some c
  | .writing c => some c
  | .pinging c => some c
  | .polling c _ => some c
  | .reading c _ _ _ => some c

/-- A call that has returned, with the current process at that time. -/
structure Returned where
  call : Call
  ret : Int
  process : Option IptablesProcess
  deriving DecidableEq

structure State where
  process : IptablesProcessType → Option IptablesProcess
  pc : Pc
  calls : Nat
  returned : List Returned

/-- `Init`, where each `forkAndExec` has succeeded or not. -/
def init (forked : IptablesProcessType → Bool) : State :=
  { process := fun t => if forked t then some .new else none
    pc := .idle
    calls := 0
    returned := [] }

inductive PollResult where
  | failed
  | timeout
  | events (revents : Revents)

inductive ReadResult where
  | data (size : Nat)
  | eof
  /-- `EAGAIN` or any other error. -/
  | failed

inductive Action where
  | sendCommand (type : IptablesProcessType) (command start : List Byte)
  | outputReady (ready : Bool)
  | forkAndExec (succeeds : Bool)
  /-- `WriteFully`, which may fail after some bytes. -/
  | writeFully (failsAfter : Option Nat)
  | poll (result : PollResult)
  | read (result : ReadResult)
  | child (type : IptablesProcessType) (a : IptablesProcess.Action)

namespace State

def setProcess (s : State) (t : IptablesProcessType) (p : IptablesProcess) : State :=
  { s with process := Function.update s.process t (some p) }

/-- The child is dead when `waitpid` returns. -/
def stop (s : State) (t : IptablesProcessType) : State :=
  match s.process t with
  | some p => s.setProcess t p.stop
  | none => s

def ret (s : State) (c : Call) (r : Int) : State :=
  { s with pc := .idle, returned := ⟨c, r, s.process c.type⟩ :: s.returned }

/-- After the loop of `drainAndWaitForAck`. -/
def finish (s : State) (c : Call) (receivedAck : Bool) : State :=
  if receivedAck then s.ret c 0 else (s.stop c.type).ret c (-1)

/-- The head of the loop of `drainAndWaitForAck`. -/
def loop (maxRetries : Nat) (s : State) (c : Call) (timeout : Nat) (receivedAck : Bool) : State :=
  if ¬receivedAck ∧ timeout < maxRetries then { s with pc := .polling c (timeout + 1) }
  else s.finish c receivedAck

/-- After the loop that reads from the standard output. A `POLLHUP` of either descriptor stops
the process. -/
def afterStdout (maxRetries : Nat) (s : State) (c : Call) (timeout : Nat) (revents : Revents)
    (receivedAck : Bool) : State :=
  if revents.outHup ∨ revents.errHup then
    (s.stop c.type).loop maxRetries c timeout receivedAck
  else s.loop maxRetries c timeout receivedAck

end State

/-- Accumulate what was read into `*output`, and look for the ping. -/
def accumulate (c : Call) (receivedAck : Bool) (buffer : List Byte) : Call × Bool :=
  match find ping (c.output ++ buffer) with
  | some pos => ({ c with output := (c.output ++ buffer).take pos }, true)
  | none => ({ c with output := c.output ++ buffer }, receivedAck)

def pipeBuf : Nat := 4096

def step (maxRetries : Nat) : Action → State → Option State
  | .sendCommand t command start, s =>
    match s.pc with
    | .idle =>
      let c : Call := ⟨s.calls, t, command, start, start⟩
      let pc := if (s.process t).isSome then .checking c else .forking c
      some { s with pc := pc, calls := s.calls + 1 }
    | _ => none
  | .outputReady ready, s =>
    match s.pc, ready with
    | .checking c, true =>
      -- a pipe without a reader is not ready
      if (s.process c.type).any (·.alive) then some { s with pc := .writing c } else none
    | .checking c, false => some { s.stop c.type with pc := .forking c }
    | _, _ => none
  | .forkAndExec succeeds, s =>
    match s.pc with
    | .forking c =>
      if succeeds then some { s.setProcess c.type .new with pc := .writing c }
      else some (s.ret c (-1))
    | _ => none
  | .writeFully failsAfter, s =>
    match s.pc with
    | .writing c =>
      match s.process c.type, failsAfter with
      | some p, none =>
        -- nothing is written for an empty command
        if p.alive ∨ c.command = [] then
          some { s.setProcess c.type
              { p with stdIn := p.stdIn ++ [.text c.id c.command] } with
            pc := .pinging c }
        else none
      | some p, some k =>
        some ((s.setProcess c.type
          { p with stdIn := p.stdIn ++ [.text c.id (c.command.take k)] }).ret c (-1))
      | none, _ => none
    | .pinging c =>
      match s.process c.type, failsAfter with
      | some p, none =>
        if p.alive then
          some ((s.setProcess c.type { p with stdIn := p.stdIn ++ [.ping c.id] }).loop
            maxRetries c 0 false)
        else none
      | some p, some k =>
        some ((s.setProcess c.type
          { p with stdIn := p.stdIn ++ [.text c.id (ping.take k)] }).ret c (-1))
      | none, _ => none
    | _ => none
  | .poll result, s =>
    match s.pc, result with
    | .polling c _, .failed => some (s.ret c (-1))
    | .polling c timeout, .timeout => some (s.loop maxRetries c timeout false)
    | .polling c timeout, .events revents =>
      if revents.outIn then some { s with pc := .reading c timeout revents false }
      else some (s.afterStdout maxRetries c timeout revents false)
    | _, _ => none
  | .read result, s =>
    match s.pc with
    | .reading c timeout revents receivedAck =>
      match s.process c.type, result with
      | some p, .data size =>
        if 0 < size ∧ size ≤ pipeBuf ∧ size ≤ p.stdOut.length then
          let (c, receivedAck) := accumulate c receivedAck (p.stdOut.take size)
          some { s.setProcess c.type { p with stdOut := p.stdOut.drop size } with
            pc := .reading c timeout revents receivedAck }
        else none
      | some p, .eof =>
        if p.alive ∨ p.stdOut ≠ [] then none
        else
          let (c, receivedAck) := accumulate c receivedAck []
          some (s.afterStdout maxRetries c timeout revents receivedAck)
      | some _, .failed => some (s.afterStdout maxRetries c timeout revents receivedAck)
      | none, _ => none
    | _ => none
  | .child t a, s =>
    match s.process t with
    | some p => (p.act a).map (s.setProcess t)
    | none => none

/-! ## Careful runs -/

def State.processDead (s : State) : Bool :=
  s.pc.call?.all fun c => (s.process c.type).all fun p => !p.alive

/-- `*output` at the start of the call, if it is a call for this process. -/
def State.startFor (s : State) (t : IptablesProcessType) : List Byte :=
  match s.pc.call? with
  | some c => if c.type = t then c.start else []
  | none => []

/-- No write and no `poll` of `drainAndWaitForAck` fails while the process lives. The ping is not in
`*output` at first, and no command's output completes one. -/
def Careful (s : State) : Action → Prop
  | .sendCommand _ _ start => ¬ping <:+: start
  | .writeFully (some _) => s.processDead = true
  | .poll .failed => s.processDead = true
  | .child t (.write b) =>
    ¬ping <:+: s.startFor t ++ ((s.process t).elim [] (·.written) ++ [b])
  | _ => True

instance Careful.decidable (s : State) : ∀ a, Decidable (Careful s a)
  | .sendCommand _ _ start => inferInstanceAs (Decidable (¬ping <:+: start))
  | .writeFully (some _) => inferInstanceAs (Decidable (s.processDead = true))
  | .writeFully none => .isTrue trivial
  | .poll .failed => inferInstanceAs (Decidable (s.processDead = true))
  | .poll .timeout => .isTrue trivial
  | .poll (.events _) => .isTrue trivial
  | .child t (.write b) => inferInstanceAs
      (Decidable (¬ping <:+: s.startFor t ++ ((s.process t).elim [] (·.written) ++ [b])))
  | .child _ .take => .isTrue trivial
  | .child _ .die => .isTrue trivial
  | .outputReady _ => .isTrue trivial
  | .forkAndExec _ => .isTrue trivial
  | .read _ => .isTrue trivial

/-! ## What a process has done for a call -/

/-- Nothing is left of earlier calls. -/
structure Clean (p : IptablesProcess) : Prop where
  stdIn : p.stdIn = []
  stdOut : p.stdOut = []
  busy : p.busy = false

/-- A process between two calls: if it can be used again, it is clean. -/
def Settled (p : IptablesProcess) : Prop := p.alive = true → Clean p

def Answered (c : Call) (p : IptablesProcess) : Prop :=
  ∃ before, p.history = before ++ .took (.text c.id c.command) ::
    (p.written.map .wrote ++ [.took (.ping c.id)])

/-- How far a process is with a call, and all it has written since. `pings` is what was written to
it of the ping. -/
inductive Serving (c : Call) (pings : List Chunk) (p : IptablesProcess) : List Byte → Prop where
  | queued : p.stdIn = .text c.id c.command :: pings → p.busy = false → ¬ping <:+: c.start →
      Serving c pings p []
  | busy (before : List Deed) : p.stdIn = pings → p.busy = true →
      p.history = before ++ .took (.text c.id c.command) :: p.written.map .wrote →
      ¬ping <:+: c.start ++ p.written → Serving c pings p p.written
  | done : pings = [.ping c.id] → p.stdIn = [] → p.busy = false → Answered c p →
      ¬ping <:+: c.start ++ p.written → Serving c pings p (p.written ++ ping)

/-- The call waits for the ping. It has read a part of what the process has written. -/
structure Waiting (c : Call) (p : IptablesProcess) : Prop where
  serving : ∃ given stream, Serving c [.ping c.id] p stream ∧ given ++ p.stdOut = stream ∧
    c.output = c.start ++ given
  no_ping : ¬ping <:+: c.output

structure Acknowledged (c : Call) (p : IptablesProcess) : Prop where
  clean : Clean p
  answered : Answered c p
  output : c.output = c.start ++ p.written
  no_ping : ¬ping <:+: c.output

/-- A process during `drainAndWaitForAck`. -/
def Draining (c : Call) (receivedAck : Bool) (p : IptablesProcess) : Prop :=
  if receivedAck then Acknowledged c p else Waiting c p

section Child

variable {c : Call} {pings : List Chunk} {p p' : IptablesProcess} {stream : List Byte}

theorem Clean.settled (h : Clean p) : Settled p := fun _ => h

theorem settled_of_dead (h : p.alive = false) : Settled p := by
  intro halive
  rw [h] at halive
  cases halive

variable {receivedAck : Bool} {a : IptablesProcess.Action}

theorem Clean.acts (h : Clean p) (hact : p.Acts a p') : p' = { p with life := .died } := by
  cases hact with
  | text hin | ping hin => cases hin.symm.trans h.stdIn
  | write b hbusy => cases hbusy.symm.trans h.busy
  | die => rfl

theorem Settled.act (h : Settled p) (hact : p.act a = some p') : Settled p' := by
  obtain ⟨halive, hacts⟩ := IptablesProcess.acts_of_act hact
  obtain rfl := (h halive).acts hacts
  exact settled_of_dead rfl

/-- What a step of the process adds to what it has written for the call. -/
theorem Serving.acts (h : Serving c pings p stream) (hpings : pings = [] ∨ pings = [.ping c.id])
    (hquiet : ∀ b, a = .write b → ¬ping <:+: c.start ++ (p.written ++ [b])) (hact : p.Acts a p') :
    ∃ new, p'.stdOut = p.stdOut ++ new ∧ Serving c pings p' (stream ++ new) := by
  cases h with
  | queued hin hbusy hstart =>
    cases hact with
    | text hin' =>
      obtain ⟨⟨rfl, rfl⟩, rfl⟩ : (_ ∧ _) ∧ _ := by simpa [hin] using hin'
      exact ⟨[], by simp, .busy p.history rfl rfl (by simp) (by simpa using hstart)⟩
    | ping hin' => simp [hin] at hin'
    | write b hbusy' => cases hbusy'.symm.trans hbusy
    | die => exact ⟨[], by simp, .queued hin hbusy hstart⟩
  | busy before hin hbusy hhistory hno =>
    cases hact with
    | text hin' => rcases hpings with rfl | rfl <;> simp [hin] at hin'
    | ping hin' =>
      rcases hpings with rfl | rfl
      · simp [hin] at hin'
      · obtain ⟨rfl, rfl⟩ : c.id = _ ∧ [] = _ := by simpa [hin] using hin'
        exact ⟨ping, rfl, .done rfl rfl rfl ⟨before, by simp [hhistory]⟩ hno⟩
    | write b _ =>
      refine ⟨[b], rfl, .busy before hin hbusy ?_ (hquiet b rfl)⟩
      simp [hhistory]
    | die =>
      refine ⟨[], by simp, ?_⟩
      rw [append_nil]
      exact .busy before hin hbusy hhistory hno
  | done hping hin hbusy hanswered hno =>
    cases hact with
    | text hin' | ping hin' => cases hin'.symm.trans hin
    | write b hbusy' => cases hbusy'.symm.trans hbusy
    | die =>
      refine ⟨[], by simp, ?_⟩
      rw [append_nil]
      exact .done hping hin hbusy hanswered hno

theorem Draining.acts (h : Draining c receivedAck p)
    (hquiet : ∀ b, a = .write b → ¬ping <:+: c.start ++ (p.written ++ [b])) (hact : p.Acts a p') :
    Draining c receivedAck p' := by
  cases receivedAck with
  | false =>
    obtain ⟨⟨given, stream, hserve, hsplit, houtput⟩, hno⟩ : Waiting c p := h
    obtain ⟨new, hout, hserve'⟩ := hserve.acts (.inr rfl) hquiet hact
    refine ⟨⟨given, stream ++ new, hserve', ?_, houtput⟩, hno⟩
    rw [hout, ← append_assoc, hsplit]
  | true =>
    obtain ⟨hclean, hanswered, houtput, hno⟩ : Acknowledged c p := h
    obtain rfl := hclean.acts hact
    exact ⟨⟨hclean.stdIn, hclean.stdOut, hclean.busy⟩, hanswered, houtput, hno⟩

/-- How far a process is does not depend on whether it is alive. -/
theorem Serving.congr (h : Serving c pings p stream) (p' : IptablesProcess)
    (hin : p'.stdIn = p.stdIn) (hbusy : p'.busy = p.busy) (hwritten : p'.written = p.written)
    (hhistory : p'.history = p.history) : Serving c pings p' stream := by
  cases h with
  | queued hin' hbusy' hstart => exact .queued (hin.trans hin') (hbusy.trans hbusy') hstart
  | busy before hin' hbusy' hhistory' hno =>
    rw [← hwritten] at hhistory' hno ⊢
    exact .busy before (hin.trans hin') (hbusy.trans hbusy') (hhistory.trans hhistory') hno
  | done hping hin' hbusy' hanswered hno =>
    obtain ⟨before, hhistory'⟩ := hanswered
    rw [← hwritten] at hhistory' hno ⊢
    exact .done hping (hin.trans hin') (hbusy.trans hbusy') ⟨before, hhistory.trans hhistory'⟩ hno

theorem Serving.pinged (h : Serving c [] p stream) :
    Serving c [.ping c.id] { p with stdIn := p.stdIn ++ [.ping c.id] } stream := by
  cases h with
  | queued hin hbusy hstart => exact .queued (by simp [hin]) hbusy hstart
  | busy before hin hbusy hhistory hno => exact .busy before (by simp [hin]) hbusy hhistory hno
  | done hping hin hbusy hanswered hno => cases hping

theorem Serving.setOutput (h : Serving c pings p stream) (output : List Byte) :
    Serving { c with output := output } pings p stream := by
  cases h with
  | queued hin hbusy hstart => exact .queued hin hbusy hstart
  | busy before hin hbusy hhistory hno => exact .busy before hin hbusy hhistory hno
  | done hping hin hbusy hanswered hno => exact .done hping hin hbusy hanswered hno

theorem Draining.stop (h : Draining c receivedAck p) : Draining c receivedAck p.stop := by
  rw [p.stop_eq]
  cases receivedAck with
  | false =>
    obtain ⟨⟨given, stream, hserve, hsplit, hout⟩, hno⟩ : Waiting c p := h
    exact ⟨⟨given, stream, hserve.congr _ rfl rfl rfl rfl, hsplit, hout⟩, hno⟩
  | true =>
    obtain ⟨hclean, hanswered, hout, hno⟩ : Acknowledged c p := h
    exact ⟨⟨hclean.stdIn, hclean.stdOut, hclean.busy⟩, hanswered, hout, hno⟩

theorem settled_stop (p : IptablesProcess) : Settled p.stop := by
  rw [p.stop_eq]
  exact settled_of_dead rfl

theorem Serving.find (h : Serving c pings p stream) {part : List Byte}
    (hpart : part <+: c.start ++ stream) :
    find ping part = none ∨ Answered c p ∧ Clean { p with stdOut := [] } ∧
      ¬ping <:+: c.start ++ p.written ∧ stream = p.written ++ ping ∧ part = c.start ++ stream ∧
      find ping part = some (c.start ++ p.written).length := by
  cases h with
  | queued _ _ hstart =>
    rw [append_nil] at hpart
    exact .inl (find_eq_none.mpr fun hin => hstart (hin.trans hpart.isInfix))
  | busy _ _ _ _ hno =>
    exact .inl (find_eq_none.mpr fun hin => hno (hin.trans hpart.isInfix))
  | done _ hin hbusy hanswered hno =>
    rw [← append_assoc] at hpart ⊢
    rcases find_of_begins (by decide) hno hpart with hnone | ⟨hall, hfind⟩
    · exact .inl hnone
    · exact .inr ⟨hanswered, ⟨hin, rfl, hbusy⟩, hno, rfl, hall, hfind⟩

theorem accumulate_of_none {buffer : List Byte} (h : find ping (c.output ++ buffer) = none) :
    accumulate c receivedAck buffer = ({ c with output := c.output ++ buffer }, receivedAck) := by
  simp only [accumulate, h]

/-- Reading from the standard output. -/
theorem Draining.read {size : Nat} (h : Draining c receivedAck p) (hpos : 0 < size)
    (hsize : size ≤ p.stdOut.length) :
    Draining (accumulate c receivedAck (p.stdOut.take size)).1
      (accumulate c receivedAck (p.stdOut.take size)).2
      { p with stdOut := p.stdOut.drop size } := by
  cases receivedAck with
  | true =>
    have hclean : Clean p := Acknowledged.clean h
    rw [hclean.stdOut] at hsize
    simp at hsize
    omega
  | false =>
    obtain ⟨⟨given, stream, hserve, hsplit, hout⟩, hno⟩ : Waiting c p := h
    have hread : c.output ++ p.stdOut.take size <+: c.start ++ stream := by
      rw [hout, ← hsplit, append_assoc, prefix_append_right_inj, prefix_append_right_inj]
      exact take_prefix _ _
    rcases hserve.find hread with hnone | ⟨hanswered, hclean, hno', hstream, hall, hfind⟩
    · rw [accumulate_of_none hnone]
      have hserve' := (hserve.setOutput (c.output ++ p.stdOut.take size)).congr
        { p with stdOut := p.stdOut.drop size } rfl rfl rfl rfl
      refine ⟨⟨given ++ p.stdOut.take size, stream, hserve', ?_, ?_⟩, find_eq_none.mp hnone⟩
      · show given ++ p.stdOut.take size ++ p.stdOut.drop size = stream
        rw [append_assoc, take_append_drop, hsplit]
      · show c.output ++ p.stdOut.take size = c.start ++ (given ++ p.stdOut.take size)
        rw [hout, append_assoc]
    · -- all of the ping has been read, so nothing is left of the output
      have hrest : p.stdOut.drop size = [] := by
        have hlen := congrArg List.length hall
        rw [hout, ← hsplit] at hlen
        simp only [length_append, length_take] at hlen
        exact drop_eq_nil_of_le (by omega)
      have hout' : (c.output ++ p.stdOut.take size).take (c.start ++ p.written).length =
          c.start ++ p.written := by
        rw [hall, hstream, ← append_assoc, take_left]
      simp only [accumulate, hfind, hout', hrest]
      exact ⟨hclean, hanswered, rfl, hno'⟩

theorem Draining.accumulate_nil (h : Draining c receivedAck p) :
    accumulate c receivedAck [] = (c, receivedAck) := by
  have hno : ¬ping <:+: c.output := by
    cases receivedAck with
    | false => exact Waiting.no_ping h
    | true => exact Acknowledged.no_ping h
  rw [accumulate_of_none (by rw [append_nil]; exact find_eq_none.mpr hno), append_nil]

end Child

/-! ## The invariant -/

/-- Every process can be used for the next call, or will not be. -/
def AllSettled (process : IptablesProcessType → Option IptablesProcess) : Prop :=
  ∀ t p, process t = some p → Settled p

/-- During a call its own process is where `P` says, and the other one is settled. -/
structure During (c : Call) (P : IptablesProcess → Prop)
    (process : IptablesProcessType → Option IptablesProcess) : Prop where
  others : ∀ t p, t ≠ c.type → process t = some p → Settled p
  own : ∃ p, process c.type = some p ∧ P p

/-- A call that has not read anything. -/
structure Unread (c : Call) : Prop where
  output : c.output = c.start
  no_ping : ¬ping <:+: c.start

def Attributed (r : Returned) : Prop :=
  r.ret = 0 → ∃ p, r.process = some p ∧ Answered r.call p ∧
    r.call.output = r.call.start ++ p.written

/-- Where the processes are, by where the call is. -/
def Phase (process : IptablesProcessType → Option IptablesProcess) : Pc → Prop
  | .idle => AllSettled process
  | .checking c => AllSettled process ∧ Unread c
  | .forking c => AllSettled process ∧ Unread c
  | .writing c => During c Clean process ∧ Unread c
  | .pinging c => During c (fun p => Serving c [] p p.stdOut) process ∧ Unread c
  | .polling c _ => During c (Draining c false) process
  | .reading c _ _ receivedAck => During c (Draining c receivedAck) process

structure Inv (s : State) : Prop where
  returned : ∀ r ∈ s.returned, Attributed r
  phase : Phase s.process s.pc

section State

variable {s s' : State} {pc : Pc} {c : Call} {P Q : IptablesProcess → Prop} {p : IptablesProcess}
  {maxRetries : Nat}

theorem Inv.at (h : Inv s) (hpc : s.pc = pc) : Phase s.process pc := hpc ▸ h.phase

@[simp] theorem setProcess_self (t : IptablesProcessType) :
    (s.setProcess t p).process t = some p := Function.update_self ..

variable {t : IptablesProcessType} {receivedAck : Bool} {a : IptablesProcess.Action}

theorem setProcess_of_ne {t' : IptablesProcessType} (h : t' ≠ t) :
    (s.setProcess t p).process t' = s.process t' := Function.update_of_ne h ..

@[simp] theorem returned_stop (s : State) (t : IptablesProcessType) :
    (s.stop t).returned = s.returned := by
  unfold State.stop
  split <;> rfl

theorem AllSettled.setProcess (h : AllSettled s.process) (t : IptablesProcessType)
    (hp : Settled p) : AllSettled (s.setProcess t p).process := by
  intro t' p' hp'
  by_cases ht : t' = t
  · subst ht
    rw [setProcess_self] at hp'
    obtain rfl := some.inj hp'
    exact hp
  · exact h t' p' ((setProcess_of_ne ht).symm.trans hp')

theorem AllSettled.during (h : AllSettled s.process) (hp : s.process c.type = some p) (hP : P p) :
    During c P s.process :=
  ⟨fun t p' _ => h t p', p, hp, hP⟩

theorem During.setProcess {c' : Call} (h : During c P s.process) (htype : c'.type = c.type)
    (hp : Q p) : During c' Q (s.setProcess c'.type p).process := by
  refine ⟨fun t p' ht hp' => ?_, p, setProcess_self _, hp⟩
  exact h.others t p' (htype ▸ ht) ((setProcess_of_ne ht).symm.trans hp')

theorem During.allSettled (h : During c P s.process) (hP : ∀ p, P p → Settled p) :
    AllSettled s.process := by
  intro t p hp
  by_cases ht : t = c.type
  · obtain ⟨p', hp', hP'⟩ := h.own
    subst ht
    obtain rfl := some.inj (hp.symm.trans hp')
    exact hP p hP'
  · exact h.others t p ht hp

theorem AllSettled.stop (h : AllSettled s.process) (t : IptablesProcessType) :
    AllSettled (s.stop t).process := by
  unfold State.stop
  split
  · exact h.setProcess t (settled_stop _)
  · exact h

theorem During.stop (h : During c P s.process) (hQ : ∀ p, P p → Q p.stop) :
    During c Q (s.stop c.type).process := by
  obtain ⟨p, hp, hP⟩ := h.own
  simp only [State.stop, hp]
  exact h.setProcess rfl (hQ p hP)

/-! ### Returning -/

section

variable (hreturned : ∀ r ∈ s.returned, Attributed r)
include hreturned

theorem Inv.ret {r : Int} (hsettled : AllSettled s.process)
    (hr : Attributed ⟨c, r, s.process c.type⟩) : Inv (s.ret c r) where
  returned r' hr' := by
    rcases mem_cons.mp hr' with rfl | hr'
    · exact hr
    · exact hreturned r' hr'
  phase := hsettled

theorem Inv.ret_failed (hsettled : AllSettled s.process) : Inv (s.ret c (-1)) :=
  .ret hreturned hsettled fun h => by cases h

section

variable (h : During c (Draining c receivedAck) s.process)
include h

theorem Inv.finish : Inv (s.finish c receivedAck) := by
  cases receivedAck with
  | false =>
    have hstop : During c Settled (s.stop c.type).process := h.stop fun p _ => settled_stop p
    exact .ret_failed (by simpa using hreturned) (hstop.allSettled fun _ => id)
  | true =>
    obtain ⟨p, hp, hack⟩ := h.own
    refine .ret hreturned (h.allSettled fun p hp => (Acknowledged.clean hp).settled) fun _ => ?_
    exact ⟨p, hp, hack.answered, hack.output⟩

theorem Inv.loop {timeout : Nat} : Inv (s.loop maxRetries c timeout receivedAck) := by
  unfold State.loop
  split
  · rename_i hmore
    obtain rfl : receivedAck = false := Bool.eq_false_of_not_eq_true hmore.1
    exact ⟨hreturned, ⟨h.others, h.own⟩⟩
  · exact .finish hreturned h

theorem Inv.afterStdout {timeout : Nat} {revents : Revents} :
    Inv (s.afterStdout maxRetries c timeout revents receivedAck) := by
  unfold State.afterStdout
  split
  · exact .loop (by simpa using hreturned) (h.stop fun _ => Draining.stop)
  · exact .loop hreturned h

end

end

/-! ### The steps of a call -/

theorem inv_sendCommand {command start : List Byte} (h : Inv s) (hok : ¬ping <:+: start)
    (hstep : step maxRetries (.sendCommand t command start) s = some s') : Inv s' := by
  simp only [step] at hstep
  split at hstep
  · rename_i hpc
    cases hstep
    have hsettled : AllSettled s.process := h.at hpc
    refine ⟨h.returned, ?_⟩
    split
    · exact ⟨hsettled, rfl, hok⟩
    · exact ⟨hsettled, rfl, hok⟩
  · cases hstep

theorem inv_outputReady {ready : Bool} (h : Inv s)
    (hstep : step maxRetries (.outputReady ready) s = some s') : Inv s' := by
  simp only [step] at hstep
  split at hstep
  · rename_i c hpc
    obtain ⟨hsettled, hunread⟩ := h.at hpc
    split at hstep
    · rename_i halive
      cases hstep
      obtain ⟨p, hp, halive⟩ := (any_eq_true _ _).mp halive
      exact ⟨h.returned, hsettled.during hp (hsettled c.type p hp halive), hunread⟩
    · cases hstep
  · rename_i c hpc
    obtain ⟨hsettled, hunread⟩ := h.at hpc
    cases hstep
    exact ⟨by simpa using h.returned, hsettled.stop c.type, hunread⟩
  · cases hstep

theorem inv_forkAndExec {succeeds : Bool} (h : Inv s)
    (hstep : step maxRetries (.forkAndExec succeeds) s = some s') : Inv s' := by
  simp only [step] at hstep
  split at hstep
  · rename_i c hpc
    obtain ⟨hsettled, hunread⟩ := h.at hpc
    split at hstep
    · cases hstep
      have hnew : Clean .new := ⟨rfl, rfl, rfl⟩
      have hsettled' := hsettled.setProcess c.type hnew.settled
      exact ⟨h.returned, hsettled'.during (setProcess_self _) hnew, hunread⟩
    · cases hstep
      exact .ret_failed h.returned hsettled
  · cases hstep

theorem dead_of_processDead (hcall : s.pc.call? = some c) (hp : s.process c.type = some p)
    (hdead : s.processDead = true) : p.alive = false := by
  simpa [State.processDead, hcall, hp] using hdead

theorem inv_poll {result : PollResult} (h : Inv s) (hok : Careful s (.poll result))
    (hstep : step maxRetries (.poll result) s = some s') : Inv s' := by
  simp only [step] at hstep
  split at hstep
  · rename_i c timeout hpc
    have hdrain : During c (Draining c false) s.process := h.at hpc
    cases hstep
    obtain ⟨p, hp, -⟩ := hdrain.own
    have hdead := dead_of_processDead (by simp [hpc, Pc.call?]) hp hok
    have hsettled : During c Settled s.process := ⟨hdrain.others, p, hp, settled_of_dead hdead⟩
    exact .ret_failed h.returned (hsettled.allSettled fun _ => id)
  · rename_i c timeout hpc
    have hdrain : During c (Draining c false) s.process := h.at hpc
    cases hstep
    exact .loop h.returned hdrain
  · rename_i c timeout revents hpc
    have hdrain : During c (Draining c false) s.process := h.at hpc
    split at hstep
    · cases hstep
      exact ⟨h.returned, hdrain.others, hdrain.own⟩
    · cases hstep
      exact .afterStdout h.returned hdrain
  · cases hstep

theorem inv_read {result : ReadResult} (h : Inv s)
    (hstep : step maxRetries (.read result) s = some s') : Inv s' := by
  simp only [step] at hstep
  split at hstep
  · rename_i c timeout revents receivedAck hpc
    have hdraining : During c (Draining c receivedAck) s.process := h.at hpc
    obtain ⟨p, hp, hdrain⟩ := hdraining.own
    cases result with
    | data size =>
      simp only [hp] at hstep
      split at hstep
      · rename_i hsize
        cases hstep
        refine ⟨h.returned, ?_⟩
        have htype : ∀ buffer, (accumulate c receivedAck buffer).1.type = c.type := by
          intro buffer
          unfold accumulate
          split <;> rfl
        exact hdraining.setProcess (htype _) (hdrain.read hsize.1 hsize.2.2)
      · cases hstep
    | eof =>
      simp only [hp] at hstep
      split at hstep
      · cases hstep
      rw [hdrain.accumulate_nil] at hstep
      cases hstep
      exact .afterStdout h.returned hdraining
    | failed =>
      simp only [hp] at hstep
      cases hstep
      exact .afterStdout h.returned hdraining
  · cases hstep

theorem Inv.write_failed (hreturned : ∀ r ∈ s.returned, Attributed r) (h : During c P s.process)
    (hp : p.alive = false) : Inv ((s.setProcess c.type p).ret c (-1)) := by
  have hsettled : During c Settled (s.setProcess c.type p).process :=
    h.setProcess rfl (settled_of_dead hp)
  exact .ret_failed hreturned (hsettled.allSettled fun _ => id)

theorem inv_writeFully {failsAfter : Option Nat} (h : Inv s)
    (hok : Careful s (.writeFully failsAfter))
    (hstep : step maxRetries (.writeFully failsAfter) s = some s') : Inv s' := by
  simp only [step] at hstep
  split at hstep
  · rename_i c hpc
    obtain ⟨hduring, hunread⟩ := h.at hpc
    obtain ⟨p, hp, hclean⟩ := hduring.own
    cases failsAfter with
    | none =>
      simp only [hp] at hstep
      split at hstep
      · cases hstep
        refine ⟨h.returned, hduring.setProcess rfl ?_, hunread⟩
        simp only [hclean.stdIn, hclean.stdOut]
        exact .queued rfl hclean.busy hunread.no_ping
      · cases hstep
    | some k =>
      simp only [hp] at hstep
      cases hstep
      have hdead := dead_of_processDead (by rw [hpc]; rfl) hp hok
      exact .write_failed h.returned hduring hdead
  · rename_i c hpc
    obtain ⟨hduring, hunread⟩ := h.at hpc
    obtain ⟨p, hp, hserve⟩ := hduring.own
    cases failsAfter with
    | none =>
      simp only [hp] at hstep
      split at hstep
      · cases hstep
        have hwait : Waiting c { p with stdIn := p.stdIn ++ [.ping c.id] } :=
          ⟨⟨[], p.stdOut, hserve.pinged, rfl, by simp [hunread.output]⟩,
            hunread.output ▸ hunread.no_ping⟩
        have hduring' : During c (Draining c false) (s.setProcess c.type _).process :=
          hduring.setProcess rfl hwait
        refine .loop ?_ hduring'
        exact h.returned
      · cases hstep
    | some k =>
      simp only [hp] at hstep
      cases hstep
      have hdead := dead_of_processDead (by rw [hpc]; rfl) hp hok
      exact .write_failed h.returned hduring hdead
  · cases hstep

/-! ### The steps of a child -/

theorem During.child {p' : IptablesProcess} (h : During c P s.process) (hp : s.process t = some p)
    (hact : p.act a = some p') (hown : t = c.type → P p → p.Acts a p' → P p') :
    During c P (s.setProcess t p').process := by
  by_cases ht : t = c.type
  · subst ht
    obtain ⟨p0, hp0, hP⟩ := h.own
    obtain rfl := some.inj (hp.symm.trans hp0)
    exact h.setProcess rfl (hown rfl hP (IptablesProcess.acts_of_act hact).2)
  · obtain ⟨p0, hp0, hP⟩ := h.own
    refine ⟨fun t' q ht' hq => ?_, p0, (setProcess_of_ne (Ne.symm ht)).trans hp0, hP⟩
    by_cases htt : t' = t
    · subst htt
      rw [setProcess_self] at hq
      obtain rfl := some.inj hq
      exact (h.others t' p ht' hp).act hact
    · exact h.others t' q ht' ((setProcess_of_ne htt).symm.trans hq)

theorem inv_child (h : Inv s) (hok : Careful s (.child t a))
    (hstep : step maxRetries (.child t a) s = some s') : Inv s' := by
  simp only [step] at hstep
  split at hstep
  · rename_i p hp
    obtain ⟨p', hact, rfl⟩ := map_eq_some_iff.mp hstep
    refine ⟨h.returned, ?_⟩
    show Phase (s.setProcess t p').process s.pc
    have hquiet : ∀ c, s.pc.call? = some c → t = c.type →
        ∀ b, a = .write b → ¬ping <:+: c.start ++ (p.written ++ [b]) := by
      rintro c hcall rfl b rfl
      simpa [Careful, State.startFor, hcall, hp] using hok
    cases hpc : s.pc with
    | idle =>
      have hphase := h.at hpc
      exact AllSettled.setProcess hphase t ((hphase t p hp).act hact)
    | checking c | forking c =>
      have hphase := h.at hpc
      exact ⟨hphase.1.setProcess t ((hphase.1 t p hp).act hact), hphase.2⟩
    | writing c =>
      have hphase := h.at hpc
      refine ⟨hphase.1.child hp hact fun _ hclean hacts => ?_, hphase.2⟩
      obtain rfl := hclean.acts hacts
      exact ⟨hclean.stdIn, hclean.stdOut, hclean.busy⟩
    | pinging c =>
      have hphase := h.at hpc
      refine ⟨hphase.1.child hp hact fun ht hserve hacts => ?_, hphase.2⟩
      obtain ⟨new, hout, hserve'⟩ := hserve.acts (.inl rfl)
        (hquiet c (by simp [hpc, Pc.call?]) ht) hacts
      rw [hout]
      exact hserve'
    | polling c timeout | reading c timeout revents receivedAck =>
      exact During.child (h.at hpc) hp hact fun ht hdrain hacts =>
        hdrain.acts (hquiet c (by simp [hpc, Pc.call?]) ht) hacts
  · cases hstep

theorem inv_step {a : Action} (h : Inv s) (hok : Careful s a)
    (hstep : step maxRetries a s = some s') : Inv s' := by
  cases a with
  | sendCommand t command start => exact inv_sendCommand h hok hstep
  | outputReady ready => exact inv_outputReady h hstep
  | forkAndExec succeeds => exact inv_forkAndExec h hstep
  | writeFully failsAfter => exact inv_writeFully h hok hstep
  | poll result => exact inv_poll h hok hstep
  | read result => exact inv_read h hstep
  | child t a => exact inv_child h hok hstep

end State

theorem inv_init (forked : IptablesProcessType → Bool) : Inv (init forked) where
  returned := by simp [init]
  phase := by
    intro t p hp
    obtain ⟨-, rfl⟩ : forked t = true ∧ IptablesProcess.new = p := by simpa [init] using hp
    exact Clean.settled ⟨rfl, rfl, rfl⟩

/-- A call that returns 0 was answered by its process: the last it has taken are the command and its
ping, and `*output` has what it wrote in between. -/
theorem acknowledged_own_command (maxRetries : Nat) (forked : IptablesProcessType → Bool)
    {h : List Action} {s : State} (hrun : Lts.Run (step maxRetries) Careful (init forked) h s)
    (r : Returned) (hr : r ∈ s.returned) (hret : r.ret = 0) :
    ∃ p before, r.process = some p ∧
      p.history = before ++ .took (.text r.call.id r.call.command) ::
        (p.written.map .wrote ++ [.took (.ping r.call.id)]) ∧
      r.call.output = r.call.start ++ p.written := by
  have hinv : Inv s := hrun.invariant (I := fun _ s => Inv s) (inv_init forked)
    fun h hok hstep => inv_step h hok hstep
  obtain ⟨p, hp, ⟨before, hhistory⟩, hout⟩ := hinv.returned r hr hret
  exact ⟨p, before, hp, hhistory, hout⟩

def sampleByte : Byte := 120

def answeredRun : List Action :=
  [.sendCommand .iptablesProcess [42] [], .forkAndExec true, .writeFully none, .writeFully none,
    .child .iptablesProcess .take, .child .iptablesProcess (.write sampleByte),
    .child .iptablesProcess .take, .poll (.events ⟨true, false, false⟩), .read (.data 3),
    .read (.data 4), .read .failed]

theorem acknowledged_own_command_sample : ∃ r : Returned, r.ret = 0 ∧
    r.call.output = [sampleByte] ∧ ∃ p before, r.process = some p ∧
      p.history = before ++ .took (.text r.call.id r.call.command) ::
        (p.written.map .wrote ++ [.took (.ping r.call.id)]) ∧
      r.call.output = r.call.start ++ p.written := by
  obtain ⟨s, hrun, r, hr, hret, hout⟩ : ∃ s, Lts.Run (step 50) Careful (init fun _ => false)
      answeredRun.reverse s ∧ ∃ r ∈ s.returned, r.ret = 0 ∧ r.call.output = [sampleByte] :=
    Lts.run_of_mem _ (by decide +kernel)
  exact ⟨r, hret, hout, acknowledged_own_command 50 (fun _ => false) hrun r hr hret⟩

/-- `poll` fails while the first call waits, and the second call takes its late answer for its
own. -/
def lateRun : List Action :=
  [.sendCommand .iptablesProcess [42] [], .forkAndExec true, .writeFully none, .writeFully none,
    .poll .failed, .child .iptablesProcess .take, .child .iptablesProcess (.write sampleByte),
    .child .iptablesProcess .take, .sendCommand .iptablesProcess [43] [], .outputReady true,
    .writeFully none, .writeFully none, .poll (.events ⟨true, false, false⟩), .read (.data 7),
    .read .failed]

/-- The second call has returned 0 with the output of the first, and its process has taken nothing
of it. -/
theorem late_ping_acknowledges :
    (Lts.exec (step 50) (fun _ _ => True) lateRun (init fun _ => false)).map (·.returned) =
      some [⟨⟨1, .iptablesProcess, [43], [], [sampleByte]⟩, 0,
          some ⟨.running, [.text 1 [43], .ping 1], [], false, [sampleByte],
            [.took (.text 0 [42]), .wrote sampleByte, .took (.ping 0)]⟩⟩,
        ⟨⟨0, .iptablesProcess, [42], [], []⟩, -1,
          some ⟨.running, [.text 0 [42], .ping 0], [], false, [], []⟩⟩] := by
  decide +kernel

end Netd.IptablesRestore
