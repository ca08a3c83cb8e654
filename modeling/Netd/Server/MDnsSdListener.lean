import Mathlib.Data.List.Basic

/-!
# MDnsSdListener: commands and the monitor thread

The thread of the listener takes the `mdnssd` commands, one after the other. A command that starts
an operation links a new element in, calls a function of the DNS service discovery library and then
either marks the element as ready or frees it. The monitor thread polls the sockets of the elements
that are ready.

An element that is ready is only marked by the command that frees it, and the next `rescan` of the
monitor thread deletes it. `rescan` makes the arrays `mPollFds` and `mPollRefs` anew, for
`mLiveCount` elements.

Each critical section of `mHeadMutex` is one step. A write at an index that is not below
`mPollSize` has no result. What the library returns, and the numbers that `strtol` and `b64_pton`
read, are parameters.
-/

namespace Netd.MDnsSd

/-! ## Messages -/

inductive ResponseCode where
  | commandOkay
  | commandSyntaxError
  | commandParameterError
  | serviceStartFailed
  | serviceStopFailed

structure Message where
  code : ResponseCode
  text : String

/-! ## The list of elements -/

/-- The values of `mReady`: -1, 0 and 1. -/
inductive Ready where
  /-- Marked for the poll thread to delete. -/
  | removing
  | pending
  | live
  deriving DecidableEq

/-- What `DNSServiceRef` points to. `none` is `nullptr`. -/
abbrev DNSServiceRef := Option Nat

structure Element where
  block : Nat
  mId : Int
  mRef : DNSServiceRef
  mReady : Ready

inductive MonitorThread where
  | polling
  /-- About to look at an entry of the arrays. -/
  | processing (i : Nat)
  /-- About to look at the control socket. -/
  | control
  deriving DecidableEq

structure Operation where
  inUse : String
  error : String
  started : String
  deriving DecidableEq

/-- What is left of a command. -/
inductive HandlerThread where
  | idle
  /-- The id is not in use: `allocateServiceRef` is about to link an element in. -/
  | allocating (op : Operation) (requestId : Int)
  /-- In the function of the library, which sets the reference of the new element. -/
  | calling (op : Operation) (requestId : Int) (block : Nat)
  /-- The function has failed: about to call `freeServiceRef`. -/
  | failing (op : Operation) (requestId : Int)
  /-- About to call `startMonitoring`. -/
  | starting (op : Operation) (requestId : Int)
  /-- `startMonitoring` has released the lock: about to write to the control socket. -/
  | triggering (op : Operation)
  /-- The id is known: about to call `deallocateServiceRef`. -/
  | deallocating (str : String) (requestId : Int) (block : Nat)
  /-- About to call `freeServiceRef`. -/
  | stopping (str : String) (requestId : Int)
  deriving DecidableEq

structure State where
  mHead : List Element
  mLiveCount : Int
  mPollSize : Int
  /-- Whether `revents` is set in an entry. -/
  mPollFds : Nat → Bool
  /-- The blocks of the elements that the entries point into. -/
  mPollRefs : Nat → Option Nat
  /-- The bytes in the control socket. -/
  mCtrlSocketPair : Nat
  pollCount : Nat
  monitor : MonitorThread
  handler : HandlerThread
  next : Nat
  sent : List Message

/-- Arrays that `calloc` has made. -/
def callocFds : Nat → Bool := fun _ => false
def callocRefs : Nat → Option Nat := fun _ => none

/-- The monitor when its thread is about to poll for the first time. -/
def init : State where
  mHead := []
  mLiveCount := 0
  mPollSize := 10
  mPollFds := callocFds
  mPollRefs := callocRefs
  mCtrlSocketPair := 0
  pollCount := 1
  monitor := .polling
  handler := .idle
  next := 0
  sent := []

namespace State

variable (s : State)

def sendMsg (code : ResponseCode) (text : String) : State :=
  { s with sent := s.sent ++ [⟨code, text⟩], handler := .idle }

/-! ## Monitor -/

def lookupServiceRef (id : Int) : Option Nat :=
  (s.mHead.find? fun e => e.mId = id).map Element.block

/-- The critical section of `allocateServiceRef`, after the lookup. -/
def allocateServiceRef (id : Int) : State :=
  { s with mHead := ⟨s.next, id, none, .pending⟩ :: s.mHead, next := s.next + 1 }

def markReady (id : Int) : List Element → List Element
  | [] => []
  | cur :: es => if cur.mId = id then { cur with mReady := .live } :: es else cur :: markReady id es

/-- The critical section of `startMonitoring`, for an id that is in the list. -/
def startMonitoring (id : Int) : State :=
  { s with mHead := markReady id s.mHead, mLiveCount := s.mLiveCount + 1 }

/-- Mark the first element with the id, or delete it if it is not ready. -/
def freeElement (id : Int) : List Element → List Element
  | [] => []
  | cur :: es =>
    if cur.mId = id then
      if cur.mReady = .live then { cur with mReady := .removing, mRef := none } :: es else es
    else cur :: freeElement id es

def freeServiceRef (id : Int) : State :=
  match s.mHead.find? fun e => e.mId = id with
  | some cur =>
    { s with
      mHead := freeElement id s.mHead
      mLiveCount := s.mLiveCount - 1
      mCtrlSocketPair := if cur.mReady = .live then s.mCtrlSocketPair + 1
        else s.mCtrlSocketPair }
  | none => s

/-- The function of the library sets the reference of an element. -/
def setRef (block : Nat) (ref : DNSServiceRef) : State :=
  { s with mHead := s.mHead.map fun e => if e.block = block then { e with mRef := ref } else e }

/-- Write an entry of both arrays. -/
def writePoll (i : Nat) (block : Nat) : Option State :=
  if (i : Int) < s.mPollSize then
    some { s with
      mPollFds := Function.update s.mPollFds i false
      mPollRefs := Function.update s.mPollRefs i (some block) }
  else none

/-- The loop of `rescan` over the elements that are left: those it keeps and the value of `i`. -/
def rescanFrom (sockFD : DNSServiceRef → Int) :
    List Element → Nat → State → Option (List Element × Nat × State)
  | [], i, s => some ([], i, s)
  | cur :: es, i, s =>
    match cur.mReady with
    | .live =>
      if sockFD cur.mRef ≠ -1 then do
        let s ← s.writePoll i cur.block
        let (kept, i, s) ← rescanFrom sockFD es (i + 1) s
        some (cur :: kept, i, s)
      else do
        let (kept, i, s) ← rescanFrom sockFD es i s
        some (cur :: kept, i, s)
    | .removing => rescanFrom sockFD es i s
    | .pending => do
        let (kept, i, s) ← rescanFrom sockFD es i s
        some (cur :: kept, i, s)

/-- The arrays are cleared, and made anew if they are too small. -/
def clearPolls : State :=
  { s with
    mPollSize := if s.mPollSize ≤ s.mLiveCount then s.mLiveCount + 5 else s.mPollSize
    mPollFds := callocFds
    mPollRefs := callocRefs }

/-- `rescan`, which sets `pollCount`. There is no result if it writes outside of the arrays. -/
def rescan (sockFD : DNSServiceRef → Int) : Option State := do
  let (kept, i, s) ← rescanFrom sockFD s.mHead 1 s.clearPolls
  some { s with mHead := kept, pollCount := i }

/-- The entries that have events. The control socket has one if there is a byte
in it. -/
def poll (ready : List Nat) : State :=
  if (0 < s.mCtrlSocketPair) ∨ ∃ i ∈ ready, 0 < i ∧ i < s.pollCount then
    { s with
      mPollFds := fun i =>
        if i = 0 then decide (0 < s.mCtrlSocketPair)
        else if i < s.pollCount then decide (i ∈ ready)
        else s.mPollFds i
      monitor := .processing 1 }
  else s

/-- The monitor thread does not look at an entry, or is done with it. -/
def nextEntry (i : Nat) : State :=
  { s with mPollFds := Function.update s.mPollFds i false, monitor := .processing (i + 1) }

/-- The end of the loop: rescan if there is a byte in the control socket. -/
def runControl (sockFD : DNSServiceRef → Int) : Option State :=
  if s.mPollFds 0 then do
    let s ← { s with mCtrlSocketPair := s.mCtrlSocketPair - 1 }.rescan sockFD
    some { s with monitor := .polling }
  else some { s with monitor := .polling }

/-- The monitor thread calls `DNSServiceProcessResult` with the reference of an entry. -/
def Processes (i : Nat) : Prop := s.monitor = .processing i ∧ i < s.pollCount ∧ s.mPollFds i = true

/-- The next step of the monitor thread after `poll`. -/
def runMonitor (sockFD : DNSServiceRef → Int) : Option State :=
  match s.monitor with
  | .polling => none
  | .processing i =>
    if i < s.pollCount then some (s.nextEntry i) else some { s with monitor := .control }
  | .control => s.runControl sockFD

end State

/-! ## Handler -/

def discover : Operation where
  inUse := "RequestId already in use during discover call"
  error := "Discover request got an error from DNSServiceBrowse"
  started := "Discover operation started"

def serviceRegister : Operation where
  inUse := "RequestId already in use during register call"
  error := "serviceRegister request got an error from DNSServiceRegister"
  started := "serviceRegister started"

def resolveService : Operation where
  inUse := "RequestId already in use during resolve call"
  error := "resolveService got an error from DNSServiceResolve"
  started := "resolveService started"

def getAddrInfo : Operation where
  inUse := "RequestId already in use during getAddrInfo call"
  error := "getAddrInfo request got an error from DNSServiceGetAddrInfo"
  started := "getAddrInfo started"

def setHostname : Operation where
  inUse := "RequestId already in use during setHostname call"
  error := "setHostname got an error from DNSSetHostname"
  started := "setHostname started"

/-- What the handler gets from elsewhere. -/
structure Outside where
  /-- `strtol` and `atoi` -/
  strtol : String → Int
  b64Pton : String → Int

namespace State

variable (out : Outside) (s : State)

def start (op : Operation) (requestId : Int) : State :=
  match s.lookupServiceRef requestId with
  | some _ => s.sendMsg .commandParameterError op.inUse
  | none => { s with handler := .allocating op requestId }

def stop (args : List String) (str : String) : State :=
  match args with
  | [id] =>
    let requestId := out.strtol id
    match s.lookupServiceRef requestId with
    | none => s.sendMsg .commandParameterError "Unknown requestId"
    | some block => { s with handler := .deallocating str requestId block }
  | _ => s.sendMsg .commandParameterError ("Invalid number of arguments to " ++ str)

/-- `startService`, for a daemon that is running or not. -/
def startService (running : Bool) : State :=
  if running then s.sendMsg .serviceStartFailed "Service already running"
  else s.sendMsg .commandOkay "Service Started"

def stopService : State :=
  if s.mHead = [] then s.sendMsg .commandOkay "Service Stopped"
  else s.sendMsg .serviceStopFailed "Service still in use"

def wrongArguments (cmd : String) : State :=
  s.sendMsg .commandParameterError ("Invalid number of arguments to mdnssd " ++ cmd)

/-- `runCommand`, up to the first step of the command. -/
def runCommand (running : Bool) (argv : List String) : State :=
  match argv with
  | _ :: cmd :: args =>
    if cmd = "discover" then
      match args with
      | [id, _] => s.start discover (out.strtol id)
      | _ => s.wrongArguments "discover"
    else if cmd = "stop-discover" then s.stop out args "discover"
    else if cmd = "register" then
      match args with
      | [id, _, _, _, txt] =>
        if out.b64Pton txt < 0 then
          s.sendMsg .commandParameterError "Could not decode txtRecord"
        else s.start serviceRegister (out.strtol id)
      | _ => s.wrongArguments "register"
    else if cmd = "stop-register" then s.stop out args "register"
    else if cmd = "resolve" then
      match args with
      | [id, _, _, _] => s.start resolveService (out.strtol id)
      | _ => s.wrongArguments "resolve"
    else if cmd = "stop-resolve" then s.stop out args "resolve"
    else if cmd = "start-service" then s.startService running
    else if cmd = "stop-service" then s.stopService
    else if cmd = "sethostname" then
      match args with
      | [id, _] => s.start setHostname (out.strtol id)
      | _ => s.wrongArguments "sethostname"
    else if cmd = "stop-sethostname" then s.stop out args "sethostname"
    else if cmd = "getaddrinfo" then
      match args with
      | [id, _] => s.start getAddrInfo (out.strtol id)
      | _ => s.wrongArguments "getaddrinfo"
    else if cmd = "stop-getaddrinfo" then s.stop out args "getaddrinfo"
    else s.sendMsg .commandSyntaxError "Unknown mdnssd cmd"
  | _ =>
    s.sendMsg .commandParameterError
      ("Invalid number of arguments to mdnssd: " ++ toString argv.length)

/-- The next step of a command. `result` is the reference that the function of the library
gives, if it succeeds. -/
def serve (result : Option Nat) : Option State :=
  match s.handler with
  | .idle => none
  | .allocating op id =>
    some { s.allocateServiceRef id with handler := .calling op id s.next }
  | .calling op id block =>
    match result with
    | some ref => some { s.setRef block (some ref) with handler := .starting op id }
    | none => some { s with handler := .failing op id }
  | .failing op id => some ((s.freeServiceRef id).sendMsg .commandParameterError op.error)
  | .starting op id =>
    if s.mHead.any fun e => e.mId = id then
      some { s.startMonitoring id with handler := .triggering op }
    else some (s.sendMsg .commandOkay op.started)
  | .triggering op =>
    some ({ s with mCtrlSocketPair := s.mCtrlSocketPair + 1 }.sendMsg .commandOkay op.started)
  | .deallocating str id _ => some { s with handler := .stopping str id }
  | .stopping str id => some ((s.freeServiceRef id).sendMsg .commandOkay (str ++ " stopped"))

end State

inductive Action where
  | command (running : Bool) (argv : List String)
  | serve (result : Option Nat)
  | poll (ready : List Nat)
  | monitor (sockFD : DNSServiceRef → Int)

def step (out : Outside) : Action → State → Option State
  | .command running argv, s =>
    if s.handler = .idle then some (s.runCommand out running argv) else none
  | .serve result, s => s.serve result
  | .poll ready, s => if s.monitor = .polling then some (s.poll ready) else none
  | .monitor sockFD, s => s.runMonitor sockFD

end Netd.MDnsSd
