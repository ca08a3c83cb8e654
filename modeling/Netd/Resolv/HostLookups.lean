import Netd.Kernel.FibRules
import Netd.Resolv.DnsTlsServer

/-!
# Looking up hosts

The functions that look up a host take its name as a pointer. `CharPtr.deref` and
`CharPtr.toStdString` have a fault if it is null. `android_getaddrinfofornetcontext` tests the
name before it calls a function that reads it. `gethostbyname_internal_real` reads its first
character as soon as the address family is one it supports. What the functions find is a
parameter (`Resolver`).
-/

namespace Netd

/-! ## Numbers in network byte order -/

/-- A conversion to `uint32_t`. -/
def toUint32 (i : Int) : Nat := (i % 2 ^ 32).toNat

/-- A conversion to `int32_t`. -/
def toInt32 (n : Nat) : Int := if n < 2 ^ 31 then n else n - 2 ^ 32

/-- The bytes of `htonl` of a number. -/
def htonl (n : Nat) : List Byte :=
  [Fin.ofNat 256 (n / 2 ^ 24), Fin.ofNat 256 (n / 2 ^ 16), Fin.ofNat 256 (n / 2 ^ 8),
    Fin.ofNat 256 n]

/-- `ntohl` of a number with these bytes. -/
def ntohl (bytes : List Byte) : Nat :=
  (bytes.getD 0 0).val * 2 ^ 24 + (bytes.getD 1 0).val * 2 ^ 16 + (bytes.getD 2 0).val * 2 ^ 8 +
    (bytes.getD 3 0).val

/-! ## Strings of C -/

/-- A string of C, without the zero at its end. -/
abbrev CString := List Byte

abbrev CharPtr := Option CString

def ascii (s : String) : CString := s.toList.map fun c => Fin.ofNat 256 c.toNat

/-! ## Null pointers -/

/-- What goes wrong with a null pointer to a name. -/
inductive NameFault where
  | dereference
  | stdString
  deriving DecidableEq

def CharPtr.deref : CharPtr → Except NameFault CString
  | some s => .ok s
  | none => .error .dereference

/-- The conversion to `const std::string&`. -/
def CharPtr.toStdString : CharPtr → Except NameFault CString
  | some s => .ok s
  | none => .error .stdString

/-- A computation without a fault. -/
def NoFault {α : Type*} (x : Except NameFault α) : Prop := ∃ a, x = .ok a

namespace NoFault

variable {α β : Type} {x : Except NameFault α} {f : α → Except NameFault β}

theorem pure (a : α) : NoFault (Pure.pure a : Except NameFault α) := ⟨a, rfl⟩

theorem bind (hx : NoFault x) (hf : ∀ a, NoFault (f a)) : NoFault (x >>= f) := by
  obtain ⟨a, rfl⟩ := hx
  exact hf a

theorem ite {p : Prop} [Decidable p] {y : Except NameFault α} (hx : p → NoFault x)
    (hy : ¬p → NoFault y) : NoFault (if p then x else y) := by
  split
  · exact hx ‹p›
  · exact hy ‹¬p›

theorem deref (s : CString) : NoFault (CharPtr.deref (some s)) := ⟨s, rfl⟩

theorem toStdString (s : CString) : NoFault (CharPtr.toStdString (some s)) := ⟨s, rfl⟩

end NoFault

/-! ## What is looked up -/

namespace Af

def unspec : Int := 0
def inet : Int := 2
def inet6 : Int := 10

end Af

namespace Eai

def badflags : Int := 3
def fail : Int := 4
def family : Int := 5
def memory : Int := 6
def nodata : Int := 7
def noname : Int := 8
def badhints : Int := 12

end Eai

structure AndroidNetContext where
  appNetid : Nat
  appMark : Nat
  dnsNetid : Nat
  dnsMark : Nat
  uid : Nat
  flags : Nat

/-- The fields of `struct addrinfo` that hints have. -/
structure Hints where
  aiFlags : Int
  aiFamily : Int
  aiSocktype : Int
  aiProtocol : Int
  deriving DecidableEq

/-- `struct addrinfo` of a result, with the port and the address of its `ai_addr`, in network byte
order. -/
structure Addrinfo extends Hints where
  port : List Byte
  addr : List Byte
  aiCanonname : CharPtr
  deriving DecidableEq

structure Hostent where
  hName : CharPtr
  hAliases : List CString
  hAddrtype : Int
  hLength : Int
  hAddrList : List (List Byte)
  deriving DecidableEq

/-- What is found: a result of 0 and what was looked up, or an error. -/
structure Resolver where
  /-- `get_port(ai, servname, 1)` for a service that is given. -/
  getPort : Hints → CString → Int
  exploreNull : Hints → CharPtr → Int × List Addrinfo
  exploreNumericScope : Hints → CString → CharPtr → Int × List Addrinfo
  exploreFqdn : Hints → CString → CharPtr → AndroidNetContext → Int × List Addrinfo
  /-- `res_get_state() != NULL` -/
  resGetState : Bool
  /-- The rest of `gethostbyname_internal_real` for a name and a supported family. -/
  gethostbynameReal : CString → Int → AndroidNetContext → Int × Hostent
  gethostbyaddrReal : List Byte → Int → Int → AndroidNetContext → Int × Hostent

/-! ## getaddrinfo -/

namespace Getaddrinfo

structure Explore where
  eAf : Int
  eSocktype : Int
  eProtocol : Int
  eWild : Nat

namespace Explore

def wildAf (ex : Explore) : Bool := ex.eWild.testBit 0
def wildSocktype (ex : Explore) : Bool := ex.eWild.testBit 1
def wildProtocol (ex : Explore) : Bool := ex.eWild.testBit 2

end Explore

/-- The socket types are `SOCK_DGRAM`, `SOCK_STREAM` and `SOCK_RAW`, the
protocols `IPPROTO_UDP` and `IPPROTO_TCP`. -/
def exploreOptions : List Explore :=
  [⟨Af.inet6, 2, 17, 7⟩, ⟨Af.inet6, 1, 6, 7⟩, ⟨Af.inet6, 3, 0, 5⟩,
    ⟨Af.inet, 2, 17, 7⟩, ⟨Af.inet, 1, 6, 7⟩, ⟨Af.inet, 3, 0, 5⟩,
    ⟨Af.unspec, 2, 17, 7⟩, ⟨Af.unspec, 1, 6, 7⟩, ⟨Af.unspec, 3, 0, 5⟩]

/-- `MATCH` and `MATCH_FAMILY`, where `ANY` and `PF_UNSPEC` are both 0. -/
def matches? (x y : Int) (w : Bool) : Bool := x == y || (w && (x == 0 || y == 0))

def aiMask : Nat := 0x40f

def aiNumerichost : Nat := 0x4

/-- The error check for hints. Their other fields are zero. -/
def checkHints (hints : Hints) : Int :=
  if toUint32 hints.aiFlags &&& (2 ^ 32 - 1 - aiMask) ≠ 0 then Eai.badflags
  else if ¬(hints.aiFamily = Af.unspec ∨ hints.aiFamily = Af.inet ∨ hints.aiFamily = Af.inet6) then
    Eai.family
  else if hints.aiSocktype ≠ 0 ∧ hints.aiProtocol ≠ 0 ∧
      exploreOptions.any (fun ex => hints.aiFamily = ex.eAf ∧ ex.eSocktype ≠ 0 ∧
        ex.eProtocol ≠ 0 ∧ hints.aiSocktype = ex.eSocktype ∧ hints.aiProtocol ≠ ex.eProtocol) then
    Eai.badhints
  else 0

/-- A service that is not given matches. -/
def getPortmatch (r : Resolver) (ai : Hints) (servname : CharPtr) : Int :=
  match servname with
  | none => 0
  | some servname => r.getPort ai servname

/-- Complete what is left open by what an entry of the table has. -/
def complete (ai0 : Hints) (ex : Explore) : Hints :=
  { ai0 with
    aiSocktype := if ai0.aiSocktype = 0 ∧ ex.eSocktype ≠ 0 then ex.eSocktype else ai0.aiSocktype
    aiProtocol := if ai0.aiProtocol = 0 ∧ ex.eProtocol ≠ 0 then ex.eProtocol else ai0.aiProtocol }

/-- The socket type and the protocol match an entry of the table. -/
def typeMatches (ai0 : Hints) (ex : Explore) : Bool :=
  matches? ai0.aiSocktype ex.eSocktype ex.wildSocktype &&
    matches? ai0.aiProtocol ex.eProtocol ex.wildProtocol

/-- `explore_null` for no host name, and `explore_numeric_scope` for one. -/
def exploreLiteralAs (r : Resolver) (hostname servname : CharPtr) (pai : Hints) :
    Except NameFault (Int × List Addrinfo) :=
  if hostname.isNone then pure (r.exploreNull pai servname)
  else do
    let name ← hostname.deref
    pure (r.exploreNumericScope pai name servname)

/-- The loop for a null or numeric host name. It ends with the first error. -/
def exploreLiteral (r : Resolver) (hostname servname : CharPtr) (ai0 : Hints) :
    List Explore → Except NameFault (Int × List Addrinfo)
  | [] => pure (0, [])
  | ex :: rest =>
    if ex.eAf = Af.unspec ∨ ¬matches? ai0.aiFamily ex.eAf ex.wildAf ∨ ¬typeMatches ai0 ex then
      exploreLiteral r hostname servname ai0 rest
    else do
      let family := if ai0.aiFamily = Af.unspec then ex.eAf else ai0.aiFamily
      let (error, found) ←
        exploreLiteralAs r hostname servname { complete ai0 ex with aiFamily := family }
      if error ≠ 0 then pure (error, [])
      else
        let (error, more) ← exploreLiteral r hostname servname ai0 rest
        pure (error, found ++ more)

/-- The loop for a host name that is looked up. The error is that of the last entry that matches. -/
def exploreNames (r : Resolver) (hostname servname : CharPtr) (ctx : AndroidNetContext)
    (ai0 : Hints) : Int → List Explore → Except NameFault (Int × List Addrinfo)
  | error, [] => pure (error, [])
  | error, ex :: rest =>
    if ai0.aiFamily ≠ ex.eAf ∨ ¬typeMatches ai0 ex then
      exploreNames r hostname servname ctx ai0 error rest
    else do
      let name ← hostname.deref
      let (error, found) := r.exploreFqdn (complete ai0 ex) name servname ctx
      let (error, more) ← exploreNames r hostname servname ctx ai0 error rest
      pure (error, found ++ more)

/-- `android_getaddrinfofornetcontext` from the first loop on. -/
def explore (r : Resolver) (hostname servname : CharPtr) (ctx : AndroidNetContext)
    (ai0 : Hints) : Except NameFault (Int × List Addrinfo) := do
  let (error, found) ← exploreLiteral r hostname servname ai0 exploreOptions
  if error ≠ 0 then pure (error, [])
  else if ¬found.isEmpty then pure (0, found)
  else if hostname.isNone then pure (Eai.nodata, [])
  else if toUint32 ai0.aiFlags &&& aiNumerichost ≠ 0 then pure (Eai.noname, [])
  else
    let (error, found) ← exploreNames r hostname servname ctx ai0 0 exploreOptions
    if ¬found.isEmpty then pure (0, found)
    else if error = 0 then pure (Eai.fail, [])
    else pure (error, [])

/-- `android_getaddrinfofornetcontext`: its result and `*res`. -/
def androidGetaddrinfofornetcontext (r : Resolver) (hostname servname : CharPtr)
    (hints : Option Hints) (ctx : AndroidNetContext) : Except NameFault (Int × List Addrinfo) :=
  if hostname.isNone ∧ servname.isNone then pure (Eai.noname, [])
  else
    let error := (hints.map checkHints).getD 0
    if error ≠ 0 then pure (error, [])
    else
      let pai := hints.getD ⟨0, Af.unspec, 0, 0⟩
      let asked := { pai with
        aiFamily := if pai.aiFamily = Af.unspec then Af.inet6 else pai.aiFamily }
      let error := getPortmatch r asked servname
      if error ≠ 0 then pure (error, [])
      else explore r hostname servname ctx pai

section

variable (r : Resolver)

theorem exploreLiteralAs_noFault (hostname servname : CharPtr) (pai : Hints) :
    NoFault (exploreLiteralAs r hostname servname pai) := by
  cases hostname with
  | none => exact .pure _
  | some name => exact (NoFault.deref name).bind fun _ => .pure _

theorem exploreLiteral_noFault (hostname servname : CharPtr) (ai0 : Hints)
    (table : List Explore) : NoFault (exploreLiteral r hostname servname ai0 table) := by
  induction table with
  | nil => exact .pure _
  | cons ex rest ih =>
    refine .ite (fun _ => ih) fun _ => ?_
    refine (exploreLiteralAs_noFault r hostname servname _).bind fun found => ?_
    exact .ite (fun _ => .pure _) fun _ => ih.bind fun _ => .pure _

theorem exploreNames_noFault (name : CString) (servname : CharPtr)
    (ctx : AndroidNetContext) (ai0 : Hints) (error : Int) (table : List Explore) :
    NoFault (exploreNames r (some name) servname ctx ai0 error table) := by
  induction table generalizing error with
  | nil => exact .pure _
  | cons ex rest ih =>
    refine .ite (fun _ => ih error) fun _ => ?_
    exact (NoFault.deref name).bind fun _ => (ih _).bind fun _ => .pure _

theorem explore_noFault (hostname servname : CharPtr) (ctx : AndroidNetContext)
    (ai0 : Hints) : NoFault (explore r hostname servname ctx ai0) := by
  refine (exploreLiteral_noFault r hostname servname ai0 exploreOptions).bind fun found => ?_
  refine .ite (fun _ => .pure _) fun _ => .ite (fun _ => .pure _) fun _ => ?_
  refine .ite (fun _ => .pure _) fun hname => .ite (fun _ => .pure _) fun _ => ?_
  -- the name has been tested, and only now is it looked up
  obtain ⟨name, rfl⟩ := Option.ne_none_iff_exists'.mp (mt Option.isNone_iff_eq_none.mpr hname)
  refine (exploreNames_noFault r name servname ctx ai0 0 exploreOptions).bind fun found => ?_
  exact .ite (fun _ => .pure _) fun _ => .ite (fun _ => .pure _) fun _ => .pure _

theorem androidGetaddrinfofornetcontext_noFault (hostname servname : CharPtr)
    (hints : Option Hints) (ctx : AndroidNetContext) :
    NoFault (androidGetaddrinfofornetcontext r hostname servname hints ctx) := by
  refine .ite (fun _ => .pure _) fun _ => .ite (fun _ => .pure _) fun _ => ?_
  exact .ite (fun _ => .pure _) fun _ => explore_noFault r hostname servname ctx _

end

end Getaddrinfo

/-! ## gethostbyname and gethostbyaddr -/

/-- The buffer is long enough for an address. -/
def gethostbynameInternalReal (r : Resolver) (name : CharPtr) (af : Int)
    (ctx : AndroidNetContext) : Except NameFault (Int × Option Hostent) :=
  if af = Af.inet ∨ af = Af.inet6 then do
    -- `name[0]`
    let name ← name.deref
    let (error, host) := r.gethostbynameReal name af ctx
    pure (error, if error = 0 then some host else none)
  else pure (Eai.family, none)

/-- `android_gethostbynamefornetcontext`: its result, and what it sets `*hp` to. -/
def androidGethostbynamefornetcontext (r : Resolver) (name : CharPtr) (af : Int)
    (ctx : AndroidNetContext) : Except NameFault (Int × Option Hostent) :=
  if r.resGetState then gethostbynameInternalReal r name af ctx
  else pure (Eai.memory, none)

/-- `android_gethostbyaddrfornetcontext`: its result, and what it sets `*hp` to. -/
def androidGethostbyaddrfornetcontext (r : Resolver) (addr : List Byte) (len af : Int)
    (ctx : AndroidNetContext) : Int × Option Hostent :=
  let (error, host) := r.gethostbyaddrReal addr len af ctx
  (error, if error = 0 then some host else none)

theorem androidGethostbynamefornetcontext_noFault (r : Resolver) (name : CString) (af : Int)
    (ctx : AndroidNetContext) :
    NoFault (androidGethostbynamefornetcontext r (some name) af ctx) := by
  refine .ite (fun _ => .ite (fun _ => ?_) fun _ => .pure _) fun _ => .pure _
  exact (NoFault.deref name).bind fun _ => .pure _

end Netd
