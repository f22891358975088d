import Mathlib.Data.List.Basic

/-!
# Socket addresses of the Rust standard library

The text form of `SocketAddr`, read as `core::net` reads it: four decimal octets without
leading zeros, or a bracketed IPv6 address with an optional scope, then a colon and a
port. A reader takes the remaining characters and leaves the rest; one that fails leaves
its input to the next alternative.
-/
namespace Vyoma.SocketAddrs

structure Ipv4Addr where
  a : UInt8
  b : UInt8
  c : UInt8
  d : UInt8
  deriving DecidableEq, Repr

structure Ipv6Addr where
  segments : List UInt16
  length_eq : segments.length = 8
  deriving DecidableEq, Repr

inductive SocketAddr where
  | v4 (ip : Ipv4Addr) (port : UInt16)
  | v6 (ip : Ipv6Addr) (scopeId : UInt32) (port : UInt16)
  deriving DecidableEq, Repr

/-- `char::to_digit`. -/
def toDigit (radix : ℕ) (c : Char) : Option ℕ :=
  let value :=
    if '0' ≤ c ∧ c ≤ '9' then some (c.toNat - '0'.toNat)
    else if 'a' ≤ c ∧ c ≤ 'z' then some (c.toNat - 'a'.toNat + 10)
    else if 'A' ≤ c ∧ c ≤ 'Z' then some (c.toNat - 'A'.toNat + 10)
    else none
  value.filter (· < radix)

/-- The longest run of digits, refused when it is empty, longer than allowed, written with
a leading zero where none is allowed, or above the largest value. -/
def readNumber (radix : ℕ) (maxDigits : Option ℕ) (allowZeroPrefix : Bool) (largest : ℕ)
    (cs : List Char) : Option (ℕ × List Char) :=
  let ds := cs.takeWhile fun c => (toDigit radix c).isSome
  let value := ds.foldl (fun acc c => acc * radix + (toDigit radix c).getD 0) 0
  if ds = [] ∨ (∃ most ∈ maxDigits, most < ds.length) ∨
      (allowZeroPrefix = false ∧ ds.head? = some '0' ∧ 1 < ds.length) ∨ largest < value then none
  else some (value, cs.drop ds.length)

def readGivenChar (c : Char) : List Char → Option (List Char)
  | d :: cs => if d = c then some cs else none
  | [] => none

/-- A separator stands before every item but the first. -/
def readSeparator {α : Type} (sep : Char) (index : ℕ) (inner : List Char → Option (α × List Char))
    (cs : List Char) : Option (α × List Char) :=
  if index = 0 then inner cs else (readGivenChar sep cs).bind inner

def readOctet (cs : List Char) : Option (UInt8 × List Char) :=
  (readNumber 10 (some 3) false 255 cs).map fun (n, cs) => (UInt8.ofNat n, cs)

def readIpv4Addr (cs : List Char) : Option (Ipv4Addr × List Char) := do
  let (a, cs) ← readSeparator '.' 0 readOctet cs
  let (b, cs) ← readSeparator '.' 1 readOctet cs
  let (c, cs) ← readSeparator '.' 2 readOctet cs
  let (d, cs) ← readSeparator '.' 3 readOctet cs
  some (⟨a, b, c, d⟩, cs)

def readGroup (cs : List Char) : Option (UInt16 × List Char) :=
  (readNumber 16 (some 4) true 65535 cs).map fun (n, cs) => (UInt16.ofNat n, cs)

/-- The two groups an embedded IPv4 address stands for. -/
def Ipv4Addr.groups (ip : Ipv4Addr) : List UInt16 :=
  [ip.a.toUInt16 * 256 + ip.b.toUInt16, ip.c.toUInt16 * 256 + ip.d.toUInt16]

/-- As many groups as there are, up to a limit; an IPv4 address may end them where two
groups are left. Returns whether it did. -/
def readGroups : ℕ → ℕ → List Char → List UInt16 × Bool × List Char
  | 0, _, cs => ([], false, cs)
  | left + 1, index, cs =>
    match if 0 < left then readSeparator ':' index readIpv4Addr cs else none with
    | some (ip, cs) => (ip.groups, true, cs)
    | none =>
      match readSeparator ':' index readGroup cs with
      | some (group, cs) =>
        let (groups, embedded, cs) := readGroups left (index + 1) cs
        (group :: groups, embedded, cs)
      | none => ([], false, cs)

def Ipv6Addr.ofGroups (groups : List UInt16) : Option Ipv6Addr :=
  if h : groups.length = 8 then some ⟨groups, h⟩ else none

def readIpv6Addr (cs : List Char) : Option (Ipv6Addr × List Char) :=
  let (head, embedded, cs) := readGroups 8 0 cs
  if head.length = 8 then (Ipv6Addr.ofGroups head).map fun ip => (ip, cs)
  else if embedded then none
  else do
    -- the double colon stands for at least one group of zeros
    let cs ← readGivenChar ':' cs
    let cs ← readGivenChar ':' cs
    let (tail, _, cs) := readGroups (8 - (head.length + 1)) 0 cs
    let zeros := List.replicate (8 - head.length - tail.length) 0
    (Ipv6Addr.ofGroups (head ++ zeros ++ tail)).map fun ip => (ip, cs)

def readPort (cs : List Char) : Option (UInt16 × List Char) :=
  ((readGivenChar ':' cs).bind (readNumber 10 none true 65535)).map fun (n, cs) =>
    (UInt16.ofNat n, cs)

def readScopeId (cs : List Char) : Option (UInt32 × List Char) :=
  ((readGivenChar '%' cs).bind (readNumber 10 none true 4294967295)).map fun (n, cs) =>
    (UInt32.ofNat n, cs)

def readSocketAddrV4 (cs : List Char) : Option (SocketAddr × List Char) := do
  let (ip, cs) ← readIpv4Addr cs
  let (port, cs) ← readPort cs
  some (.v4 ip port, cs)

def readSocketAddrV6 (cs : List Char) : Option (SocketAddr × List Char) := do
  let cs ← readGivenChar '[' cs
  let (ip, cs) ← readIpv6Addr cs
  let (scopeId, cs) := (readScopeId cs).getD (0, cs)
  let cs ← readGivenChar ']' cs
  let (port, cs) ← readPort cs
  some (.v6 ip scopeId port, cs)

/-- `str::parse::<SocketAddr>`: nothing may be left over. -/
def SocketAddr.parse (text : String) : Option SocketAddr :=
  match (readSocketAddrV4 text.toList).or (readSocketAddrV6 text.toList) with
  | some (addr, []) => some addr
  | _ => none

inductive IpAddr where
  | v4 (ip : Ipv4Addr)
  | v6 (ip : Ipv6Addr)
  deriving DecidableEq, Repr

def readIpAddr (cs : List Char) : Option (IpAddr × List Char) :=
  ((readIpv4Addr cs).map fun (ip, cs) => (IpAddr.v4 ip, cs)).or
    ((readIpv6Addr cs).map fun (ip, cs) => (IpAddr.v6 ip, cs))

/-- `str::parse::<IpAddr>`. -/
def IpAddr.parse (text : String) : Option IpAddr :=
  match readIpAddr text.toList with
  | some (ip, []) => some ip
  | _ => none

end Vyoma.SocketAddrs
