import CallingAgent.Lib.Text

/-!
# Internet addresses — the texts `ipaddress` reads and writes

An address of version 4 is four decimal numbers; one of version 6 is eight
hexadecimal groups, of which one run of zeros may be left out, and the last
two may be written like an address of version 4. A network is an address
whose host bits are clear, with a mask.
-/

namespace CallingAgent.Lib

inductive IPAddress where
  | v4 (ip : BitVec 32)
  | v6 (ip : BitVec 128) (scope : Option (List Char))
  deriving DecidableEq

/-! ## Version 4 -/

/-- `text.isascii() and text.isdigit()` -/
def allDigits (text : List Char) : Bool :=
  !text.isEmpty && text.all fun c => '0' ≤ c && c ≤ '9'

/-- `int(text)` of ASCII digits. -/
def digitsToNat (text : List Char) : Nat :=
  text.foldl (fun n c => 10 * n + (c.toNat - 48)) 0

/-- `_parse_octet` -/
def parseOctet (text : List Char) : Option Nat :=
  if !allDigits text || 3 < text.length then none
  else if text != ['0'] && text.head? == some '0' then none
  else if 255 < digitsToNat text then none
  else some (digitsToNat text)

/-- `IPv4Address(text)` -/
def parseIPv4 (text : List Char) : Option (BitVec 32) :=
  match text.splitOn '.' with
  | [a, b, c, d] => do
      let a ← parseOctet a
      let b ← parseOctet b
      let c ← parseOctet c
      let d ← parseOctet d
      some (BitVec.ofNat 32 (((a * 256 + b) * 256 + c) * 256 + d))
  | _ => none

/-- The four octets, most significant first. -/
def octets (ip : BitVec 32) : List Nat :=
  [ip.toNat / 16777216 % 256, ip.toNat / 65536 % 256, ip.toNat / 256 % 256,
    ip.toNat % 256]

/-- `str(address)`, of version 4 -/
def renderIPv4 (ip : BitVec 32) : List Char :=
  ['.'].intercalate ((octets ip).map (Nat.toDigits 10))

/-! ## Version 6 -/

/-- The value of a digit in `_HEX_DIGITS`. -/
def hexDigitValue (c : Char) : Option Nat :=
  if '0' ≤ c ∧ c ≤ '9' then some (c.toNat - 48)
  else if 'a' ≤ c ∧ c ≤ 'f' then some (c.toNat - 87)
  else if 'A' ≤ c ∧ c ≤ 'F' then some (c.toNat - 55)
  else none

/-- `_parse_hextet` -/
def parseHextet (text : List Char) : Option Nat :=
  if text.isEmpty || 4 < text.length then none
  else text.foldlM (fun n c => (hexDigitValue c).map (16 * n + ·)) 0

/-- The value of groups that follow each other. -/
def hextetsValue (parts : List (List Char)) : Option Nat :=
  parts.foldlM (fun n part => (parseHextet part).map (65536 * n + ·)) 0

/-- A last part with dots is an address of version 4, and two groups. -/
def embedIPv4 (parts : List (List Char)) : Option (List (List Char)) :=
  match parts.getLast? with
  | none => some parts
  | some last =>
      if last.contains '.' then
        (parseIPv4 last).map fun ip =>
          parts.dropLast ++ [Nat.toDigits 16 (ip.toNat / 65536),
            Nat.toDigits 16 (ip.toNat % 65536)]
      else some parts

/-- Where a part between the ends is empty. -/
def skipIndices (parts : List (List Char)) : List Nat :=
  (List.range parts.length).filter fun i =>
    0 < i && i + 1 < parts.length && (parts.getD i []).isEmpty

/-- `_ip_int_from_string`, of version 6 -/
def parseIPv6Value (text : List Char) : Option Nat := do
  let parts := text.splitOn ':'
  if parts.length < 3 then none else
  let parts ← embedIPv4 parts
  if 9 < parts.length then none else
  let leading := parts.head?.any (·.isEmpty)
  let trailing := parts.getLast?.any (·.isEmpty)
  match skipIndices parts with
  | [] =>
      if parts.length ≠ 8 || leading || trailing then none
      else hextetsValue parts
  | [skip] =>
      -- a colon at an end belongs to the double colon
      if leading && skip ≠ 1 then none else
      if trailing && skip + 2 ≠ parts.length then none else
      let hi := if leading then skip - 1 else skip
      let lo := parts.length - skip - 1 - (if trailing then 1 else 0)
      if 8 ≤ hi + lo then none else
      let high ← hextetsValue (parts.take hi)
      let low ← hextetsValue (parts.drop (parts.length - lo))
      some (high * Nat.pow 65536 (8 - hi) + low)
  | _ => none

/-- `_split_scope_id` -/
def splitScope (text : List Char) : Option (List Char × Option (List Char)) :=
  match text.splitOn '%' with
  | [addr] => some (addr, none)
  | [addr, scope] => if scope.isEmpty then none else some (addr, some scope)
  | _ => none

/-- `IPv6Address(text)` -/
def parseIPv6 (text : List Char) : Option IPAddress :=
  if text.contains '/' then none
  else do
    let (addr, scope) ← splitScope text
    let n ← parseIPv6Value addr
    some (.v6 (BitVec.ofNat 128 n) scope)

/-- `ip_address(text)` -/
def parseIPAddress (text : List Char) : Option IPAddress :=
  match parseIPv4 text with
  | some ip => some (.v4 ip)
  | none => parseIPv6 text

/-- The eight groups, most significant first. -/
def hextets (ip : BitVec 128) : List Nat :=
  (List.range 8).map fun i => ip.toNat / Nat.pow 65536 (7 - i) % 65536

/-- Where the first of the longest runs of zeros begins, and how long it is. -/
structure ZeroRun where
  bestStart : Nat
  bestLength : Nat
  /-- the run that the scan is in -/
  length : Nat

/-- One group of the scan of `_compress_hextets`. -/
def ZeroRun.scan (r : ZeroRun) (index hextet : Nat) : ZeroRun :=
  if hextet = 0 then
    if r.bestLength < r.length + 1 then
      ⟨index - r.length, r.length + 1, r.length + 1⟩
    else { r with length := r.length + 1 }
  else { r with length := 0 }

def longestZeroRun (hs : List Nat) : ZeroRun :=
  hs.zipIdx.foldl (fun r (h, i) => r.scan i h) ⟨0, 0, 0⟩

/-- `_string_from_ip_int`, of version 6: the longest run of at least two zero
groups is left out. -/
def renderIPv6 (ip : BitVec 128) : List Char :=
  let hs := hextets ip
  let parts := hs.map (Nat.toDigits 16)
  let run := longestZeroRun hs
  let stop := run.bestStart + run.bestLength
  if 1 < run.bestLength then
    [':'].intercalate ((if run.bestStart = 0 then [[]] else [])
      ++ parts.take run.bestStart ++ [] :: parts.drop stop
      ++ (if stop = hs.length then [[]] else []))
  else [':'].intercalate parts

/-- `str(address)` -/
def IPAddress.render : IPAddress → List Char
  | .v4 ip => renderIPv4 ip
  | .v6 ip none => renderIPv6 ip
  | .v6 ip (some scope) => renderIPv6 ip ++ '%' :: scope

/-! ## Networks -/

/-- The mask of a prefix length. -/
def netmask (w prefixlen : Nat) : BitVec w :=
  BitVec.allOnes w ^^^ (BitVec.allOnes w >>> prefixlen)

/-- A network of one version: its host bits are clear. -/
structure Subnet (w : Nat) where
  address : BitVec w
  prefixlen : Nat
  bound : prefixlen ≤ w
  clear : address &&& netmask w prefixlen = address

/-- The network of an address, whose host bits are cleared. -/
def Subnet.of {w : Nat} (ip : BitVec w) (prefixlen : Nat)
    (bound : prefixlen ≤ w) : Subnet w where
  address := ip &&& netmask w prefixlen
  prefixlen := prefixlen
  bound := bound
  clear := by rw [BitVec.and_assoc, BitVec.and_self]

/-- `address in network`, of one version -/
def Subnet.covers {w : Nat} (net : Subnet w) (ip : BitVec w) : Bool :=
  ip &&& netmask w net.prefixlen == net.address

inductive Network where
  | v4 (net : Subnet 32)
  | v6 (net : Subnet 128)

/-- `address.version == net.version and address in net` -/
def Network.covers : Network → IPAddress → Bool
  | .v4 net, .v4 ip => net.covers ip
  | .v6 net, .v6 ip _ => net.covers ip
  | _, _ => false

/-- `_prefix_from_prefix_string` -/
def parsePrefixlen (w : Nat) (text : List Char) :
    Option { p : Nat // p ≤ w } :=
  if allDigits text then
    if h : digitsToNat text ≤ w then some ⟨digitsToNat text, h⟩ else none
  else none

/-- `_prefix_from_ip_int`: the length whose mask the number is. -/
def prefixOfMask (mask : BitVec 32) : Option { p : Nat // p ≤ 32 } :=
  (List.finRange 33).findSome? fun p =>
    if netmask 32 p.val = mask then some ⟨p.val, Nat.le_of_lt_succ p.isLt⟩
    else none

/-- `_prefix_from_ip_string`: a netmask, or else a hostmask. -/
def parseMask (text : List Char) : Option { p : Nat // p ≤ 32 } := do
  let mask ← parseIPv4 text
  (prefixOfMask mask).or (prefixOfMask (~~~mask))

/-- `ip_network(text, strict=False)` -/
def parseNetwork (text : List Char) : Option Network :=
  match text.splitOn '/' with
  | [addr] =>
      match parseIPAddress addr with
      | some (.v4 ip) => some (.v4 (.of ip 32 (Nat.le_refl _)))
      | some (.v6 ip _) => some (.v6 (.of ip 128 (Nat.le_refl _)))
      | none => none
  | [addr, mask] =>
      match parseIPAddress addr with
      | some (.v4 ip) =>
          ((parsePrefixlen 32 mask).or (parseMask mask)).map fun p =>
            .v4 (.of ip p.val p.property)
      | some (.v6 ip _) =>
          (parsePrefixlen 128 mask).map fun p => .v6 (.of ip p.val p.property)
      | none => none
  | _ => none

end CallingAgent.Lib
