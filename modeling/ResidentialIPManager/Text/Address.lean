import ResidentialIPManager.Text.Strings

/-! # IP addresses and their texts

`parseIP` follows `net.ParseIP`: dotted decimal without leading zeros, or up to
eight hexadecimal groups with at most one `::` and an optional dotted tail; a
zone is refused. Every accepted address is kept in its 16-byte form as eight
16-bit groups, an IPv4 address as the mapped one. `IP.string` is `net.IP.String`.
-/
namespace ResidentialIPManager.Text

/-- A 16-byte address as eight groups. -/
@[ext] structure IP where
  groups : List Nat
  length_eq : groups.length = 8
  bounded : ∀ g ∈ groups, g < 65536

instance : DecidableEq IP := fun a b => decidable_of_iff (a.groups = b.groups) IP.ext_iff.symm

def IP.ofGroups (g : List Nat) : Option IP :=
  if h : g.length = 8 ∧ ∀ x ∈ g, x < 65536 then some ⟨g, h.1, h.2⟩ else none

/-- One decimal octet: digits only, no leading zero, at most 255. -/
def parseOctet (s : GoString) : Option Nat :=
  if s.isEmpty || !s.all Rune.isDigit || (1 < s.length && s.head? == some (.scalar '0')) then none
  else if digitsValue s ≤ 255 then some (digitsValue s) else none

def parseIPv4 (s : GoString) : Option (List Nat) :=
  match (split '.' s).map parseOctet with
  | [some a, some b, some c, some d] => some [256 * a + b, 256 * c + d]
  | _ => none

def hexDigit : Rune → Option Nat
  | .scalar c =>
    if '0' ≤ c ∧ c ≤ '9' then some (c.toNat - 48)
    else if 'a' ≤ c ∧ c ≤ 'f' then some (c.toNat - 87)
    else if 'A' ≤ c ∧ c ≤ 'F' then some (c.toNat - 55)
    else none
  | .invalid _ => none

def hexValue : GoString → Nat → Option Nat
  | [], acc => some acc
  | r :: rest, acc => (hexDigit r).bind (fun d => hexValue rest (16 * acc + d))

def parseHexGroup (s : GoString) : Option Nat :=
  if s.isEmpty || 4 < s.length then none else hexValue s 0

def parseHexGroups : List GoString → Option (List Nat)
  | [] => some []
  | s :: rest => (parseHexGroup s).bind (fun g => (parseHexGroups rest).map (g :: ·))

/-- Groups whose last segment may be a dotted address. -/
def parseGroups : List GoString → Option (List Nat)
  | [] => some []
  | [s] => if s.contains (.scalar '.') then parseIPv4 s else (parseHexGroup s).map ([·])
  | s :: rest => (parseHexGroup s).bind (fun g => (parseGroups rest).map (g :: ·))

def cutEllipsis : GoString → Option (GoString × GoString)
  | .scalar ':' :: .scalar ':' :: rest => some ([], rest)
  | r :: rest => (cutEllipsis rest).map (fun p => (r :: p.1, p.2))
  | [] => none

/-- The colon-separated segments of one side of `::`; an empty side has none. -/
def sideSegments (s : GoString) : List GoString := if s.isEmpty then [] else split ':' s

def parseIPv6 (s : GoString) : Option (List Nat) :=
  match cutEllipsis s with
  | some (l, r) =>
    (parseHexGroups (sideSegments l)).bind fun gl =>
      (parseGroups (sideSegments r)).bind fun gr =>
        if gl.length + gr.length ≤ 7 then
          some (gl ++ List.replicate (8 - (gl.length + gr.length)) 0 ++ gr)
        else none
  | none => parseGroups (split ':' s)

def parseIP (s : GoString) : Option IP :=
  match s.find? (fun r => r = .scalar '.' ∨ r = .scalar ':' ∨ r = .scalar '%') with
  | some (.scalar '.') => (parseIPv4 s).bind (fun g => IP.ofGroups ([0, 0, 0, 0, 0, 65535] ++ g))
  | some (.scalar ':') =>
    if s.contains (.scalar '%') then none else (parseIPv6 s).bind IP.ofGroups
  | _ => none

namespace IP

def to4 (ip : IP) : Option (Nat × Nat × Nat × Nat) :=
  match ip.groups with
  | [0, 0, 0, 0, 0, 65535, a, b] => some (a / 256, a % 256, b / 256, b % 256)
  | _ => none

def firstByte (ip : IP) : Nat := ip.groups.headD 0 / 256

def isUnspecified (ip : IP) : Bool :=
  ip.to4 == some (0, 0, 0, 0) || ip.groups == [0, 0, 0, 0, 0, 0, 0, 0]

def isLoopback (ip : IP) : Bool :=
  match ip.to4 with
  | some (a, _, _, _) => a == 127
  | none => ip.groups == [0, 0, 0, 0, 0, 0, 0, 1]

def isPrivate (ip : IP) : Bool :=
  match ip.to4 with
  | some (a, b, _, _) => a == 10 || (a == 172 && b / 16 == 1) || (a == 192 && b == 168)
  | none => ip.firstByte / 2 == 126

def isMulticast (ip : IP) : Bool :=
  match ip.to4 with
  | some (a, _, _, _) => a / 16 == 14
  | none => ip.firstByte == 255

def isLinkLocalUnicast (ip : IP) : Bool :=
  match ip.to4 with
  | some (a, b, _, _) => a == 169 && b == 254
  | none => ip.groups.headD 0 / 64 == 1018

def isGlobalUnicast (ip : IP) : Bool :=
  ip.to4 != some (255, 255, 255, 255) && !ip.isUnspecified && !ip.isLoopback &&
    !ip.isMulticast && !ip.isLinkLocalUnicast

def hexRune (d : Nat) : Rune := .scalar (if d < 10 then Char.ofNat (d + 48) else Char.ofNat (d + 87))

def hexGroup (n : Nat) : GoString :=
  if n < 16 then [hexRune n]
  else if n < 256 then [hexRune (n / 16), hexRune (n % 16)]
  else if n < 4096 then [hexRune (n / 256), hexRune (n / 16 % 16), hexRune (n % 16)]
  else [hexRune (n / 4096), hexRune (n / 256 % 16), hexRune (n / 16 % 16), hexRune (n % 16)]

def decimalOctet (n : Nat) : GoString :=
  if n < 10 then [hexRune n]
  else if n < 100 then [hexRune (n / 10), hexRune (n % 10)]
  else [hexRune (n / 100), hexRune (n / 10 % 10), hexRune (n % 10)]

def zeroPrefix (g : List Nat) : Nat := (g.takeWhile (· == 0)).length

/-- Start and length of the first longest run of at least two zero groups. -/
def zeroRun (g : List Nat) : Option (Nat × Nat) :=
  (List.range g.length).foldl
    (fun best i =>
      if 2 ≤ zeroPrefix (g.drop i) ∧ (best.map Prod.snd).getD 0 < zeroPrefix (g.drop i) then
        some (i, zeroPrefix (g.drop i))
      else best)
    none

def joinGroups (g : List Nat) : GoString := join (lit ":") (g.map hexGroup)

def string (ip : IP) : GoString :=
  match ip.to4 with
  | some (a, b, c, d) => join (lit ".") ([a, b, c, d].map decimalOctet)
  | none =>
    match zeroRun ip.groups with
    | some (i, l) => joinGroups (ip.groups.take i) ++ lit "::" ++ joinGroups (ip.groups.drop (i + l))
    | none => joinGroups ip.groups

end IP

end ResidentialIPManager.Text
