import Mathlib.Data.List.DropRight
import Mathlib.Tactic

/-! # Go strings as sequences of decoded runes

A Go string is a byte sequence. Ranging over it decodes UTF-8 and yields one
rune for every well-formed sequence and one replacement rune for every stray
byte. `Rune` keeps the two apart and remembers the stray byte, so a list of
runes determines the bytes it came from. Splitting, trimming and folding act
on runes and never join two of them, so they are list operations here.
-/
namespace ResidentialIPManager.Text

/-- A decoded rune, or a byte that is not part of a well-formed sequence. -/
inductive Rune where
  | scalar (c : Char)
  | invalid (b : UInt8)
  deriving DecidableEq, Repr, Inhabited

abbrev GoString := List Rune

instance GoString.lawfulBEq : LawfulBEq GoString := List.instLawfulBEq

def lit (s : String) : GoString := s.toList.map .scalar

namespace Rune

def codePoint : Rune → Nat
  | .scalar c => c.toNat
  | .invalid _ => 0xFFFD

def bytes : Rune → List UInt8
  | .scalar c => (String.utf8EncodeChar c)
  | .invalid b => [b]

/-- `unicode.IsSpace`: the Latin-1 blanks and the other White_Space code points. -/
def isSpace : Rune → Bool
  | .invalid _ => false
  | .scalar c =>
    let n := c.toNat
    (9 ≤ n && n ≤ 13) || n == 0x20 || n == 0x85 || n == 0xA0 || n == 0x1680 ||
      (0x2000 ≤ n && n ≤ 0x200A) || n == 0x2028 || n == 0x2029 || n == 0x202F ||
      n == 0x205F || n == 0x3000

/-- `unicode.ToLower` as far as it yields ASCII. The Kelvin sign and the dotted capital
I are the two runes outside ASCII that fold into it; a stray byte becomes U+FFFD. Other
letters outside ASCII stay as they are, where Go maps them to their lower case. -/
def toLower : Rune → Rune
  | .invalid _ => .scalar '\uFFFD'
  | .scalar c =>
    if 'A' ≤ c ∧ c ≤ 'Z' then .scalar (Char.ofNat (c.toNat + 32))
    else if c = '\u212A' then .scalar 'k'
    else if c = '\u0130' then .scalar 'i'
    else .scalar c

/-- `unicode.ToUpper` with the same restriction: the long s and the dotless i are
the two runes outside ASCII whose upper case is an ASCII letter. It is applied to the
country codes, which are stored: one with another letter outside ASCII is stored here
as it came. -/
def toUpper : Rune → Rune
  | .invalid _ => .scalar '\uFFFD'
  | .scalar c =>
    if 'a' ≤ c ∧ c ≤ 'z' then .scalar (Char.ofNat (c.toNat - 32))
    else if c = '\u017F' then .scalar 'S'
    else if c = '\u0131' then .scalar 'I'
    else .scalar c

def isDigit : Rune → Bool
  | .scalar c => '0' ≤ c && c ≤ '9'
  | .invalid _ => false

end Rune

def GoString.bytes (s : GoString) : List UInt8 := s.flatMap Rune.bytes

def GoString.byteLen (s : GoString) : Nat := (GoString.bytes s).length

/-- Go compares strings by their bytes. -/
def GoString.less (a b : GoString) : Bool := decide (GoString.bytes a < GoString.bytes b)

end ResidentialIPManager.Text
