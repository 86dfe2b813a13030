import ResidentialIPManager.Text.Strings

/-! # Comparison without regard to case

`strings.EqualFold` as far as one of the strings is a word of ASCII letters. Two runes outside
ASCII fold into it, the Kelvin sign and the long s; a stray byte reads as U+FFFD. Runes that fold
only among themselves are kept apart, which makes no difference to such a word. The country codes
of a node and of its exit are two free strings: if they differ only in the case of a letter outside
ASCII they are equal in Go and different here.
-/
namespace ResidentialIPManager.Text

def Rune.fold : Rune → Rune
  | .invalid _ => .scalar '\uFFFD'
  | .scalar c =>
    if 'A' ≤ c ∧ c ≤ 'Z' then .scalar (Char.ofNat (c.toNat + 32))
    else if c = '\u212A' then .scalar 'k'
    else if c = '\u017F' then .scalar 's'
    else .scalar c

def equalFold (s t : GoString) : Bool := s.map Rune.fold = t.map Rune.fold

end ResidentialIPManager.Text
