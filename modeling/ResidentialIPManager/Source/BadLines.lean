import ResidentialIPManager.Source.Payload

/-! # Lines that give no node

A record that `rowToNode` rejects is passed over. A line is such a record only if it is
one by itself and stands between records: the reader takes the list as a whole, so a
stray quote in one line loses all rows. A line inside a quoted field becomes part of that
field, and of the records only the one that it merges into changes.
-/
namespace ResidentialIPManager.Source
open Text Domain CSV

section Rows

variable {index : GoString → Option Nat}

end Rows

section Lines

variable {text text' extra : GoString} {front back : List GoString}

end Lines

end ResidentialIPManager.Source
