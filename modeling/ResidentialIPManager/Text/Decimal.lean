import ResidentialIPManager.Text.Strings

/-! # Decimal integers

What `strconv.Itoa` writes, and a reader of decimal integers that undoes it.
-/
namespace ResidentialIPManager.Text

theorem digits_repr (n : Nat) : lit (Nat.repr n) ≠ [] ∧
    (∀ r ∈ lit (Nat.repr n), r.isDigit = true) ∧ digitsValue (lit (Nat.repr n)) = n := by
  rw [lit, Nat.repr_eq_ofList_toDigits, String.toList_ofList]
  refine ⟨by simp [Nat.toDigits_ne_nil], ?_, ?_⟩
  · intro r hr
    obtain ⟨c, hc, rfl⟩ := List.mem_map.mp hr
    have hdigit := Nat.isDigit_of_mem_toDigits (by decide) (by decide) hc
    simpa [Rune.isDigit, Char.isDigit, Char.le_def] using hdigit
  · rw [digitsValue, List.foldl_map]
    exact Nat.ofDigitChars_toDigits (by decide) (by decide)

theorem itoa_cases (n : Int) :
    ∃ k : Nat, (n = k ∧ itoa n = lit (Nat.repr k)) ∨
      (n = -k ∧ itoa n = .scalar '-' :: lit (Nat.repr k)) := by
  cases n with
  | ofNat k => exact ⟨k, .inl ⟨rfl, rfl⟩⟩
  | negSucc k =>
    refine ⟨k + 1, .inr ⟨rfl, ?_⟩⟩
    have htext : toString (Int.negSucc k) = "-" ++ Nat.repr (k + 1) := rfl
    rw [itoa, htext, lit, String.toList_append, List.map_append]
    rfl

theorem mem_itoa {n : Int} (hn : 0 ≤ n) {r : Rune} (h : r ∈ itoa n) : r.isDigit = true := by
  obtain ⟨k, rfl⟩ := Int.eq_ofNat_of_zero_le hn
  exact (digits_repr k).2.1 r h

def decimal? (s : GoString) : Option Int :=
  match s with
  | .scalar '-' :: digits =>
    if digits ≠ [] ∧ digits.all Rune.isDigit then some (-digitsValue digits) else none
  | .scalar '+' :: digits =>
    if digits ≠ [] ∧ digits.all Rune.isDigit then some (digitsValue digits) else none
  | digits =>
    if digits ≠ [] ∧ digits.all Rune.isDigit then some (digitsValue digits) else none

theorem decimal?_digits {digits : GoString} (hne : digits ≠ [])
    (h : ∀ r ∈ digits, r.isDigit = true) : decimal? digits = some (digitsValue digits : Int) := by
  have hall : digits.all Rune.isDigit = true := List.all_eq_true.mpr h
  unfold decimal?
  split
  · exact absurd (h (.scalar '-') List.mem_cons_self) (by decide)
  · exact absurd (h (.scalar '+') List.mem_cons_self) (by decide)
  · exact if_pos ⟨hne, hall⟩

theorem decimal?_negative {digits : GoString} (hne : digits ≠ [])
    (h : ∀ r ∈ digits, r.isDigit = true) :
    decimal? (.scalar '-' :: digits) = some (-(digitsValue digits : Int)) := by
  have hall : digits.all Rune.isDigit = true := List.all_eq_true.mpr h
  exact if_pos ⟨hne, hall⟩

theorem decimal?_itoa (n : Int) : decimal? (itoa n) = some n := by
  obtain ⟨k, ⟨rfl, htext⟩ | ⟨rfl, htext⟩⟩ := itoa_cases n
  · obtain ⟨hne, hdigits, hvalue⟩ := digits_repr k
    rw [htext, decimal?_digits hne hdigits, hvalue]
  · obtain ⟨hne, hdigits, hvalue⟩ := digits_repr k
    rw [htext, decimal?_negative hne hdigits, hvalue]

theorem itoa_injective : Function.Injective itoa := by
  intro m n h
  have hread := congrArg decimal? h
  rw [decimal?_itoa, decimal?_itoa] at hread
  exact Option.some.inj hread

end ResidentialIPManager.Text
