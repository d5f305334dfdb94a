import Multiples.Text.Basic

/-!
# Hexadecimal digits

`Hex.nat` reads digits in either letter case; `Hex.nat_toDigits` says that the digits of a number read back.
-/

namespace Multiples

namespace Hex

/-- Whether a character is a hexadecimal digit. -/
def isDigit (c : Char) : Bool :=
  c.isDigit || (decide ('a' ≤ c) && decide (c ≤ 'f')) || (decide ('A' ≤ c) && decide (c ≤ 'F'))

/-- The value of a hexadecimal digit. -/
def value (c : Char) : Nat :=
  if c.isDigit then c.toNat - 48 else if 'a' ≤ c then c.toNat - 87 else c.toNat - 55

/-- The value of hexadecimal digits. -/
def nat (digits : Text) : Nat := digits.foldl (fun n c => 16 * n + value c) 0

/-! ### Small lemmas -/

theorem nat_concat (digits : Text) (c : Char) : nat (digits ++ [c]) = 16 * nat digits + value c := by
  rw [nat, List.foldl_append]
  rfl

theorem value_digitChar : ∀ d < 16, value (Nat.digitChar d) = d := by decide

/-- A number is written with the digits there are. -/
theorem exists_of_mem_toDigits {n : Nat} {c : Char} (h : c ∈ Nat.toDigits 16 n) : ∃ d < 16, c = Nat.digitChar d := by
  induction n using Nat.strongRecOn with
  | ind n ih =>
    rw [Nat.toDigits_eq_if (by omega)] at h
    split at h
    · rename_i hsmall
      exact ⟨n, hsmall, List.mem_singleton.1 h⟩
    · rcases List.mem_append.1 h with hfront | hlast
      · exact ih (n / 16) (by omega) hfront
      · exact ⟨n % 16, by omega, List.mem_singleton.1 hlast⟩

theorem isDigit_of_mem_toDigits {n : Nat} {c : Char} (h : c ∈ Nat.toDigits 16 n) : isDigit c = true := by
  have hall : ∀ d < 16, isDigit (Nat.digitChar d) = true := by decide
  obtain ⟨d, hd, rfl⟩ := exists_of_mem_toDigits h
  exact hall d hd

/-- **What is written reads back.** -/
theorem nat_toDigits (n : Nat) : nat (Nat.toDigits 16 n) = n := by
  induction n using Nat.strongRecOn with
  | ind n ih =>
    rw [Nat.toDigits_eq_if (by omega)]
    split
    · rename_i hsmall
      show 16 * 0 + value n.digitChar = n
      rw [value_digitChar n hsmall]
      omega
    · rw [nat_concat, ih (n / 16) (by omega), value_digitChar (n % 16) (by omega)]
      omega

end Hex

end Multiples
