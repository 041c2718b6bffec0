/-
Numbers in decimal digits.

A number that was written can be read again, so two numbers are written alike only if they are equal.
Main statements:

* **`number_ofNat`** — a written number is read as it was;
* **`ofInt_injective`** — different integers are written differently;
* **`colon_not_mem_ofInt`** — there is no colon in a written integer.
-/
import SpecifierLint.Text.Basic

namespace SpecifierLint.Text

/-- The number that decimal digits stand for. -/
def number (t : Text) : Nat := Nat.ofDigitChars 10 t 0

/-- A written number is read as it was. -/
@[simp] theorem number_ofNat (n : Nat) : number (ofNat n) = n := Nat.ofDigitChars_ten_toDigits

theorem ofNat_injective {m n : Nat} (h : ofNat m = ofNat n) : m = n := by
  rw [← number_ofNat m, h, number_ofNat]

theorem isDigit_of_mem_ofNat {n : Nat} {c : Char} (h : c ∈ ofNat n) : c.isDigit = true :=
  Nat.isDigit_of_mem_toDigits (by decide) (by decide) h

theorem colon_not_mem_ofNat (n : Nat) : ':' ∉ ofNat n := by
  intro h
  exact absurd (isDigit_of_mem_ofNat h) (by decide)

/-- There is no colon in a written integer. -/
theorem colon_not_mem_ofInt (a : Int) : ':' ∉ ofInt a := by
  cases a with
  | ofNat n => exact colon_not_mem_ofNat n
  | negSucc n =>
    intro h
    rcases List.mem_cons.1 h with h | h
    · exact absurd h (by decide)
    · exact colon_not_mem_ofNat (n + 1) h

/-- Different integers are written differently. -/
theorem ofInt_injective {a b : Int} (h : ofInt a = ofInt b) : a = b := by
  -- a minus sign is no digit
  have hsign (m n : Nat) : ofNat m ≠ '-' :: ofNat n := by
    intro heq
    have hminus : '-' ∈ ofNat m := by simp [heq]
    exact absurd (isDigit_of_mem_ofNat hminus) (by decide)
  cases a with
  | ofNat m =>
    cases b with
    | ofNat n => rw [ofNat_injective h]
    | negSucc n => exact absurd h (hsign m (n + 1))
  | negSucc m =>
    cases b with
    | ofNat n => exact absurd h.symm (hsign n (m + 1))
    | negSucc n =>
      have hsucc : m + 1 = n + 1 := ofNat_injective (List.cons.inj h).2
      rw [Nat.succ.inj hsucc]

end SpecifierLint.Text
