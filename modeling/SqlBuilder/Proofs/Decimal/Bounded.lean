import SqlBuilder.Decimal.Bounded

/-!
# What is read as a number

A text is read as a number exactly if it is a numeral whose number is within the bound. What has been read never gets
smaller with another digit, so a numeral within the bound does not pass it on the way either.

* `DigitRun`, `Numeral` : runs of digits, and numerals, which may have a plus sign, with their numbers.
* `readDigits_eq_some_iff` : reading digits after a number that has been read already.
* `readBounded_eq_some_iff` : the texts that are read as a number.
-/

namespace SqlBuilder.Decimal

set_option autoImplicit false

/-! ## Numerals -/

/-- A run of digits, at least one, and its number. -/
structure DigitRun (cs : List Char) (n : Nat) : Prop where
  nonempty : cs ≠ []
  digits : ∀ c ∈ cs, c.isDigit = true
  number : n = Nat.ofDigitChars 10 cs 0

/-- Digits, which may have a plus sign before them. -/
inductive Numeral : List Char → Nat → Prop
  | unsigned {cs : List Char} {n : Nat} (digits : DigitRun cs n) : Numeral cs n
  | signed {cs : List Char} {n : Nat} (digits : DigitRun cs n) : Numeral ('+' :: cs) n

theorem dropPlus_of_forall_ne {cs : List Char} (h : ∀ rest, cs ≠ '+' :: rest) : dropPlus cs = cs := dropPlus.eq_2 cs h

theorem numeral_iff {cs : List Char} {n : Nat} : Numeral cs n ↔ DigitRun (dropPlus cs) n := by
  constructor
  · rintro (digits | digits)
    · have unsigned : ∀ rest, cs ≠ '+' :: rest := by
        rintro rest rfl
        exact absurd (digits.digits '+' List.mem_cons_self) (by decide)
      rw [dropPlus_of_forall_ne unsigned]
      exact digits
    · exact digits
  · intro digits
    by_cases signed : ∃ rest, cs = '+' :: rest
    · obtain ⟨rest, rfl⟩ := signed
      exact .signed digits
    · rw [dropPlus_of_forall_ne (not_exists.1 signed)] at digits
      exact .unsigned digits

/-! ## Reading -/

theorem le_ofDigitChars (value : Nat) (cs : List Char) : value ≤ Nat.ofDigitChars 10 cs value := by
  induction cs generalizing value with
  | nil => exact Nat.le_refl value
  | cons c cs ih =>
    rw [Nat.ofDigitChars_cons]
    have grows := ih (10 * value + (c.toNat - '0'.toNat))
    omega

variable {bound value n : Nat}

theorem readDigits_cons_eq_some_iff {c : Char} {cs : List Char} :
    readDigits bound value (c :: cs) = some n ↔
      c.isDigit = true ∧ value * 10 + (c.toNat - '0'.toNat) ≤ bound ∧
        readDigits bound (value * 10 + (c.toNat - '0'.toNat)) cs = some n := by
  rw [readDigits, digitValue?]
  cases digit : c.isDigit with
  | false => simp
  | true => simp only [if_true, Option.ite_none_right_eq_some, true_and]

theorem readDigits_eq_some_iff {cs : List Char} (within : value ≤ bound) :
    readDigits bound value cs = some n ↔
      (∀ c ∈ cs, c.isDigit = true) ∧ n = Nat.ofDigitChars 10 cs value ∧ n ≤ bound := by
  induction cs generalizing value with
  | nil =>
    rw [readDigits, Nat.ofDigitChars_nil, Option.some.injEq]
    constructor
    · rintro rfl
      exact ⟨List.forall_mem_nil _, rfl, within⟩
    · rintro ⟨-, rfl, -⟩
      rfl
  | cons c cs ih =>
    rw [readDigits_cons_eq_some_iff, List.forall_mem_cons, Nat.ofDigitChars_cons, Nat.mul_comm 10 value]
    constructor
    · rintro ⟨digit, fits, read⟩
      obtain ⟨digits, number, bounded⟩ := (ih fits).1 read
      exact ⟨⟨digit, digits⟩, number, bounded⟩
    · rintro ⟨⟨digit, digits⟩, number, bounded⟩
      -- The digits behind this one only add to the number that it leads to.
      have fits : value * 10 + (c.toNat - '0'.toNat) ≤ bound :=
        Nat.le_trans (le_ofDigitChars _ cs) (number ▸ bounded)
      exact ⟨digit, fits, (ih fits).2 ⟨digits, number, bounded⟩⟩

theorem readUnsigned_eq_some_iff {cs : List Char} : readUnsigned bound cs = some n ↔ DigitRun cs n ∧ n ≤ bound := by
  cases cs with
  | nil => exact iff_of_false (by simp [readUnsigned]) fun h => h.1.nonempty rfl
  | cons c cs =>
    rw [readUnsigned, readDigits_eq_some_iff (Nat.zero_le bound)]
    constructor
    · rintro ⟨digits, number, bounded⟩
      exact ⟨⟨List.cons_ne_nil c cs, digits, number⟩, bounded⟩
    · rintro ⟨⟨-, digits, number⟩, bounded⟩
      exact ⟨digits, number, bounded⟩

theorem readBounded_eq_some_iff {s : String} : readBounded bound s = some n ↔ Numeral s.toList n ∧ n ≤ bound := by
  rw [readBounded, readUnsigned_eq_some_iff, numeral_iff]

end SqlBuilder.Decimal
