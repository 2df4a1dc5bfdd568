/-!
# Numbers in decimal digits

A whole number is written with a sign, if it is negative, and then its digits, without a zero in
front of other digits.  Both formats read numbers by adding up digits from the left, and that gives
the number back.
-/

namespace Converge

/-- The digits of a number. -/
def decimal (n : Nat) : List Char := Nat.toDigits 10 n

theorem decimal_of_lt {n : Nat} (h : n < 10) : decimal n = [n.digitChar] :=
  Nat.toDigits_of_lt_base h

theorem decimal_of_le {n : Nat} (h : 10 ≤ n) :
    decimal n = decimal (n / 10) ++ [(n % 10).digitChar] :=
  Nat.toDigits_of_base_le (by decide) h

theorem toList_toString_nat (n : Nat) : (toString n).toList = decimal n := by
  rw [Nat.toString_eq_ofList_toDigits, String.toList_ofList, decimal]

theorem toList_toString (n : Int) :
    (toString n).toList = (if n < 0 then ['-'] else []) ++ decimal n.natAbs := by
  cases n with
  | ofNat n =>
    have plain : toString (Int.ofNat n) = toString n := rfl
    rw [plain, toList_toString_nat, if_neg (by simp)]
    rfl
  | negSucc n =>
    have signed : toString (Int.negSucc n) = "-" ++ toString (n + 1) := rfl
    rw [signed, String.toList_append, toList_toString_nat, if_pos (Int.negSucc_lt_zero n)]
    rfl

theorem decimal_ne_nil (n : Nat) : decimal n ≠ [] := Nat.toDigits_ne_nil

theorem isDigit_of_mem_decimal {n : Nat} {c : Char} (h : c ∈ decimal n) : c.isDigit :=
  Nat.isDigit_of_mem_toDigits (by decide) (by decide) h

/-- Adding up the digits gives the number. -/
theorem foldl_decimal (n : Nat) :
    (decimal n).foldl (fun m c => m * 10 + (c.toNat - 48)) 0 = n := by
  have := @Nat.ofDigitChars_ten_toDigits n
  have zero : '0'.toNat = 48 := rfl
  simpa only [Nat.ofDigitChars, decimal, Nat.mul_comm, zero] using this

/-- No zero stands in front of other digits. -/
theorem decimal_eq_of_zero {n : Nat} {ds : List Char} (h : decimal n = '0' :: ds) : ds = [] := by
  induction n using Nat.strongRecOn generalizing ds with
  | ind n ih =>
    by_cases hn : n < 10
    · rw [decimal_of_lt hn] at h
      exact (List.cons.inj h).2.symm
    · rw [decimal_of_le (by omega)] at h
      obtain ⟨d, ds', hd⟩ := List.exists_cons_of_ne_nil (decimal_ne_nil (n / 10))
      rw [hd, List.cons_append] at h
      obtain ⟨rfl, rfl⟩ := List.cons.inj h
      -- The quotient would be zero, though the number has two digits.
      have zero := ih (n / 10) (by omega) hd
      subst zero
      have := foldl_decimal (n / 10)
      rw [hd] at this
      have : n / 10 = 0 := this.symm
      omega

end Converge
