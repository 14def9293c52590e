import Conveyor.Decimal.Integer
import Mathlib
/-!
# Reading back printed whole numbers

Numbers travel as decimal text: in plugin metadata and in dead-letter headers they are
printed with `toString` and read back with `readInteger` in base ten within a width. Reading
the text of a number gives the number back whenever it fits the signed range of the width
(`readInteger_toString`); for the 32-bit partitions and the 64-bit offsets of records this
is every value the broker can hand out.

The proof goes from the digits up. Printing a natural number gives its digits with the last
one split off (`Nat.toDigits_eq_if`), and folding digits runs over an appended list in two
parts (`foldDigits_append`), so folding the digits of `n` gives `n` by strong induction, as
long as no partial value reaches the width's bound or the 64-bit cutoff
(`foldDigits_toDigits`). A negative number's text is a minus sign before its magnitude's
digits.
-/

namespace Conveyor.Decimal

/-- The digit characters read back as their values. -/
theorem digitValue_digitChar {d : Nat} (h : d < 10) : digitValue d.digitChar = some d := by
  have hall : ∀ d < 10, digitValue d.digitChar = some d := by decide
  exact hall d h

/-- Folding digits over an appended list folds the second part from where the first left off. -/
theorem foldDigits_append (base maxVal cutoff : Nat) (u : Bool) (R : List Char) :
    ∀ (L : List Char) (n : Nat) (under : Bool),
    foldDigits base maxVal cutoff u (L ++ R) n under =
      match foldDigits base maxVal cutoff u L n under with
      | .ok (n', under') => foldDigits base maxVal cutoff u R n' under'
      | .error e => .error e
  | [], n, under => by simp [foldDigits]
  | c :: L, n, under => by
    simp only [List.cons_append, foldDigits]
    -- one case per branch of a step: an underscore, a character that is no digit, a digit too
    -- large for the base, a value past the cutoff, past the bound, and the digit taken
    split
    · exact foldDigits_append base maxVal cutoff u R L n true
    · split
      · rfl
      · split
        · rfl
        · split
          · rfl
          · split
            · rfl
            · exact foldDigits_append base maxVal cutoff u R L _ under

/-- One more digit: below the cutoff of base ten, and with the new value within the bound. -/
theorem foldDigits_digit {maxVal : Nat} (n d : Nat) (u under : Bool) (hd : d < 10)
    (hn : n * 10 + d ≤ maxVal) (hmax : maxVal < 2 ^ 64) :
    foldDigits 10 maxVal ((2 ^ 64 - 1) / 10 + 1) u [d.digitChar] n under =
      .ok (n * 10 + d, under) := by
  have hnd : d.digitChar ≠ '_' := by
    have hall : ∀ d < 10, d.digitChar ≠ '_' := by decide
    exact hall d hd
  have hcut : ¬ n ≥ (2 ^ 64 - 1) / 10 + 1 := by omega
  have hd' : ¬ d ≥ 10 := by omega
  have hover : ¬ n * 10 + d > maxVal := by omega
  -- the checks are passed one by one; a simp here would fold the cutoff into a numeral first
  rw [foldDigits, if_neg (by simp [hnd]), digitValue_digitChar hd]
  dsimp only
  rw [if_neg hd', if_neg hcut, if_neg hover, foldDigits]

/-- Folding the digits of a number within the bound gives the number; no partial value of a
number below `2^64` reaches the cutoff. The induction is on the number, one digit less at each
step. -/
theorem foldDigits_toDigits {maxVal : Nat} (hmax : maxVal < 2 ^ 64) (u : Bool) :
    ∀ n, n ≤ maxVal → foldDigits 10 maxVal ((2 ^ 64 - 1) / 10 + 1) u (Nat.toDigits 10 n) 0 false =
      .ok (n, false) := by
  intro n
  induction n using Nat.strongRecOn with
  | _ n ih =>
    intro hn
    rw [Nat.toDigits_eq_if (by decide)]
    split
    · rename_i hlt
      simpa using foldDigits_digit 0 n u false hlt (by omega) hmax
    · rename_i hge
      rw [foldDigits_append, ih (n / 10) (by omega) (by omega)]
      dsimp only
      rw [foldDigits_digit (n / 10) (n % 10) u false (Nat.mod_lt n (by decide)) (by omega) hmax]
      congr 2
      omega

/-- **Reading back a printed natural number** that fits the width. -/
theorem readNatural_toDigits {n bits : Nat} (h : n < 2 ^ bits) (hb : bits ≤ 64) :
    readNatural (String.ofList (Nat.toDigits 10 n)) 10 bits = .ok n := by
  have hmax : 2 ^ bits - 1 < 2 ^ 64 := by
    have := Nat.pow_le_pow_right (by decide : 0 < 2) hb
    omega
  have hf := foldDigits_toDigits hmax false n (by omega)
  have hne : (Nat.toDigits 10 n).isEmpty = false := by simp
  simp only [readNatural, String.toList_ofList, hne, Nat.pow_eq]
  simp only [Bool.false_eq_true, if_false, Nat.reduceEqDiff, decide_false, hf, Bool.false_and]

/-- A signed whole number within `bits` bits. -/
def SignedFits (bits : Nat) (i : Int) : Prop := -(2 ^ (bits - 1) : Int) ≤ i ∧ i < 2 ^ (bits - 1)

instance (bits : Nat) (i : Int) : Decidable (SignedFits bits i) :=
  inferInstanceAs (Decidable (_ ∧ _))

/-- The first character of a printed number is a digit, so no sign. -/
theorem toDigits_head_digit (n : Nat) : ∃ c rest, Nat.toDigits 10 n = c :: rest ∧ c.isDigit := by
  cases h : Nat.toDigits 10 n with
  | nil => exact absurd h Nat.toDigits_ne_nil
  | cons c rest =>
    have hmem : c ∈ Nat.toDigits 10 n := by simp [h]
    exact ⟨c, rest, rfl, Nat.isDigit_of_mem_toDigits (by decide) (by decide) hmem⟩

/-- **Reading back a printed whole number** that fits the signed range of the width. -/
theorem readInteger_toString {i : Int} {bits : Nat} (hb : 1 ≤ bits ∧ bits ≤ 64)
    (h : SignedFits bits i) : readInteger (toString i) 10 bits = .ok i := by
  obtain ⟨hlo, hhi⟩ := h
  have hcast : ((2 ^ (bits - 1) : Nat) : Int) = 2 ^ (bits - 1) := by simp
  have hwide : 2 ^ (bits - 1) < 2 ^ bits := Nat.pow_lt_pow_right (by decide) (by omega)
  rw [Int.toString_eq_repr, Int.repr_eq_if]
  split
  · -- a number that is not negative is its digits, and the first of them is no sign
    rename_i hnn
    obtain ⟨c, rest, hd, hc⟩ := toDigits_head_digit i.toNat
    have hplus : c ≠ '+' := by rintro rfl; simp at hc
    have hminus : c ≠ '-' := by rintro rfl; simp at hc
    have hn : i.toNat < 2 ^ (bits - 1) := by omega
    have hread : readNatural (String.ofList (c :: rest)) 10 bits = .ok i.toNat := by
      rw [← hd]
      exact readNatural_toDigits (by omega) hb.2
    simp [readInteger, Nat.repr_eq_ofList_toDigits, hd, hplus, hminus, hread, Nat.pow_eq,
      -String.ofList_cons]
    rw [if_neg (by omega)]
    congr 1
    omega
  · -- a negative number is a minus sign before the digits of its magnitude
    rename_i hneg
    have hm : (-i).toNat ≤ 2 ^ (bits - 1) := by omega
    have hread : readNatural (String.ofList (Nat.toDigits 10 (-i).toNat)) 10 bits = .ok (-i).toNat :=
      readNatural_toDigits (by omega) hb.2
    simp [readInteger, Nat.repr_eq_ofList_toDigits, hread, Nat.pow_eq]
    rw [if_neg (by omega)]
    congr 1
    omega

end Conveyor.Decimal
