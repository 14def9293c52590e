import Conveyor.Word
/-!
# Arithmetic of 64-bit words

The bounds of the range as numerals, the wrap-around as arithmetic on them, and the fact that
a result inside the range is its own word (`wrap_of_le`), so that sums that cannot leave the
range are plain integer sums.
-/

namespace Conveyor.Word

theorem greatest_eq : greatest = 9223372036854775807 := by decide

theorem least_eq : least = -9223372036854775808 := by decide

theorem wrap_eq (d : Int) :
    wrap d = (d + 9223372036854775808) % 18446744073709551616 - 9223372036854775808 := by
  have h63 : Int.pow 2 63 = 9223372036854775808 := by decide
  have h64 : Int.pow 2 64 = 18446744073709551616 := by decide
  rw [wrap, h63, h64]

/-- A result inside the range is its own word. -/
theorem wrap_of_le {d : Int} (h1 : least ≤ d) (h2 : d ≤ greatest) : wrap d = d := by
  rw [least_eq] at h1
  rw [greatest_eq] at h2
  have hlo : (0 : Int) ≤ d + 9223372036854775808 := by omega
  have hhi : d + 9223372036854775808 < 18446744073709551616 := by omega
  rw [wrap_eq, Int.emod_eq_of_lt hlo hhi]
  omega

/-- No word is above the greatest. -/
theorem wrap_le_greatest (d : Int) : wrap d ≤ greatest := by
  rw [wrap_eq, greatest_eq]
  omega

/-- Adding to a wrapped sum wraps the whole sum. -/
theorem wrap_add_wrap (d e : Int) : wrap (wrap d + e) = wrap (d + e) := by
  simp only [wrap_eq]
  omega

/-- A sum that is not negative wraps to no more than any bound above it. -/
theorem wrap_le_of_le {d b : Int} (h0 : 0 ≤ d) (hb : d ≤ b) : wrap d ≤ b := by
  by_cases hd : d ≤ greatest
  · rw [wrap_of_le (by rw [least_eq]; omega) hd]
    exact hb
  · exact Int.le_trans (wrap_le_greatest d) (by omega)

/-- One past the greatest word wraps to the least. -/
theorem wrap_greatest_add_one : wrap (greatest + 1) = least := by decide

end Conveyor.Word
