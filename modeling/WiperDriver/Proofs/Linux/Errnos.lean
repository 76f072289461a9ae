import Mathlib
import WiperDriver.Linux.Errno

/-!
# Which error number a failure names

A failure of a system call ends with the error number in decimal digits (`Errno.NamedBy`). The
number stands behind the last blank of the text, so it can be told from the text whatever the
wording in front (`Errno.NamedBy.unique`), and a failure that has come up through any number of
layers is that of one error number only (`Errno.namedBy_failure_iff`, `Errno.failure_injective`).
-/

namespace WiperDriver.Linux

namespace Errno

/-- A failure names an error number: its text ends with the number. -/
def NamedBy (failure : Failure) (errno : Errno) : Prop :=
  ∃ wording, failure.text = wording ++ " (os error " ++ toString errno.number ++ ")"

theorem namedBy_failure (errno : Errno) : NamedBy errno.failure errno :=
  ⟨errno.text, rfl⟩

/-- There is no blank in a number. -/
theorem blank_notMem_toString (number : Int) : ' ' ∉ (toString number).toList := by
  have hdigits (n : Nat) : ' ' ∉ n.repr.toList := by
    rw [Nat.toList_repr]
    intro hmem
    exact absurd (Nat.isDigit_of_mem_toDigits (by decide) (by decide) hmem) (by decide)
  have hsign : "-".toList = ['-'] := rfl
  rw [Int.toString_eq_repr, Int.repr_eq_if]
  split
  · exact hdigits _
  · rw [String.toList_append, hsign]
    simpa using hdigits _

/-- What stands behind the last blank can be found from the end. -/
theorem takeWhile_reverse {back : List Char} (h : ' ' ∉ back) (front : List Char) :
    (front ++ ' ' :: back).reverse.takeWhile (· ≠ ' ') = back.reverse := by
  have hback : ∀ c ∈ back.reverse, decide (c ≠ ' ') = true := by
    intro c hmem
    refine decide_eq_true ?_
    rintro rfl
    exact h (List.mem_reverse.1 hmem)
  rw [List.reverse_append, List.reverse_cons, List.append_assoc,
    List.takeWhile_append_of_pos hback, List.singleton_append, List.takeWhile_cons_of_neg (by simp),
    List.append_nil]

/-- **A failure names one error number.** -/
theorem NamedBy.unique {failure : Failure} {errno other : Errno} (h : NamedBy failure errno)
    (hother : NamedBy failure other) : errno = other := by
  obtain ⟨wording, htext⟩ := h
  obtain ⟨wording', htext'⟩ := hother
  have htexts : wording ++ " (os error " ++ toString errno.number =
      wording' ++ " (os error " ++ toString other.number :=
    (String.append_left_inj ")").1 (htext.symm.trans htext')
  have hmark : " (os error ".toList = " (os error".toList ++ [' '] := rfl
  have hchars := congrArg (fun text => text.toList.reverse.takeWhile (· ≠ ' ')) htexts
  simp only [String.toList_append, hmark, ← List.append_assoc] at hchars
  simp only [List.append_assoc _ [' '], List.singleton_append] at hchars
  rw [takeWhile_reverse (blank_notMem_toString _), takeWhile_reverse (blank_notMem_toString _),
    List.reverse_inj, String.toList_inj, Int.toString_eq_repr, Int.toString_eq_repr,
    Int.repr_inj] at hchars
  cases errno
  cases other
  exact congrArg Errno.mk hchars

theorem namedBy_failure_iff {errno other : Errno} :
    NamedBy errno.failure other ↔ other = errno := by
  refine ⟨fun h => h.unique errno.namedBy_failure, ?_⟩
  rintro rfl
  exact other.namedBy_failure

/-- **Two error numbers never come up as the same failure.** -/
theorem failure_injective : Function.Injective failure :=
  fun errno _ h => namedBy_failure_iff.1 (h ▸ errno.namedBy_failure)

end Errno

end WiperDriver.Linux
