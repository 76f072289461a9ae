import WiperDriver.Text.Radix

/-!
# Numerals read back

`value?` reads the digits of a base, most significant first; it knows nothing of how a number is
written. A text is a `Numeral` of a number if it reads as the number and is as long as its column is
wide, or longer without a zero in front. The digits that a number is shown by are one
(`numeral_padded`), and so is what stands behind the marks of hexadecimal and of binary numbers
(`hex_eq`, `binary_eq`).
-/

namespace WiperDriver.Text

/-! ## Reading -/

/-- The value of a digit in a base: its place among the digits. -/
def digit? (base : Nat) (c : Char) : Option Nat :=
  (['0', '1', '2', '3', '4', '5', '6', '7', '8', '9', 'a', 'b', 'c', 'd', 'e', 'f'].take
    base).idxOf? c

/-- What has been read, with one more digit behind it. -/
def readDigit (base : Nat) (read : Option Nat) (c : Char) : Option Nat :=
  read.bind fun value => (digit? base c).map (base * value + ·)

/-- The number that digits stand for. -/
def value? (base : Nat) (digits : List Char) : Option Nat :=
  digits.foldl (readDigit base) (some 0)

/-- A text that stands for a number in a column of some width. -/
structure Numeral (base width n : Nat) (text : String) : Prop where
  reads : value? base text.toList = some n
  /-- The column is filled. -/
  width_le : width ≤ text.length
  /-- Beyond the column there is no digit without need. -/
  head_ne : width < text.length → text.toList.head? ≠ some '0'

/-! ## Digits -/

variable {base width n : Nat} {text : String}

theorem digit?_digitChar (hbase : base ≤ 16) (h : n < base) :
    digit? base n.digitChar = some n := by
  have hall : ∀ base ≤ 16, ∀ n < base, digit? base n.digitChar = some n := by decide
  exact hall base hbase n h

/-- A blank is no digit. -/
theorem digit?_blank (base : Nat) : digit? base ' ' = none :=
  List.idxOf?_eq_none_iff.2 fun h => absurd (List.mem_of_mem_take h) (by decide)

/-- The digits of a number read as the number. -/
theorem value?_toDigits (hbase : 1 < base) (hle : base ≤ 16) (n : Nat) :
    value? base (Nat.toDigits base n) = some n := by
  -- Writing puts the last digit at the end, and so does reading.
  induction n using Nat.strongRecOn with
  | ind n ih =>
    by_cases hsmall : n < base
    · rw [Nat.toDigits_of_lt_base hsmall]
      show (digit? base n.digitChar).map (base * 0 + ·) = some n
      rw [digit?_digitChar hle hsmall]
      simp
    · have hlast : digit? base (n % base).digitChar = some (n % base) :=
        digit?_digitChar hle (Nat.mod_lt n (Nat.lt_of_succ_lt hbase))
      have hfront : value? base (Nat.toDigits base (n / base)) = some (n / base) :=
        ih _ (Nat.div_lt_self (by omega) hbase)
      rw [Nat.toDigits_of_base_le hbase (Nat.not_lt.1 hsmall), value?, List.foldl_append, ← value?,
        hfront]
      show (digit? base (n % base).digitChar).map (base * (n / base) + ·) = some n
      rw [hlast]
      exact congrArg some (Nat.div_add_mod n base)

/-- Zeros in front make no difference. -/
theorem value?_replicate_append (hbase : 0 < base) (hle : base ≤ 16) (count : Nat)
    (digits : List Char) :
    value? base (List.replicate count '0' ++ digits) = value? base digits := by
  have hzero : digit? base '0' = some 0 := digit?_digitChar hle hbase
  induction count with
  | zero => rfl
  | succ count ih =>
    have hfirst : readDigit base (some 0) '0' = some 0 := by
      show (digit? base '0').map (base * 0 + ·) = some 0
      rw [hzero]
      rfl
    rw [← ih, List.replicate_succ, List.cons_append, value?, List.foldl_cons, hfirst]
    rfl

/-- A number above zero has no zero in front. -/
theorem head?_toDigits_ne (hbase : 1 < base) (h : 0 < n) :
    (Nat.toDigits base n).head? ≠ some '0' := by
  induction n using Nat.strongRecOn with
  | ind n ih =>
    by_cases hsmall : n < base
    · rw [Nat.toDigits_of_lt_base hsmall]
      intro hhead
      exact Nat.ne_of_gt h (Nat.digitChar_eq_zero.1 (Option.some.inj hhead))
    · have hle := Nat.not_lt.1 hsmall
      have hpos : 0 < n / base := Nat.div_pos hle (Nat.lt_of_succ_lt hbase)
      have hfront := ih _ (Nat.div_lt_self h hbase) hpos
      obtain ⟨first, rest, hdigits⟩ :=
        List.exists_cons_of_ne_nil (Nat.toDigits_ne_nil (n := n / base) (b := base))
      rw [Nat.toDigits_of_base_le hbase hle, hdigits]
      rwa [hdigits] at hfront

/-! ## Numerals -/

/-- **The digits of a number in a column are its numeral.** -/
theorem numeral_padded (hbase : 1 < base) (hle : base ≤ 16) (hwidth : 0 < width) (n : Nat) :
    Numeral base width n (String.ofList (padded base width n)) where
  reads := by
    rw [String.toList_ofList, padded, List.leftpad,
      value?_replicate_append (Nat.lt_of_succ_lt hbase) hle, value?_toDigits hbase hle]
  width_le := by
    rw [String.length_ofList, length_padded]
    exact Nat.le_max_left _ _
  head_ne := by
    rw [String.length_ofList, String.toList_ofList, length_padded]
    intro hlong
    have hlength : width < (Nat.toDigits base n).length := by omega
    rw [padded, List.leftpad, Nat.sub_eq_zero_of_le (Nat.le_of_lt hlength), List.replicate_zero,
      List.nil_append]
    refine head?_toDigits_ne hbase (Nat.pos_of_ne_zero ?_)
    rintro rfl
    rw [Nat.toDigits_zero] at hlength
    exact absurd hlength (Nat.not_lt.2 hwidth)

/-- A number behind its mark is shown by its numeral. -/
theorem hex_eq (hwidth : 0 < width) (n : Nat) :
    ∃ digits, Numeral 16 width n digits ∧ hex width n = "0x" ++ digits :=
  ⟨_, numeral_padded (by decide) (by decide) hwidth n, rfl⟩

theorem binary_eq (hwidth : 0 < width) (n : Nat) :
    ∃ digits, Numeral 2 width n digits ∧ binary width n = "0b" ++ digits :=
  ⟨_, numeral_padded (by decide) (by decide) hwidth n, rfl⟩

/-- What can be read has no blank in it. -/
theorem blank_notMem_of_value? {digits : List Char} (h : value? base digits = some n) :
    ' ' ∉ digits := by
  intro hmem
  obtain ⟨front, back, rfl⟩ := List.append_of_mem hmem
  have hblank (read : Option Nat) : readDigit base read ' ' = none := by
    rw [readDigit, digit?_blank]
    cases read <;> rfl
  have hlost (digits : List Char) : digits.foldl (readDigit base) none = none := by
    induction digits with
    | nil => rfl
    | cons c rest ih => exact ih
  rw [value?, List.foldl_append, List.foldl_cons, hblank, hlost] at h
  cases h

end WiperDriver.Text
