/-!
# Numbers in radix notation

Registers are shown in hexadecimal and the STATUS word in binary, each with its base mark in front
and enough leading zeros to keep a column aligned. Bytes on a bus are shown as bare pairs of
hexadecimal digits. A number too wide for its column is never cut: `length_padded` says that the
column is a lower bound only.
-/

namespace WiperDriver.Text

/-- The digits of `n` in `base`, most significant first, with zeros in front up to `width` of
them. -/
def padded (base width n : Nat) : List Char :=
  (Nat.toDigits base n).leftpad width '0'

/-- A number has as many characters as its digits or its column need, whichever is more. -/
theorem length_padded (base width n : Nat) :
    (padded base width n).length = max width (Nat.toDigits base n).length := by
  simp [padded, List.leftpad]
  omega

/-- Hexadecimal with the mark `0x` and at least `width` digits. -/
def hex (width n : Nat) : String :=
  "0x" ++ String.ofList (padded 16 width n)

/-- Binary with the mark `0b` and at least `width` digits. -/
def binary (width n : Nat) : String :=
  "0b" ++ String.ofList (padded 2 width n)

/-- Two hexadecimal digits per byte and nothing in between. -/
def hexBytes (bytes : List UInt8) : String :=
  String.ofList (bytes.flatMap fun byte => padded 16 2 byte.toNat)

end WiperDriver.Text
