import WiperDriver.Chip
import WiperDriver.Log
import WiperDriver.Proofs.Text.Numerals

/-!
# Register traffic in words

What the log tells of the registers is `Traffic`: what was read, what is written, and how many
pulses are sent which way. `Traffic.Worded` is how it is put into words, and `Traffic.SentBy` and
`Traffic.ReceivedBy` which transactions it is true of, by the chip's own decoder. The words leave no
doubt: `Traffic.ofText?` reads a line without knowing who wrote it, and finds what was put into
words (`Traffic.Worded.reads`).
-/

namespace WiperDriver

/-- A transaction with its answer. -/
abbrev Bus.Exchange : Type :=
  (call : Bus.Call) × Bus.Answer call

/-- The number that two received bytes stand for, the first one on top. -/
def Bus.Reading.number (reading : Bus.Reading) : Nat :=
  256 * (reading.byte 0).toNat + (reading.byte 1).toNat

namespace Log

open Chip (decode)
open Text (Numeral value?)

/-- What a line of the log tells of the registers. -/
inductive Traffic where
  | read (address value : Nat)
  | write (address value : Nat)
  | pulse (direction : Direction) (address count : Nat)
  deriving DecidableEq, Repr

namespace Traffic

/-! ## Lines -/

/-- A line tells of traffic. A register stands there as a hexadecimal numeral of two digits and a
value as one of three, or of more if it takes more. -/
inductive Worded : Traffic → String → Prop
  | read {address value : Nat} {register word : String} (hregister : Numeral 16 2 address register)
    (hword : Numeral 16 3 value word) :
    Worded (.read address value) ("TRACE read 0x" ++ register ++ " -> 0x" ++ word)
  | write {address value : Nat} {register word : String} (hregister : Numeral 16 2 address register)
    (hword : Numeral 16 3 value word) :
    Worded (.write address value) ("TRACE write 0x" ++ register ++ " <- 0x" ++ word)
  | increment {address : Nat} {register : String} (hregister : Numeral 16 2 address register)
    (count : Nat) :
    Worded (.pulse .up address count)
      ("TRACE increment 0x" ++ register ++ " by " ++ toString count)
  | decrement {address : Nat} {register : String} (hregister : Numeral 16 2 address register)
    (count : Nat) :
    Worded (.pulse .down address count)
      ("TRACE decrement 0x" ++ register ++ " by " ++ toString count)

/-! ## Transactions -/

/-- A transaction sends traffic: the register and the new value of a command to store, whose ninth
bit is in the command byte, or the register, the direction and the number of pulses of a burst. -/
inductive SentBy : Traffic → Bus.Call → Prop
  | store {command data : UInt8} {address : Fin 16} {high : Bool}
    (h : decode command = .store address high) :
    SentBy (.write address ((if high then 256 else 0) + data.toNat)) (.write [command, data])
  | burst {command : UInt8} {address : Fin 16} {direction : Direction}
    (h : decode command = .pulse address direction) {count : Nat} (hcount : 0 < count) :
    SentBy (.pulse direction address count) (.write (List.replicate count command))

/-- A transaction that has received two bytes receives traffic: the register that was asked for, and
the word that came. -/
inductive ReceivedBy : Traffic → Bus.Exchange → Prop
  | word {command : UInt8} {address : Fin 16} (h : decode command = .read address) {length : Nat}
    {reading : Bus.Reading} (hcount : reading.count = 2) :
    ReceivedBy (.read address reading.number) ⟨.writeRead [command] length, .ok reading⟩

/-! ## The driver's lines -/

/-- A line about a register and a value shows both by their numerals. -/
theorem text_of_hex (verb mark : String) (address value : Nat) :
    ∃ register word, Numeral 16 2 address register ∧ Numeral 16 3 value word ∧
      "TRACE" ++ " " ++ (verb ++ Text.hex 2 address ++ mark ++ Text.hex 3 value) =
        ("TRACE " ++ verb ++ "0x") ++ register ++ (mark ++ "0x") ++ word := by
  obtain ⟨register, hregister, haddress⟩ := Text.hex_eq (by decide : 0 < 2) address
  obtain ⟨word, hword, hvalue⟩ := Text.hex_eq (by decide : 0 < 3) value
  refine ⟨register, word, hregister, hword, ?_⟩
  rw [haddress, hvalue, show "TRACE " = "TRACE" ++ " " from rfl]
  simp only [String.append_assoc]

theorem worded_read (address : UInt8) (value : UInt16) :
    Worded (.read address.toNat value.toNat) (Line.read address value).render := by
  obtain ⟨register, word, hregister, hword, htext⟩ :=
    text_of_hex "read " " -> " address.toNat value.toNat
  have hrender : (Line.read address value).render =
      "TRACE read 0x" ++ register ++ " -> 0x" ++ word := htext
  rw [hrender]
  exact .read hregister hword

theorem worded_write (address : UInt8) (value : UInt16) :
    Worded (.write address.toNat value.toNat) (Line.write address value).render := by
  obtain ⟨register, word, hregister, hword, htext⟩ :=
    text_of_hex "write " " <- " address.toNat value.toNat
  have hrender : (Line.write address value).render =
      "TRACE write 0x" ++ register ++ " <- 0x" ++ word := htext
  rw [hrender]
  exact .write hregister hword

theorem worded_pulse (direction : Direction) (address : UInt8) (count : Nat) :
    Worded (.pulse direction address.toNat count) (Line.pulse direction address count).render := by
  obtain ⟨register, hregister, haddress⟩ := Text.hex_eq (by decide : 0 < 2) address.toNat
  have htext : (Line.pulse direction address count).render =
      "TRACE " ++ direction.verb ++ " 0x" ++ register ++ " by " ++ toString count := by
    show "TRACE" ++ " " ++ (direction.verb ++ " " ++ Text.hex 2 _ ++ " by " ++ _) = _
    rw [haddress, show "TRACE " = "TRACE" ++ " " from rfl, show " 0x" = " " ++ "0x" from rfl]
    simp only [String.append_assoc]
  rw [htext]
  cases direction with
  | up => exact .increment hregister count
  | down => exact .decrement hregister count

/-! ## Reading a line -/

/-- The words of a text, which blanks set apart. -/
def words : List Char → List (List Char)
  | [] => [[]]
  | c :: rest => if c = ' ' then [] :: words rest else (words rest).modifyHead (c :: ·)

/-- The number behind the mark of hexadecimal numbers. -/
def hexadecimal? : List Char → Option Nat
  | '0' :: 'x' :: digits => value? 16 digits
  | _ => none

/-- The traffic that the words of a line tell of. -/
def ofWords? : List String → Option Traffic
  | ["TRACE", "read", register, "->", word] => do
    return .read (← hexadecimal? register.toList) (← hexadecimal? word.toList)
  | ["TRACE", "write", register, "<-", word] => do
    return .write (← hexadecimal? register.toList) (← hexadecimal? word.toList)
  | ["TRACE", "increment", register, "by", count] => do
    return .pulse .up (← hexadecimal? register.toList) (← value? 10 count.toList)
  | ["TRACE", "decrement", register, "by", count] => do
    return .pulse .down (← hexadecimal? register.toList) (← value? 10 count.toList)
  | _ => none

/-- The traffic that a line tells of. -/
def ofText? (text : String) : Option Traffic :=
  ofWords? ((words text.toList).map String.ofList)

/-! ## Reading back -/

theorem words_of_notMem {word : List Char} (h : ' ' ∉ word) : words word = [word] := by
  induction word with
  | nil => rfl
  | cons c rest ih =>
    obtain ⟨hne, hrest⟩ := not_or.1 (mt List.mem_cons.2 h)
    rw [words, if_neg (Ne.symm hne), ih hrest]
    rfl

/-- A blank ends a word. -/
theorem words_append {word : List Char} (h : ' ' ∉ word) (rest : List Char) :
    words (word ++ ' ' :: rest) = word :: words rest := by
  induction word with
  | nil => rfl
  | cons c others ih =>
    obtain ⟨hne, hothers⟩ := not_or.1 (mt List.mem_cons.2 h)
    rw [List.cons_append, words, if_neg (Ne.symm hne), ih hothers]
    rfl

/-- A line of five words is read by its words. -/
theorem ofText?_eq {text register last : String} (verb mark : String) (hverb : ' ' ∉ verb.toList)
    (hmark : ' ' ∉ mark.toList) (hregister : ' ' ∉ register.toList) (hlast : ' ' ∉ last.toList)
    (htext : text.toList = "TRACE".toList ++ ' ' :: (verb.toList ++ ' ' :: (register.toList ++
      ' ' :: (mark.toList ++ ' ' :: last.toList)))) :
    ofText? text = ofWords? ["TRACE", verb, register, mark, last] := by
  rw [ofText?, htext, words_append (by decide), words_append hverb, words_append hregister,
    words_append hmark, words_of_notMem hlast]
  simp only [List.map_cons, List.map_nil, String.ofList_toList]

variable {width n : Nat} {digits : String}

/-- A numeral behind its mark is one word. -/
theorem blank_notMem_marked (h : Numeral 16 width n digits) : ' ' ∉ ("0x" ++ digits).toList := by
  have hmark : "0x".toList = ['0', 'x'] := rfl
  rw [String.toList_append, hmark]
  simpa using Text.blank_notMem_of_value? h.reads

theorem hexadecimal?_marked (h : Numeral 16 width n digits) :
    hexadecimal? ("0x" ++ digits).toList = some n := by
  have hmark : "0x".toList = ['0', 'x'] := rfl
  rw [String.toList_append, hmark]
  exact h.reads

/-- A count in decimal digits reads as the count. -/
theorem value?_toString (count : Nat) : value? 10 (toString count).toList = some count := by
  rw [Nat.toString_eq_repr, Nat.toList_repr]
  exact Text.value?_toDigits (by decide) (by decide) count

/-- A count is one word. -/
theorem blank_notMem_toString (count : Nat) : ' ' ∉ (toString count).toList :=
  Text.blank_notMem_of_value? (value?_toString count)

/-- **A line reads back as what it tells of.** -/
theorem Worded.reads {traffic : Traffic} {text : String} (h : traffic.Worded text) :
    ofText? text = some traffic := by
  cases h with
  | read hregister hword =>
    rw [ofText?_eq "read" "->" (by decide) (by decide) (blank_notMem_marked hregister)
      (blank_notMem_marked hword) (by simp only [String.toList_append, List.append_assoc]; rfl)]
    simp only [ofWords?, hexadecimal?_marked hregister, hexadecimal?_marked hword]
    rfl
  | write hregister hword =>
    rw [ofText?_eq "write" "<-" (by decide) (by decide) (blank_notMem_marked hregister)
      (blank_notMem_marked hword) (by simp only [String.toList_append, List.append_assoc]; rfl)]
    simp only [ofWords?, hexadecimal?_marked hregister, hexadecimal?_marked hword]
    rfl
  | increment hregister count =>
    rw [ofText?_eq "increment" "by" (by decide) (by decide) (blank_notMem_marked hregister)
      (blank_notMem_toString count) (by simp only [String.toList_append, List.append_assoc]; rfl)]
    simp only [ofWords?, hexadecimal?_marked hregister, value?_toString]
    rfl
  | decrement hregister count =>
    rw [ofText?_eq "decrement" "by" (by decide) (by decide) (blank_notMem_marked hregister)
      (blank_notMem_toString count) (by simp only [String.toList_append, List.append_assoc]; rfl)]
    simp only [ofWords?, hexadecimal?_marked hregister, value?_toString]
    rfl

end Traffic

end Log

end WiperDriver
