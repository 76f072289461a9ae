import Mathlib.Data.List.Forall2
import WiperDriver.Proofs.Chip.Stream
import WiperDriver.Proofs.Dialogue.Exchanges
import WiperDriver.Proofs.Log.Traffic
import WiperDriver.Registers.Operation

/-!
# The log as a record of the bus

The driver writes about every transaction: a line before it sends something, and a line after it has
received a whole register. `Announces` and `Records` say when the text of such a line is true: the
traffic that it tells of is what went over the bus. `Faithful` is a course of events in which every
line of register traffic stands right beside the transaction it is about, and no transaction that
needs one is without.

A course in several parts is faithful if the parts are (`Faithful.append`), so what is shown for the
three operations that touch the bus (`truthful_read`, `truthful_write`, `truthful_pulse`) carries
over to everything that is put together from them. What the rest of the theory needs is derived from
`Faithful` once: the two correspondences, in order (`Faithful.announced`, `Faithful.recorded`), and
the place of each line (`Faithful.placed`, and from it `Faithful.preceded` and `Faithful.followed`).
-/

namespace WiperDriver

/-- Something that happens while the driver works: a line of the log, or a transaction. -/
abbrev Bus.Event : Type :=
  WiperDriver.Event Bus.Call Bus.Answer

/-- What the log shows of a run at some level. -/
def Outcome.shown {Call : Type} {Answer : Call → Type} {σ α : Type} (level : Log.Level)
    (outcome : Outcome Call Answer σ α) : List String :=
  (outcome.lines.filter (·.level = level)).map Log.Line.render

theorem Outcome.shown_eq_nil {Call : Type} {Answer : Call → Type} {σ α : Type} {level : Log.Level}
    {outcome : Outcome Call Answer σ α} (h : ∀ line ∈ outcome.lines, line.level ≠ level) :
    outcome.shown level = [] :=
  List.map_eq_nil_iff.2 (List.filter_eq_nil_iff.2 fun line hmem =>
    h line hmem ∘ of_decide_eq_true)

namespace Log

open Text (Numeral)

variable {line : Line} {text : String}

/-! ## What the lines say -/

/-- A text tells of what a transaction sends. -/
def Announces (text : String) (call : Bus.Call) : Prop :=
  ∃ traffic : Traffic, traffic.Worded text ∧ traffic.SentBy call

/-- A text tells of what a transaction has received. -/
def Records (text : String) (exchange : Bus.Exchange) : Prop :=
  ∃ traffic : Traffic, traffic.Worded text ∧ traffic.ReceivedBy exchange

/-- A text warns of a STATUS word, with its nine bits as a binary numeral. -/
def Warns (text : String) (word : Nat) : Prop :=
  ∃ bits, Numeral 2 9 word bits ∧ text = "WARN Unexpected STATUS register contents: 0b" ++ bits

/-! ## Lines and transactions among events -/

/-- The text of a line about something that is to be sent. -/
def announcement? : Bus.Event → Option String
  | .reported (.write address value) => some (Line.write address value).render
  | .reported (.pulse direction address count) => some (Line.pulse direction address count).render
  | _ => none

/-- The text of a line about something that was received. -/
def record? : Bus.Event → Option String
  | .reported (.read address value) => some (Line.read address value).render
  | _ => none

/-- A transaction that sends something. -/
def sent? : Bus.Event → Option Bus.Call
  | .answered (.write bytes) _ => some (.write bytes)
  | _ => none

/-- A transaction that has received two bytes, as the bus says. -/
def delivered? : Bus.Event → Option Bus.Exchange
  | .answered (.writeRead bytes length) (.ok reading) =>
    if reading.count = 2 then some ⟨.writeRead bytes length, .ok reading⟩ else none
  | _ => none

theorem delivered?_of_count {reading : Bus.Reading} (h : reading.count = 2) (bytes : List UInt8)
    (length : Nat) :
    delivered? (.answered (.writeRead bytes length) (.ok reading)) =
      some ⟨.writeRead bytes length, .ok reading⟩ :=
  if_pos h

theorem delivered?_of_count_ne {reading : Bus.Reading} (h : reading.count ≠ 2) (bytes : List UInt8)
    (length : Nat) : delivered? (.answered (.writeRead bytes length) (.ok reading)) = none :=
  if_neg h

/-- A line is of the finest level exactly if it is about register traffic. -/
theorem level_eq_trace_iff (line : Line) :
    line.level = .trace ↔
      announcement? (.reported line) ≠ none ∨ record? (.reported line) ≠ none := by
  cases line <;> simp [Line.level, announcement?, record?]

theorem level_of_announcement (h : announcement? (.reported line) = some text) :
    line.level = .trace :=
  (level_eq_trace_iff line).2 (.inl (h ▸ Option.some_ne_none text))

theorem level_of_record (h : record? (.reported line) = some text) : line.level = .trace :=
  (level_eq_trace_iff line).2 (.inr (h ▸ Option.some_ne_none text))

theorem announcement?_of_level (h : line.level ≠ .trace) : announcement? (.reported line) = none :=
  not_not.1 fun hne => h ((level_eq_trace_iff line).2 (.inl hne))

theorem record?_of_level (h : line.level ≠ .trace) : record? (.reported line) = none :=
  not_not.1 fun hne => h ((level_eq_trace_iff line).2 (.inr hne))

/-- No line is both about what is sent and about what was received. -/
theorem record?_of_announcement (h : announcement? (.reported line) = some text) :
    record? (.reported line) = none := by
  cases line <;> first | rfl | cases h

theorem announcement?_of_record (h : record? (.reported line) = some text) :
    announcement? (.reported line) = none := by
  cases line <;> first | rfl | cases h

/-- The text of a line about what is sent is what the log shows of it. -/
theorem render_of_announcement (h : announcement? (.reported line) = some text) :
    line.render = text := by
  cases line <;> first | exact Option.some.inj h | cases h

theorem render_of_record (h : record? (.reported line) = some text) : line.render = text := by
  cases line <;> first | exact Option.some.inj h | cases h

/-- The STATUS word that a warning is due about: it came with a reserved bit missing. -/
def refused? : Bus.Exchange → Option Nat
  | ⟨.writeRead _ _, .ok reading⟩ =>
    if reading.count = 2 ∧ reading.number &&& 0x1F0 ≠ 0x1F0 then some reading.number else none
  | _ => none

/-- The lines of register traffic among some events are a record of what went over the bus. -/
structure RecordsBus (events : List Bus.Event) : Prop where
  /-- What is sent is announced, one by one and in order. -/
  announced : List.Forall₂ Announces (events.filterMap announcement?) (events.filterMap sent?)
  /-- The line comes right before the transaction that it is about. -/
  preceded {before after : List Bus.Event} {bytes : List UInt8} {answer : Except Failure Unit}
    (hsplit : events = before ++ .answered (.write bytes) answer :: after) :
    ∃ earlier line, before = earlier ++ [.reported line] ∧
      Announces line.render (.write bytes) ∧
      (earlier.filterMap announcement?).length = (earlier.filterMap sent?).length
  /-- What is received as a whole word is recorded, one by one and in order. -/
  recorded : List.Forall₂ Records (events.filterMap record?) (events.filterMap delivered?)
  /-- The line comes right after the transaction that it is about. -/
  followed {before after : List Bus.Event} {bytes : List UInt8} {length : Nat}
    {reading : Bus.Reading} (hcount : reading.count = 2)
    (hsplit : events = before ++ .answered (.writeRead bytes length) (.ok reading) :: after) :
    ∃ line later, after = .reported line :: later ∧
      Records line.render ⟨.writeRead bytes length, .ok reading⟩ ∧
      (before.filterMap record?).length = (before.filterMap delivered?).length

/-! ## Faithful courses -/

/-- A course of events in which every line of register traffic is true and stands where it should:
right before a transaction that sends something, and right after one that has received two bytes.
There may be other lines anywhere, but a warning only if one is due. -/
inductive Faithful (due : Prop) : List Bus.Event → Prop
  | nil : Faithful due []
  | sent {line : Line} {text : String} {bytes : List UInt8} (answer : Except Failure Unit)
    {rest : List Bus.Event} (hline : announcement? (.reported line) = some text)
    (h : Announces text (.write bytes)) (hrest : Faithful due rest) :
    Faithful due (.reported line :: .answered (.write bytes) answer :: rest)
  | received {bytes : List UInt8} {length : Nat} {reading : Bus.Reading} {line : Line}
    {text : String} {rest : List Bus.Event} (hcount : reading.count = 2)
    (hline : record? (.reported line) = some text)
    (h : Records text ⟨.writeRead bytes length, .ok reading⟩) (hrest : Faithful due rest) :
    Faithful due (.answered (.writeRead bytes length) (.ok reading) :: .reported line :: rest)
  | missed {bytes : List UInt8} {length : Nat} {answer : Except Failure Bus.Reading}
    {rest : List Bus.Event} (h : delivered? (.answered (.writeRead bytes length) answer) = none)
    (hrest : Faithful due rest) :
    Faithful due (.answered (.writeRead bytes length) answer :: rest)
  | remark {line : Line} {rest : List Bus.Event} (hlevel : line.level ≠ .trace)
    (h : line.level = .warn → due) (hrest : Faithful due rest) :
    Faithful due (.reported line :: rest)

/-- The place of a transaction between what comes before it and what comes after it: right behind
its announcement, or right in front of its record, or anywhere if it needs neither. -/
inductive Placed (due : Prop) : List Bus.Event → Bus.Event → List Bus.Event → Prop
  | announced {earlier later : List Bus.Event} {line : Line} {text : String} {bytes : List UInt8}
    {answer : Except Failure Unit} (hearlier : Faithful due earlier)
    (hline : announcement? (.reported line) = some text) (h : Announces text (.write bytes)) :
    Placed due (earlier ++ [.reported line]) (.answered (.write bytes) answer) later
  | recorded {before later : List Bus.Event} {bytes : List UInt8} {length : Nat}
    {reading : Bus.Reading} {line : Line} {text : String} (hbefore : Faithful due before)
    (hline : record? (.reported line) = some text)
    (h : Records text ⟨.writeRead bytes length, .ok reading⟩) :
    Placed due before (.answered (.writeRead bytes length) (.ok reading)) (.reported line :: later)
  | missed {before later : List Bus.Event} {bytes : List UInt8} {length : Nat}
    {answer : Except Failure Bus.Reading}
    (h : delivered? (.answered (.writeRead bytes length) answer) = none) :
    Placed due before (.answered (.writeRead bytes length) answer) later

namespace Faithful

variable {due : Prop} {events more : List Bus.Event}

/-- Faithful courses one after another are a faithful course. -/
theorem append (h : Faithful due events) (hmore : Faithful due more) :
    Faithful due (events ++ more) := by
  induction h with
  | nil => exact hmore
  | sent answer hline h _ ih => exact .sent answer hline h ih
  | received hcount hline h _ ih => exact .received hcount hline h ih
  | missed h _ ih => exact .missed h ih
  | remark hlevel h _ ih => exact .remark hlevel h ih

/-- What is faithful stays so with more warnings due. -/
theorem mono {due' : Prop} (h : Faithful due events) (hdue : due → due') :
    Faithful due' events := by
  induction h with
  | nil => exact .nil
  | sent answer hline h _ ih => exact .sent answer hline h ih
  | received hcount hline h _ ih => exact .received hcount hline h ih
  | missed h _ ih => exact .missed h ih
  | remark hlevel h _ ih => exact .remark hlevel (hdue ∘ h) ih

/-- **What is sent is announced, one by one and in order.** -/
theorem announced (h : Faithful due events) :
    List.Forall₂ Announces (events.filterMap announcement?) (events.filterMap sent?) := by
  induction h with
  | nil => exact .nil
  | sent answer hline h _ ih =>
    rw [List.filterMap_cons_some hline]
    exact .cons h ih
  | received hcount hline h _ ih =>
    rw [List.filterMap_cons_none rfl, List.filterMap_cons_none (announcement?_of_record hline)]
    exact ih
  | missed _ _ ih => exact ih
  | remark hlevel _ _ ih =>
    rw [List.filterMap_cons_none (announcement?_of_level hlevel)]
    exact ih

/-- **What is received is recorded, one by one and in order.** -/
theorem recorded (h : Faithful due events) :
    List.Forall₂ Records (events.filterMap record?) (events.filterMap delivered?) := by
  induction h with
  | nil => exact .nil
  | sent answer hline h _ ih =>
    rw [List.filterMap_cons_none (record?_of_announcement hline)]
    exact ih
  | received hcount hline h _ ih =>
    rw [List.filterMap_cons_none rfl, List.filterMap_cons_some hline,
      List.filterMap_cons_some (delivered?_of_count hcount _ _)]
    exact .cons h ih
  | missed h _ ih =>
    rw [List.filterMap_cons_none h]
    exact ih
  | remark hlevel _ _ ih =>
    rw [List.filterMap_cons_none (record?_of_level hlevel)]
    exact ih

/-- A transaction keeps its place behind a faithful course. -/
theorem append_placed (h : Faithful due events) {before after : List Bus.Event}
    {event : Bus.Event} (hplaced : Placed due before event after) :
    Placed due (events ++ before) event after := by
  cases hplaced with
  | announced hearlier hline hannounces =>
    rw [← List.append_assoc]
    exact .announced (h.append hearlier) hline hannounces
  | recorded hbefore hline hrecords => exact .recorded (h.append hbefore) hline hrecords
  | missed hnone => exact .missed hnone

/-- **Every transaction of a faithful course has its place in it.** -/
theorem placed (h : Faithful due events) {before after : List Bus.Event} {call : Bus.Call}
    {answer : Bus.Answer call} (hsplit : events = before ++ .answered call answer :: after) :
    Placed due before (.answered call answer) after := by
  -- The transaction is one of the events at the front of the course, or in what follows them.
  induction h generalizing before with
  | nil => exact absurd hsplit.symm (List.append_ne_nil_of_right_ne_nil _ (List.cons_ne_nil _ _))
  | sent answer' hline h _ ih =>
    match before with
    | [] => cases hsplit
    | [_] =>
      cases hsplit
      exact .announced .nil hline h
    | _ :: _ :: before =>
      cases hsplit
      exact append_placed (.sent answer' hline h .nil) (ih rfl)
  | received hcount hline h _ ih =>
    match before with
    | [] =>
      cases hsplit
      exact .recorded .nil hline h
    | [_] => cases hsplit
    | _ :: _ :: before =>
      cases hsplit
      exact append_placed (.received hcount hline h .nil) (ih rfl)
  | missed h _ ih =>
    match before with
    | [] =>
      cases hsplit
      exact .missed h
    | _ :: before =>
      cases hsplit
      exact append_placed (.missed h .nil) (ih rfl)
  | remark hlevel h _ ih =>
    match before with
    | [] => cases hsplit
    | _ :: before =>
      cases hsplit
      exact append_placed (.remark hlevel h .nil) (ih rfl)

/-- **Right before everything that is sent stands its announcement**, and what comes before that is
faithful too. -/
theorem preceded (h : Faithful due events) {before after : List Bus.Event} {bytes : List UInt8}
    {answer : Except Failure Unit}
    (hsplit : events = before ++ .answered (.write bytes) answer :: after) :
    ∃ earlier line, before = earlier ++ [.reported line] ∧
      Announces line.render (.write bytes) ∧ Faithful due earlier := by
  cases h.placed hsplit with
  | announced hearlier hline h =>
    exact ⟨_, _, rfl, (render_of_announcement hline).symm ▸ h, hearlier⟩

/-- **Right after everything that is received stands its record**, and what comes before it is
faithful too. -/
theorem followed (h : Faithful due events) {before after : List Bus.Event} {bytes : List UInt8}
    {length : Nat} {reading : Bus.Reading} (hcount : reading.count = 2)
    (hsplit : events = before ++ .answered (.writeRead bytes length) (.ok reading) :: after) :
    ∃ line later, after = .reported line :: later ∧
      Records line.render ⟨.writeRead bytes length, .ok reading⟩ ∧ Faithful due before := by
  cases h.placed hsplit with
  | recorded hbefore hline h =>
    exact ⟨_, _, rfl, (render_of_record hline).symm ▸ h, hbefore⟩
  | missed h =>
    rw [delivered?_of_count hcount] at h
    cases h

/-- **A faithful course is a record of the bus.** -/
theorem recordsBus (h : Faithful due events) : RecordsBus events where
  announced := h.announced
  preceded := fun hsplit =>
    have ⟨earlier, line, hbefore, hline, hearlier⟩ := h.preceded hsplit
    ⟨earlier, line, hbefore, hline, hearlier.announced.length_eq⟩
  recorded := h.recorded
  followed := fun hcount hsplit =>
    have ⟨line, later, hafter, hline, hbefore⟩ := h.followed hcount hsplit
    ⟨line, later, hafter, hline, hbefore.recorded.length_eq⟩

/-- There is a warning only if one is due. -/
theorem due_of_warning (h : Faithful due events) :
    ∀ line ∈ events.filterMap Event.line?, line.level = .warn → due := by
  induction h with
  | nil => exact List.forall_mem_nil _
  | sent _ hline _ _ ih =>
    exact List.forall_mem_cons.2 ⟨fun h => (nomatch (level_of_announcement hline).symm.trans h), ih⟩
  | received _ hline _ _ ih =>
    exact List.forall_mem_cons.2 ⟨fun h => (nomatch (level_of_record hline).symm.trans h), ih⟩
  | missed _ _ ih => exact ih
  | remark _ h _ ih => exact List.forall_mem_cons.2 ⟨h, ih⟩

/-- Without a transaction no line is about register traffic. -/
theorem level_ne_trace_of_quiet (h : Faithful due events)
    (hquiet : events.filterMap Event.call? = []) :
    ∀ line ∈ events.filterMap Event.line?, line.level ≠ .trace := by
  induction h with
  | nil => exact List.forall_mem_nil _
  | sent | received | missed => cases hquiet
  | remark hlevel _ _ ih => exact List.forall_mem_cons.2 ⟨hlevel, ih hquiet⟩

end Faithful

/-! ## What the driver says of its transactions -/

/-- An address that is encoded is the number of its register. -/
theorem slot_of_encode {address command : UInt8} {operation : Command.Operation}
    (h : Command.encode address operation = .ok command) :
    (Chip.slot address : Nat) = address.toNat := by
  have hle : address ≤ Command.maxAddress := by
    by_contra hnot
    rw [Command.encode_of_not_le hnot] at h
    cases h
  have hnibble : address.toNat ≤ 15 := UInt8.le_iff_toNat_le.1 hle
  exact Nat.mod_eq_of_lt (Nat.lt_succ_of_le hnibble)

/-- The word that a register holds is the number that its two bytes stand for. -/
theorem toNat_word (reading : Bus.Reading) : (Registers.word reading).toNat = reading.number := by
  have hhigh := (reading.byte 0).toNat_lt
  have hlow := (reading.byte 1).toNat_lt
  have hsum := Nat.two_pow_add_eq_or_of_lt hlow (reading.byte 0).toNat
  simp only [Registers.word, Bus.Reading.number, UInt16.toNat_or, UInt16.toNat_shiftLeft,
    UInt8.toNat_toUInt16, UInt16.reduceToNat, Nat.shiftLeft_eq, Nat.reduceMod,
    Nat.reducePow] at hsum ⊢
  rw [Nat.mod_eq_of_lt (by omega), Nat.mul_comm, ← hsum]

/-- The ninth bit of a value and its low byte make up the value. -/
theorem ninth_add_low {value : UInt16} (hv : value ≤ Registers.maxWord) :
    (if decide (0xFF < value) then 256 else 0) + value.toUInt8.toNat = value.toNat := by
  have hle : value.toNat ≤ 511 := UInt16.le_iff_toNat_le.1 hv
  have hlow : value.toUInt8.toNat = value.toNat % 256 := UInt16.toNat_toUInt8 value
  by_cases hbit : 0xFF < value
  · have hlarge : 255 < value.toNat := UInt16.lt_iff_toNat_lt.1 hbit
    rw [decide_eq_true hbit, if_pos rfl]
    omega
  · have hsmall : ¬ 255 < value.toNat := fun h => hbit (UInt16.lt_iff_toNat_lt.2 h)
    rw [decide_eq_false hbit, if_neg Bool.false_ne_true]
    omega

theorem announces_write {address command : UInt8} {value : UInt16}
    (h : Command.encode address .write = .ok command) (hv : value ≤ Registers.maxWord) :
    Announces (Line.write address value).render
      (.write [command ||| (value >>> 8).toUInt8, value.toUInt8]) := by
  refine ⟨_, Traffic.worded_write address value, ?_⟩
  rw [← slot_of_encode h, ← ninth_add_low hv]
  exact .store (Chip.decode_write h hv)

theorem announces_pulse {address command : UInt8} {direction : Direction}
    (h : Command.encode address (.ofDirection direction) = .ok command) {count : Nat}
    (hcount : 0 < count) :
    Announces (Line.pulse direction address count).render
      (.write (List.replicate count command)) := by
  refine ⟨_, Traffic.worded_pulse direction address count, ?_⟩
  rw [← slot_of_encode h]
  exact .burst (Chip.decode_pulse h) hcount

theorem records_read {address command : UInt8} (h : Command.encode address .read = .ok command)
    (length : Nat) {reading : Bus.Reading} (hcount : reading.count = 2) :
    Records (Line.read address (Registers.word reading)).render
      ⟨.writeRead [command] length, .ok reading⟩ := by
  refine ⟨_, Traffic.worded_read address (Registers.word reading), ?_⟩
  rw [← slot_of_encode h, toNat_word]
  exact .word (Chip.decode_encode h) hcount

/-- Whoever answers, the course that a dialogue takes is faithful. -/
def Truthful (due : Prop) {α : Type} (dialogue : Dialogue Bus.Call Bus.Answer α) : Prop :=
  ∀ (σ : Type) (responder : Bus.Responder σ) (state : σ),
    Faithful due (dialogue.run responder state).events

namespace Truthful

variable {due : Prop} {α β : Type} {dialogue : Dialogue Bus.Call Bus.Answer α}

theorem done (value : α) : Truthful due (.done value : Dialogue Bus.Call Bus.Answer α) :=
  fun _ _ _ => .nil

/-- A remark before everything else does no harm. -/
theorem say (h : Truthful due dialogue) (hlevel : line.level ≠ .trace)
    (hwarn : line.level = .warn → due) : Truthful due (.say line dialogue) :=
  fun σ responder state => .remark hlevel hwarn (h σ responder state)

theorem bind (h : Truthful due dialogue) {f : α → Dialogue Bus.Call Bus.Answer β}
    (hf : ∀ value, Truthful due (f value)) : Truthful due (dialogue >>= f) := by
  intro σ responder state
  rw [Dialogue.run_bind]
  exact (h σ responder state).append (hf _ σ responder _)

theorem map (h : Truthful due dialogue) (f : α → β) : Truthful due (f <$> dialogue) := by
  intro σ responder state
  rw [Dialogue.run_map]
  exact h σ responder state

theorem mono {due' : Prop} (h : Truthful due dialogue) (hdue : due → due') :
    Truthful due' dialogue :=
  fun σ responder state => (h σ responder state).mono hdue

end Truthful

end Log

namespace Registers

open Log (Line Truthful delivered?_of_count_ne announces_write announces_pulse records_read
  toNat_word refused? Warns)

variable {due : Prop}

/-! ## Register operations -/

/-- A read makes a record of a whole word, and of nothing else. -/
theorem truthful_read (address : UInt8) : Truthful due (read address).run := by
  intro σ responder state
  rw [run_read]
  cases hcommand : Command.encode address .read with
  | error error => exact .nil
  | ok command =>
    simp only [Dialogue.run_ask]
    rcases (responder (.writeRead [command] 2) state).1 with failure | reading
    · exact .missed rfl .nil
    · by_cases hcount : reading.count = 2
      · simp only [hcount, if_true]
        exact .received hcount rfl (records_read hcommand 2 hcount) .nil
      · simp only [hcount, if_false]
        exact .missed (delivered?_of_count_ne hcount _ _) .nil

/-- A write is announced, if it is made at all. -/
theorem truthful_write (address : UInt8) (value : UInt16) :
    Truthful due (write address value).run := by
  intro σ responder state
  rw [run_write]
  by_cases hv : value ≤ maxWord
  · rw [if_pos hv]
    cases hcommand : Command.encode address .write with
    | error error => exact .nil
    | ok command => exact .sent _ rfl (announces_write hcommand hv) .nil
  · rw [if_neg hv]
    exact .nil

/-- A burst is announced, if it is made at all. -/
theorem truthful_pulse (address : UInt8) (direction : Direction) (steps : Int32) :
    Truthful due (pulse address direction steps).run := by
  intro σ responder state
  rw [run_pulse]
  by_cases hzero : steps = 0
  · rw [if_pos hzero]
    exact .nil
  have hpos : 0 < steps.toInt.natAbs := Int.natAbs_pos.2 fun h => hzero (Int32.toInt_inj.1 h)
  rw [if_neg hzero]
  by_cases hb : steps.toInt.natAbs ≤ maxBurst
  · rw [if_pos hb]
    simp only
    cases hcommand : Command.encode address
        (.ofDirection (if steps < 0 then direction.reverse else direction)) with
    | error error => exact .nil
    | ok command => exact .sent _ rfl (announces_pulse hcommand hpos) .nil
  · rw [if_neg hb]
    exact .nil

/-- A warning is due about a status that is refused. -/
theorem truthful_status (hdue : due) : Truthful due status.run := by
  rw [run_status]
  refine (truthful_read statusAddress).bind fun result => ?_
  rcases result with error | word
  · exact .done _
  · simp only
    cases Status.ofWord word with
    | ok found => exact .done _
    | error error => exact .say (.done _) nofun fun _ => hdue

theorem truthful_terminals (channel : Channel) : Truthful due (terminals channel).run := by
  rw [run_terminals]
  exact (truthful_read channel.terminalAddress).map _

theorem truthful_setTerminals (setting : Terminals) : Truthful due (setTerminals setting).run := by
  rw [run_setTerminals]
  refine (truthful_read setting.channel.terminalAddress).bind fun result => ?_
  rcases result with error | word
  · exact .done _
  · exact truthful_write _ _

/-- Wrapping up a result changes nothing of what is said. -/
theorem truthful_wrap {α : Type} {program : Program α} (h : Truthful due program.run)
    (f : α → Result) : Truthful due (f <$> program).run := by
  rw [ExceptT.run_map]
  exact h.map _

/-- **What is done with the registers is all in the log**, and nothing else is. -/
theorem truthful_perform (operation : Operation) :
    Truthful (operation = .status) operation.perform.run := by
  cases operation with
  | read address => exact truthful_wrap (truthful_read address) _
  | write address value => exact truthful_wrap (truthful_write address value) _
  | pulse address direction steps =>
    exact truthful_wrap (truthful_pulse address direction steps) _
  | status => exact truthful_wrap (truthful_status rfl) _
  | increase channel steps => exact truthful_wrap (truthful_pulse _ .up steps) _
  | decrease channel steps => exact truthful_wrap (truthful_pulse _ .down steps) _
  | value channel nonVolatile => exact truthful_wrap (truthful_read _) _
  | setValue channel value nonVolatile => exact truthful_wrap (truthful_write _ value) _
  | terminals channel => exact truthful_wrap (truthful_terminals channel) _
  | setTerminals setting => exact truthful_wrap (truthful_setTerminals setting) _
  | setLock channel locked => exact truthful_wrap (truthful_pulse _ (.ofBool locked) 1) _
  | setProtection enabled => exact truthful_wrap (truthful_pulse _ (.ofBool enabled) 1) _

/-! ## Warnings -/

/-- The reserved bits are missing from a word if they are missing from the number it was made of. -/
theorem reserved_word (reading : Bus.Reading) :
    word reading &&& Status.reserved = Status.reserved ↔ reading.number &&& 0x1F0 = 0x1F0 := by
  rw [← UInt16.toNat_inj, UInt16.toNat_and, toNat_word]
  rfl

theorem warns_unexpectedStatus (reading : Bus.Reading) :
    Warns (Line.unexpectedStatus (word reading)).render reading.number := by
  obtain ⟨bits, hbits, htext⟩ := Text.binary_eq (by decide : 0 < 9) (word reading).toNat
  refine ⟨bits, toNat_word reading ▸ hbits, ?_⟩
  show "WARN" ++ " " ++ ("Unexpected STATUS register contents: " ++ Text.binary 9 _) = _
  rw [htext, show "WARN Unexpected STATUS register contents: 0b" =
    "WARN" ++ " " ++ ("Unexpected STATUS register contents: " ++ "0b") from rfl]
  simp only [String.append_assoc]

/-- **Reading the status is one transaction, and a warning if its word is refused.** -/
theorem warned_status {σ : Type} (responder : Bus.Responder σ) (state : σ) :
    let outcome := status.run.run responder state
    ∃ exchange, outcome.exchanges = [exchange] ∧
      List.Forall₂ Warns (outcome.shown .warn) (refused? exchange).toList := by
  have hcommand : Command.encode statusAddress .read = .ok 0x5C := rfl
  rw [run_status, run_read, hcommand]
  simp only [Dialogue.ask_bind, Dialogue.run_ask]
  rcases (responder (.writeRead [0x5C] 2) state).1 with failure | reading
  · exact ⟨_, rfl, .nil⟩
  by_cases hcount : reading.count = 2
  · simp only [if_pos hcount, Dialogue.say_bind, Dialogue.done_bind]
    by_cases hreserved : word reading &&& Status.reserved = Status.reserved
    · have hword : Status.ofWord (word reading) = .ok _ := if_pos hreserved
      have hrefused : refused? ⟨.writeRead [0x5C] 2, .ok reading⟩ = none :=
        if_neg fun h => h.2 ((reserved_word reading).1 hreserved)
      simp only [hword]
      refine ⟨_, rfl, ?_⟩
      rw [hrefused]
      exact .nil
    · have hword : Status.ofWord (word reading) = .error _ := if_neg hreserved
      have hrefused : refused? ⟨.writeRead [0x5C] 2, .ok reading⟩ = some _ :=
        if_pos ⟨hcount, fun h => hreserved ((reserved_word reading).2 h)⟩
      simp only [hword]
      refine ⟨_, rfl, ?_⟩
      rw [hrefused]
      exact .cons (warns_unexpectedStatus reading) .nil
  · have hrefused : refused? ⟨.writeRead [0x5C] 2, .ok reading⟩ = none :=
      if_neg fun h => hcount h.1
    simp only [if_neg hcount, Dialogue.done_bind]
    refine ⟨_, rfl, ?_⟩
    rw [hrefused]
    exact .nil

end Registers

end WiperDriver
