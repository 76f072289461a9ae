import WiperDriver.Proofs.Registers.Prompt
import WiperDriver.Registers.Operation

/-!
# Register operations under any bus

Whatever the bus answers, a register operation asks at most two things of the chip, stops at the
first transaction that fails, and hands its error on (`prompt_perform`). What is left are the
refusals that need no bus: `prompt_read`, `prompt_write` and `prompt_pulse` say for which arguments
there are any, and the operations on a channel inherit from them. All of these are refused before
they ask for anything, except for a STATUS word and a change of terminals, which are refused for the
word that was read.
-/

namespace WiperDriver.Registers

open Bus (failure?)

variable {α : Type} {past : List Order}

/-- The one order that is permitted, and when. -/
abbrev Only (past : List Order) (order : Order) (before : List Order) (asked : Order) : Prop :=
  before = past ∧ asked = order

/-- An end without a failed transaction: success after some orders, or a refusal for a reason. -/
def Concludes (succeeds : List Order → Prop) (reason : List Order → Error → Prop)
    (after : List Order) : Except Error α → Prop
  | .ok _ => succeeds after
  | .error error => reason after error

theorem Concludes.mono {succeeds succeeds' : List Order → Prop}
    {reason reason' : List Order → Error → Prop} {after : List Order} {result : Except Error α}
    (h : Concludes succeeds reason after result) (hsucceeds : succeeds after → succeeds' after)
    (hreason : ∀ error, reason after error → reason' after error) :
    Concludes succeeds' reason' after result := by
  cases result with
  | ok value => exact hsucceeds h
  | error error => exact hreason error h

/-! ## One address -/

/-- Reading a register that a command byte can name. -/
theorem run_read_of_le {address : UInt8} (h : address ≤ Command.maxAddress) :
    (read address).run = .ask (Order.read address).call fun
      | .error failure => .done (.error (.io failure))
      | .ok reading =>
        if reading.count = wordLength then
          .say (.read address (word reading)) (.done (.ok (word reading)))
        else .done (.error (.unexpectedByteCount wordLength reading.count)) := by
  rw [run_read, Command.encode_of_le h]
  refine congrArg (Dialogue.ask _) (funext fun answer => ?_)
  cases answer <;> rfl

/-- Writing a value that the register can hold. -/
theorem run_write_of_le {address : UInt8} (h : address ≤ Command.maxAddress) {value : UInt16}
    (hvalue : value ≤ maxWord) :
    (write address value).run = .say (.write address value)
      (.ask (Order.write address value).call fun answer => .done (answer.mapError .io)) := by
  rw [run_write, if_pos hvalue, Command.encode_of_le h]

/-- Writing one that it cannot hold. -/
theorem run_write_of_not_le {value : UInt16} (hvalue : ¬ value ≤ maxWord) (address : UInt8) :
    (write address value).run = .done (.error (.valueOutOfRange value)) := by
  rw [run_write, if_neg hvalue]

/-- Reading asks for the register, and is refused for an address that no command byte can name. -/
theorem prompt_read (address : UInt8) (past : List Order) :
    Prompt (Only past (.read address)) .error
      (Concludes (· = past ++ [.read address]) fun after error =>
        after = past ∧ ¬ address ≤ Command.maxAddress ∧ error = .invalidAddress address)
      past (read address).run := by
  rw [run_read]
  by_cases haddress : address ≤ Command.maxAddress
  · rw [Command.encode_of_le haddress]
    refine .ask ⟨rfl, rfl⟩ rfl (fun answer error hfailed => ?_) fun answer hgood => ?_
    · rcases answer with failure | reading
      · cases hfailed
        rfl
      · rw [Bus.failure?_reading] at hfailed
        split at hfailed
        · cases hfailed
        · next hcount =>
          cases hfailed
          exact if_neg hcount
    · rcases answer with failure | reading
      · cases hgood
      · rw [Bus.failure?_reading] at hgood
        split at hgood
        · next hcount =>
          have hword : reading.count = 2 := hcount
          simp only [hword, if_true]
          exact .say _ (.done rfl)
        · cases hgood
  · rw [Command.encode_of_not_le haddress]
    exact .done ⟨rfl, haddress, rfl⟩

/-- A transaction of bytes whose answer is the result is prompt. -/
theorem prompt_send {permits : List Order → Order → Prop}
    {ends : List Order → Except Error Unit → Prop} {order : Order} {bytes : List UInt8}
    (hpermits : permits past order) (hcall : .write bytes = order.call)
    (h : ends (past ++ [order]) (.ok ())) :
    Prompt permits .error ends past
      (.ask (.write bytes) fun answer => .done (answer.mapError .io)) := by
  refine .ask hpermits hcall (fun answer error hfailed => ?_) fun answer hgood => ?_
  · rcases answer with failure | ⟨⟨⟩⟩
    · cases hfailed
      rfl
    · cases hfailed
  · rcases answer with failure | ⟨⟨⟩⟩
    · cases hgood
    · exact .done h

/-- Writing asks for the new value, and is refused for a value that no register can hold, or else
for an address that no command byte can name. -/
theorem prompt_write (address : UInt8) (value : UInt16) (past : List Order) :
    Prompt (Only past (.write address value)) .error
      (Concludes (· = past ++ [.write address value]) fun after error => after = past ∧
        (¬ value ≤ maxWord ∧ error = .valueOutOfRange value ∨
          ¬ address ≤ Command.maxAddress ∧ error = .invalidAddress address))
      past (write address value).run := by
  rw [run_write]
  by_cases hvalue : value ≤ maxWord
  · rw [if_pos hvalue]
    by_cases haddress : address ≤ Command.maxAddress
    · rw [Command.encode_of_le haddress]
      exact .say _ (prompt_send ⟨rfl, rfl⟩ rfl rfl)
    · rw [Command.encode_of_not_le haddress]
      exact .done ⟨rfl, .inr ⟨haddress, rfl⟩⟩
  · rw [if_neg hvalue]
    exact .done ⟨rfl, .inl ⟨hvalue, rfl⟩⟩

/-- The one burst that is permitted, which has at least one pulse, and when. -/
def OnlyPulses (past : List Order) (address : UInt8) (direction : Direction) (count : Nat)
    (before : List Order) (asked : Order) : Prop :=
  before = past ∧ 0 < count ∧ ∃ h, asked = .pulse address direction count h

/-- Pulsing asks for one burst, and is refused for a burst that is too long, or else for an address
that no command byte can name. -/
theorem prompt_pulse (address : UInt8) (direction : Direction) (steps : Int32)
    (past : List Order) :
    Prompt (OnlyPulses past address (heading direction steps) steps.toInt.natAbs) .error
      (Concludes (fun _ => True) fun after error => after = past ∧
        (¬ steps.toInt.natAbs ≤ maxBurst ∧ error = .stepsOutOfRange steps ∨
          ¬ address ≤ Command.maxAddress ∧ error = .invalidAddress address))
      past (pulse address direction steps).run := by
  rw [run_pulse]
  by_cases hnone : steps = 0
  · rw [if_pos hnone]
    exact .done trivial
  rw [if_neg hnone]
  by_cases hlength : steps.toInt.natAbs ≤ maxBurst
  · rw [if_pos hlength]
    simp only
    by_cases haddress : address ≤ Command.maxAddress
    · have hpos : 0 < steps.toInt.natAbs :=
        Int.natAbs_pos.2 fun hzero => hnone (Int32.toInt_inj.1 hzero)
      rw [Command.encode_of_le haddress]
      exact .say _ (prompt_send ⟨rfl, hpos, hlength, rfl⟩ rfl trivial)
    · rw [Command.encode_of_not_le haddress]
      exact .done ⟨rfl, .inr ⟨haddress, rfl⟩⟩
  · rw [if_neg hlength]
    exact .done ⟨rfl, .inl ⟨hlength, rfl⟩⟩

/-! ## Arguments that fit -/

/-- Without a reason to refuse there is no refusal. -/
abbrev Accepts (succeeds : List Order → Prop) : List Order → Except Error α → Prop :=
  Concludes succeeds fun _ _ => False

theorem prompt_read_of_le {address : UInt8} (h : address ≤ Command.maxAddress)
    (past : List Order) :
    Prompt (Only past (.read address)) .error (Accepts (· = past ++ [.read address])) past
      (read address).run :=
  (prompt_read address past).mono (fun _ _ => id) fun _ _ hresult =>
    hresult.mono id fun _ hrefused => hrefused.2.1 h

theorem prompt_write_of_le {address : UInt8} {value : UInt16} (h : address ≤ Command.maxAddress)
    (hvalue : value ≤ maxWord) (past : List Order) :
    Prompt (Only past (.write address value)) .error
      (Accepts (· = past ++ [.write address value])) past (write address value).run :=
  (prompt_write address value past).mono (fun _ _ => id) fun _ _ hresult =>
    hresult.mono id fun _ hrefused => hrefused.2.elim (·.1 hvalue) (·.1 h)

theorem prompt_pulse_of_le {address : UInt8} {steps : Int32} (h : address ≤ Command.maxAddress)
    (hlength : steps.toInt.natAbs ≤ maxBurst) (direction : Direction) (past : List Order) :
    Prompt (OnlyPulses past address (heading direction steps) steps.toInt.natAbs) .error
      (Accepts fun _ => True) past (pulse address direction steps).run :=
  (prompt_pulse address direction steps past).mono (fun _ _ => id) fun _ _ hresult =>
    hresult.mono id fun _ hrefused => hrefused.2.elim (·.1 hlength) (·.1 h)

/-! ## Operations on a channel -/

/-- The STATUS word is refused for what it says and for nothing else. -/
theorem prompt_status :
    Prompt (Only [] (.read statusAddress)) .error
      (Concludes (fun _ => True) fun after error =>
        after = [.read statusAddress] ∧ ∃ word, error = .invalidStatus word) [] status.run := by
  rw [run_status]
  refine (prompt_read_of_le (by decide) []).bind (fun _ => rfl) fun after result hresult => ?_
  rcases result with error | word
  · exact hresult.elim
  · simp only
    cases hword : Status.ofWord word with
    | ok found => exact .done trivial
    | error error =>
      refine .say _ (.done ⟨hresult, word, ?_⟩)
      unfold Status.ofWord at hword
      split at hword
      · cases hword
      · cases hword
        rfl

theorem prompt_terminals (channel : Channel) :
    Prompt (Only [] (.read channel.terminalAddress)) .error (Accepts fun _ => True) []
      (terminals channel).run := by
  rw [run_terminals]
  refine (prompt_read_of_le channel.terminalAddress_le []).map (fun _ => rfl) ?_
  rintro after (error | word) hresult
  · exact hresult.elim
  · trivial

/-- What a change of terminals asks for: the word of the register and then, with the setting merged
into a word that fits the register, to write it back. -/
inductive AsksTerminals (setting : Terminals) : List Order → Order → Prop
  | look : AsksTerminals setting [] (.read setting.channel.terminalAddress)
  | merge (word : UInt16) (hfits : setting.applyTo word ≤ maxWord) :
    AsksTerminals setting [.read setting.channel.terminalAddress]
      (.write setting.channel.terminalAddress (setting.applyTo word))

/-- A change of terminals is refused only if the merged word does not fit the register. -/
theorem prompt_setTerminals (setting : Terminals) :
    Prompt (AsksTerminals setting) .error
      (Concludes (fun _ => True) fun after error =>
        after = [.read setting.channel.terminalAddress] ∧
          ∃ word, error = .valueOutOfRange (setting.applyTo word))
      [] (setTerminals setting).run := by
  have haddress := setting.channel.terminalAddress_le
  rw [run_setTerminals]
  have hlook : Prompt (AsksTerminals setting) .error _ []
      (read setting.channel.terminalAddress).run :=
    (prompt_read_of_le haddress []).mono
      (by rintro _ _ ⟨rfl, rfl⟩; exact .look) fun _ _ => id
  refine hlook.bind (fun _ => rfl) fun after result hresult => ?_
  rcases result with error | word
  · exact hresult.elim
  · cases hresult
    by_cases hfits : setting.applyTo word ≤ maxWord
    · exact (prompt_write_of_le haddress hfits _).mono
        (by rintro _ _ ⟨rfl, rfl⟩; exact .merge word hfits)
        fun _ _ hresult => hresult.mono (fun _ => trivial) fun _ => False.elim
    · simp only [run_write_of_not_le hfits]
      exact .done ⟨rfl, word, rfl⟩

/-! ## Operations as data -/

/-- Two orders at most, whichever they are. -/
abbrev AtMostTwo (past : List Order) (_ : Order) : Prop :=
  past.length < 2

/-- Any end but one with an error of the bus. -/
abbrev NotFromBus : List Order → Except Error α → Prop :=
  Concludes (fun _ => True) fun _ error => ¬ error.FromBus

/-- A prompt program whose value is wrapped up as a result. -/
theorem prompt_wrap {permits : List Order → Order → Prop} {succeeds : List Order → Prop}
    {reason : List Order → Error → Prop} {program : Program α}
    (h : Prompt permits .error (Concludes succeeds reason) [] program.run)
    (hpermits : ∀ past order, permits past order → AtMostTwo past order)
    (hreason : ∀ after error, reason after error → ¬ error.FromBus) (f : α → Result) :
    Prompt AtMostTwo .error NotFromBus [] (f <$> program).run := by
  rw [ExceptT.run_map]
  refine (h.mono hpermits fun _ _ => id).map (fun _ => rfl) fun after result hresult => ?_
  cases result with
  | ok value => trivial
  | error error => exact hreason after error hresult

/-- **Every register operation stops at its first failure, whoever answers.** -/
theorem prompt_perform (operation : Operation) :
    Prompt AtMostTwo .error NotFromBus [] operation.perform.run := by
  have honly {past : List Order} {order : Order} (h : past.length < 2) :
      ∀ before asked, Only past order before asked → AtMostTwo before asked := by
    rintro _ _ ⟨rfl, rfl⟩
    exact h
  have hread (address : UInt8) (shown : UInt16 → Result) :=
    prompt_wrap (prompt_read address []) (honly (by decide)) (by rintro _ _ ⟨-, -, rfl⟩; exact id)
      shown
  have hwrite (address : UInt8) (value : UInt16) :=
    prompt_wrap (prompt_write address value []) (honly (by decide))
      (by rintro _ _ ⟨-, ⟨-, rfl⟩ | ⟨-, rfl⟩⟩ <;> exact id) fun _ => .done
  have hpulse (address : UInt8) (direction : Direction) (steps : Int32) :=
    prompt_wrap (prompt_pulse address direction steps [])
      (by rintro _ _ ⟨rfl, -, -, rfl⟩; exact Nat.zero_lt_two)
      (by rintro _ _ ⟨-, ⟨-, rfl⟩ | ⟨-, rfl⟩⟩ <;> exact id) fun _ => .done
  cases operation with
  | read address => exact hread address .word
  | value channel nonVolatile => exact hread _ .word
  | write address word => exact hwrite address word
  | setValue channel word nonVolatile => exact hwrite _ word
  | pulse address direction steps => exact hpulse address direction steps
  | increase channel steps => exact hpulse _ .up steps
  | decrease channel steps => exact hpulse _ .down steps
  | setLock channel locked => exact hpulse _ (.ofBool locked) 1
  | setProtection enabled => exact hpulse _ (.ofBool enabled) 1
  | status =>
    exact prompt_wrap prompt_status (honly (by decide)) (by rintro _ _ ⟨-, _, rfl⟩; exact id)
      .status
  | terminals channel =>
    exact prompt_wrap (prompt_terminals channel) (honly (by decide)) (fun _ _ => False.elim)
      .terminals
  | setTerminals setting =>
    have htwo : ∀ past order, AsksTerminals setting past order → AtMostTwo past order := by
      rintro _ _ (_ | _)
      · exact Nat.zero_lt_two
      · exact Nat.one_lt_two
    exact prompt_wrap (prompt_setTerminals setting) htwo (by rintro _ _ ⟨-, _, rfl⟩; exact id)
      fun _ => .done

end WiperDriver.Registers
