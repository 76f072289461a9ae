import WiperDriver.Linux.Device.Lemmas
import WiperDriver.Proofs.Dialogue.Exchanges
import WiperDriver.Proofs.Linux.Errnos

/-!
# How a device is opened

Opening a bus asks the kernel for the file, for the function mask and, if that shows 10-bit
addresses, for 7-bit ones; opening it for a slave chooses the slave after that. `Opening` lists the
courses this can take: each of the calls is made once, in this order, and the first that fails is
the last and gives the error. What comes before is a number of attempts to open the file that were
interrupted, each of them followed by another one (`Attempts`). Either way the error that comes up
is that of the last call, and no other's (`Attempts.error_iff`).
-/

namespace WiperDriver.Linux.Device

variable {σ : Type}

/-- A system call with its answer. -/
abbrev Exchange : Type :=
  (call : SystemCall) × call.Answer

/-- The error number that a system call gave, if it gave one. -/
def errno? : (call : SystemCall) → call.Answer → Option Errno
  | .openFile _, .error errno => some errno
  | .control _ _, .error errno => some errno
  | .write _ _, .error errno => some errno
  | _, _ => none

/-- The error number that the last of some system calls gave, if it gave one. -/
def lastErrno? (exchanges : List Exchange) : Option Errno :=
  exchanges.getLast?.bind fun exchange => errno? exchange.1 exchange.2

/-- The addresses that can be assigned, as a range. -/
theorem assignable_iff {address : UInt16} :
    assignable address = true ↔ 0x08 ≤ address.toNat ∧ address.toNat ≤ 0x77 := by
  rw [assignable, Bool.and_eq_true, decide_eq_true_iff, decide_eq_true_iff,
    UInt16.le_iff_toNat_le, UInt16.le_iff_toNat_le]
  rfl

/-! ## Courses -/

/-- The calls of an opening that all succeed, before a slave is chosen: the file is opened, the mask
is told, and 7-bit addresses are asked for if the mask shows 10-bit ones. -/
def prelude (bus : UInt8) (file : Descriptor) (mask : UInt64) : List Exchange :=
  ⟨.openFile (path bus), .ok file⟩ :: ⟨.control file .functions, .ok mask⟩ ::
    if mask &&& 0x2 ≠ 0 then [⟨.control file (.tenBit 0), .ok ()⟩] else []

/-- The courses of an opening of a bus, for a slave or for none: what is asked and answered, and the
result. -/
inductive Opening (bus : UInt8) : Option UInt16 → List Exchange → Except Error Device → Prop
  /-- The file cannot be opened. -/
  | noFile (chosen : Option UInt16) (errno : Errno) :
    Opening bus chosen [⟨.openFile (path bus), .error errno⟩] (.error (.io errno.failure))
  /-- The mask is not told. -/
  | noMask (chosen : Option UInt16) (file : Descriptor) (errno : Errno) :
    Opening bus chosen
      [⟨.openFile (path bus), .ok file⟩, ⟨.control file .functions, .error errno⟩]
      (.error (.io errno.failure))
  /-- The mask shows 10-bit addresses, and 7-bit ones are denied. -/
  | noWidth (chosen : Option UInt16) (file : Descriptor) (mask : UInt64) (h : mask &&& 0x2 ≠ 0)
    (errno : Errno) :
    Opening bus chosen
      [⟨.openFile (path bus), .ok file⟩, ⟨.control file .functions, .ok mask⟩,
        ⟨.control file (.tenBit 0), .error errno⟩]
      (.error (.io errno.failure))
  /-- The slave is denied. -/
  | noSlave (file : Descriptor) (mask : UInt64) (slave : UInt16) (errno : Errno) :
    Opening bus (some slave)
      (prelude bus file mask ++ [⟨.control file (.slave slave.toUInt64), .error errno⟩])
      (.error (.io errno.failure))
  /-- No slave was asked for, and all calls succeed. -/
  | bare (file : Descriptor) (mask : UInt64) :
    Opening bus none (prelude bus file mask) (.ok ⟨bus, ⟨mask⟩, file, 0⟩)
  /-- A slave was asked for, and all calls succeed. -/
  | bound (file : Descriptor) (mask : UInt64) (slave : UInt16) :
    Opening bus (some slave)
      (prelude bus file mask ++ [⟨.control file (.slave slave.toUInt64), .ok ()⟩])
      (.ok ⟨bus, ⟨mask⟩, file, slave⟩)

/-- The file is opened once. -/
theorem Opening.opens_once {bus : UInt8} {chosen : Option UInt16} {exchanges : List Exchange}
    {result : Except Error Device} (h : Opening bus chosen exchanges result) :
    (exchanges.map Sigma.fst).count (.openFile (path bus)) = 1 := by
  have hprelude (file : Descriptor) (mask : UInt64) :
      ((prelude bus file mask).map Sigma.fst).count (.openFile (path bus)) = 1 := by
    unfold prelude
    split <;> simp
  cases h with
  | bare file mask => exact hprelude file mask
  | noSlave file mask | bound file mask =>
    rw [List.map_append, List.count_append, hprelude]
    simp
  | _ => simp

/-- Interrupted attempts to open the file of a bus, and then an opening. An interruption is its
result only if there were as many attempts before as there was patience for. -/
inductive Attempts (bus : UInt8) (chosen : Option UInt16) :
    (patience : Nat) → List Exchange → Except Error Device → Prop
  /-- The answer to this attempt stands. -/
  | stands {patience : Nat} {exchanges : List Exchange} {result : Except Error Device}
    (h : Opening bus chosen exchanges result)
    (hlast : patience ≠ 0 → exchanges ≠ [⟨.openFile (path bus), .error .interrupted⟩]) :
    Attempts bus chosen patience exchanges result
  /-- This attempt is interrupted, and the next one is made. -/
  | again {patience : Nat} {exchanges : List Exchange} {result : Except Error Device}
    (h : Attempts bus chosen patience exchanges result) :
    Attempts bus chosen (patience + 1)
      (⟨.openFile (path bus), .error .interrupted⟩ :: exchanges) result

/-- The error number of a failure is that of the last call, if the last call gave one. -/
theorem error_iff_of_last {exchanges : List Exchange} {given : Errno}
    (h : lastErrno? exchanges = some given) (errno : Errno) :
    (.error (.io given.failure) : Except Error Device) = .error (.io errno.failure) ↔
      lastErrno? exchanges = some errno := by
  rw [h, Except.error.injEq, Error.io.injEq, Errno.failure_injective.eq_iff, Option.some.injEq]

/-- The calls before a slave is chosen have all succeeded. -/
theorem lastErrno?_prelude (bus : UInt8) (file : Descriptor) (mask : UInt64) :
    lastErrno? (prelude bus file mask) = none := by
  unfold prelude
  split <;> rfl

/-- What comes before the last call makes no difference. -/
theorem lastErrno?_append (front : List Exchange) (exchange : Exchange) :
    lastErrno? (front ++ [exchange]) = errno? exchange.1 exchange.2 := by
  rw [lastErrno?, List.getLast?_concat]
  rfl

/-- **An opening fails with the error number of its last call**, if that gave one. -/
theorem Opening.error_iff {bus : UInt8} {chosen : Option UInt16} {exchanges : List Exchange}
    {result : Except Error Device} (h : Opening bus chosen exchanges result) (errno : Errno) :
    result = .error (.io errno.failure) ↔ lastErrno? exchanges = some errno := by
  cases h with
  | noFile | noMask | noWidth => exact error_iff_of_last rfl errno
  | noSlave => exact error_iff_of_last (lastErrno?_append _ _) errno
  | bare file mask =>
    rw [lastErrno?_prelude]
    exact iff_of_false nofun nofun
  | bound file mask slave =>
    rw [lastErrno?_append]
    exact iff_of_false nofun nofun

/-- Opening makes at least one call. -/
theorem Attempts.ne_nil {bus : UInt8} {chosen : Option UInt16} {patience : Nat}
    {exchanges : List Exchange} {result : Except Error Device}
    (h : Attempts bus chosen patience exchanges result) : exchanges ≠ [] := by
  cases h with
  | stands h _ =>
    rintro rfl
    exact absurd h.opens_once nofun
  | again _ => exact List.cons_ne_nil _ _

/-- **Interrupted attempts before it make no difference to that.** -/
theorem Attempts.error_iff {bus : UInt8} {chosen : Option UInt16} {patience : Nat}
    {exchanges : List Exchange} {result : Except Error Device}
    (h : Attempts bus chosen patience exchanges result) (errno : Errno) :
    result = .error (.io errno.failure) ↔ lastErrno? exchanges = some errno := by
  induction h with
  | stands h _ => exact h.error_iff errno
  | again h ih =>
    rw [ih, lastErrno?, lastErrno?, List.getLast?_cons_of_ne_nil h.ne_nil]

/-! ## After the file -/

/-- What is asked once the file of a bus is open. -/
def configure (bus : UInt8) (file : Descriptor) : Conversation Device := do
  let mask ← control file .functions
  let capabilities : Capabilities := ⟨mask⟩
  if capabilities.tenBit then
    control file (.tenBit 0)
  return { bus, capabilities, file, slave := 0 }

theorem openBus_eq_bind (bus : UInt8) (patience : Nat) :
    openBus bus patience = openFile (path bus) patience >>= configure bus :=
  rfl

theorem run_configure (bus : UInt8) (file : Descriptor) :
    (configure bus file).run =
      .ask (.control file .functions) fun
        | .error errno => .done (.error (.io errno.failure))
        | .ok mask =>
          if mask &&& 0x2 ≠ 0 then
            .ask (.control file (.tenBit 0)) fun answer =>
              .done ((checked answer).map fun _ => ⟨bus, ⟨mask⟩, file, 0⟩)
          else .done (.ok ⟨bus, ⟨mask⟩, file, 0⟩) := by
  unfold configure
  rw [ExceptT.run_bind, run_control file .functions, Dialogue.ask_bind]
  refine congrArg (Dialogue.ask _) (funext fun answer => ?_)
  rcases answer with errno | mask
  · rfl
  have hshows : (Capabilities.mk mask).tenBit = true ↔ mask &&& 0x2 ≠ 0 := bne_iff_ne
  simp only [checked_ok, Dialogue.done_bind, hshows]
  split
  · rw [ExceptT.run_bind, run_control file (.tenBit 0), Dialogue.ask_bind]
    refine congrArg (Dialogue.ask _) (funext fun answer => ?_)
    rcases answer with errno | ⟨⟨⟩⟩ <;> rfl
  · rfl

/-! ## Every opening takes one of the courses -/

section

variable {kernel : Responder SystemCall SystemCall.Answer σ} {bus : UInt8}
  {chosen : Option UInt16} {before : List Exchange}

/-- After some exchanges, a dialogue brings an opening to its end. -/
def Opens (kernel : Responder SystemCall SystemCall.Answer σ) (bus : UInt8)
    (chosen : Option UInt16) (before : List Exchange)
    (dialogue : Dialogue SystemCall SystemCall.Answer (Except Error Device)) : Prop :=
  ∀ state, Opening bus chosen (before ++ (dialogue.run kernel state).exchanges)
    (dialogue.run kernel state).value

theorem opens_done {result : Except Error Device} (h : Opening bus chosen before result) :
    Opens kernel bus chosen before (.done result) := by
  intro state
  show Opening bus chosen (before ++ []) result
  rw [List.append_nil]
  exact h

theorem opens_ask {call : SystemCall}
    {next : call.Answer → Dialogue SystemCall SystemCall.Answer (Except Error Device)}
    (h : ∀ answer, Opens kernel bus chosen (before ++ [⟨call, answer⟩]) (next answer)) :
    Opens kernel bus chosen before (.ask call next) := by
  intro state
  have hrest := h (kernel call state).1 (kernel call state).2
  rw [List.append_assoc] at hrest
  rw [Dialogue.run_ask, Outcome.exchanges_after_answered]
  exact hrest

variable {next : Except Error Device →
  Dialogue SystemCall SystemCall.Answer (Except Error Device)}

/-- Once the file is open, the bus is told of 7-bit addresses if it needs to be, and what follows
starts from a device without a slave. -/
theorem opens_configure (herror : ∀ error, next (.error error) = .done (.error error))
    {file : Descriptor} (hnext : ∀ mask, Opens kernel bus chosen (prelude bus file mask)
      (next (.ok ⟨bus, ⟨mask⟩, file, 0⟩))) :
    Opens kernel bus chosen [⟨.openFile (path bus), .ok file⟩]
      ((configure bus file).run >>= next) := by
  rw [run_configure, Dialogue.ask_bind]
  refine opens_ask fun answer => ?_
  rcases answer with errno | mask
  · rw [Dialogue.done_bind, herror]
    exact opens_done (.noMask chosen file errno)
  have hprelude := hnext mask
  unfold prelude at hprelude
  by_cases hshows : mask &&& 0x2 ≠ 0
  · simp only [if_pos hshows, Dialogue.ask_bind] at hprelude ⊢
    refine opens_ask fun answer => ?_
    rcases answer with errno | ⟨⟨⟩⟩
    · rw [Dialogue.done_bind]
      exact herror _ ▸ opens_done (.noWidth chosen file mask hshows errno)
    · exact hprelude
  · simp only [if_neg hshows] at hprelude ⊢
    exact hprelude

/-- The attempts to open the file come first. -/
theorem attempts_openFile {next : Except Error Descriptor →
      Dialogue SystemCall SystemCall.Answer (Except Error Device)}
    (herror : ∀ error, next (.error error) = .done (.error error))
    (hnext : ∀ file, Opens kernel bus chosen [⟨.openFile (path bus), .ok file⟩]
      (next (.ok file))) (patience : Nat) (state : σ) :
    let outcome := ((openFile (path bus) patience).run >>= next).run kernel state
    Attempts bus chosen patience outcome.exchanges outcome.value := by
  have hopened (file : Descriptor) (patience : Nat) (state : σ) :
      Attempts bus chosen patience
        (⟨.openFile (path bus), .ok file⟩ :: ((next (.ok file)).run kernel state).exchanges)
        ((next (.ok file)).run kernel state).value := by
    refine .stands (hnext file state) fun _ heq => ?_
    cases heq
  have hrefused (errno : Errno) (patience : Nat) (h : patience ≠ 0 → errno ≠ .interrupted) :
      Attempts bus chosen patience [⟨.openFile (path bus), .error errno⟩]
        (.error (.io errno.failure)) := by
    refine .stands (.noFile chosen errno) fun hsome heq => h hsome ?_
    cases heq
    rfl
  induction patience generalizing state with
  | zero =>
    rw [run_openFile_zero, Dialogue.ask_bind, Dialogue.run_ask]
    generalize (kernel (.openFile (path bus)) state).2 = after
    rcases (kernel (.openFile (path bus)) state).1 with errno | file
    · rw [Dialogue.done_bind, checked_error, herror]
      exact hrefused errno 0 (absurd rfl)
    · exact hopened file 0 after
  | succ patience ih =>
    rw [run_openFile_succ, Dialogue.ask_bind, Dialogue.run_ask]
    generalize (kernel (.openFile (path bus)) state).2 = after
    rcases (kernel (.openFile (path bus)) state).1 with errno | file
    · by_cases hinterrupted : errno = .interrupted
      · simp only [hinterrupted, if_true]
        exact .again (ih after)
      · simp only [hinterrupted, if_false, Dialogue.done_bind, herror]
        exact hrefused errno (patience + 1) fun _ => hinterrupted
    · exact hopened file (patience + 1) after

/-- The file is opened, the bus is configured, and something follows. -/
theorem attempts_openBus_bind (herror : ∀ error, next (.error error) = .done (.error error))
    (hnext : ∀ file mask, Opens kernel bus chosen (prelude bus file mask)
      (next (.ok ⟨bus, ⟨mask⟩, file, 0⟩))) (patience : Nat) (state : σ) :
    let outcome := ((openBus bus patience).run >>= next).run kernel state
    Attempts bus chosen patience outcome.exchanges outcome.value := by
  rw [openBus_eq_bind, ExceptT.run_bind, Dialogue.bind_assoc]
  exact attempts_openFile herror (fun file => opens_configure herror (hnext file)) patience state

/-- **Opening a bus** takes its calls in order, and stops at the first that fails. -/
theorem attempts_openBus (kernel : Responder SystemCall SystemCall.Answer σ) (bus : UInt8)
    (patience : Nat) (state : σ) :
    let outcome := (openBus bus patience).run.run kernel state
    Attempts bus none patience outcome.exchanges outcome.value := by
  rw [← bind_pure (openBus bus patience).run]
  exact attempts_openBus_bind (fun _ => rfl) (fun file mask => opens_done (.bare file mask))
    patience state

/-- **Opening it for a slave** does so too, and chooses the slave at the end. -/
theorem attempts_openSlave (kernel : Responder SystemCall SystemCall.Answer σ) (bus : UInt8)
    (pins : Pins) (patience : Nat) (state : σ) :
    let outcome := (openSlave bus pins patience).run.run kernel state
    Attempts bus (some pins.slaveAddress) patience outcome.exchanges outcome.value := by
  have hassignable : assignable pins.slaveAddress = true := by
    have hrange := pins.slaveAddress_range
    exact assignable_iff.2 (by omega)
  rw [run_openSlave]
  refine attempts_openBus_bind ?_ (fun file mask => ?_) patience state
  · exact fun _ => rfl
  simp only [run_selectSlave, hassignable, if_true, Dialogue.ask_bind]
  refine opens_ask fun answer => ?_
  rcases answer with errno | ⟨⟨⟩⟩
  · exact opens_done (.noSlave file mask _ errno)
  · exact opens_done (.bound file mask _)

end

end WiperDriver.Linux.Device
