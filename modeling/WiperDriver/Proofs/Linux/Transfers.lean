import WiperDriver.Proofs.Bench.Connections
import WiperDriver.Proofs.Bench.Handles
import WiperDriver.Proofs.Dialogue.Relays
import WiperDriver.Proofs.Linux.Slave

/-!
# Transfers over a device file

What the driver asks of a device file comes down to two system calls: a write for sending, a
combined transfer for receiving. `Receives` and `Sends` say of these, for buffers of any length and
whatever the kernel answers, when they are made, what they carry, and what the caller is told; in
particular no length is cut to fit a 16-bit field, and no write that was taken in part passes for a
whole one.

A system call has failed if it gave an error number or took a write only in part (`failure?`). Every
failure makes its way up to the caller of a job, who finds the wipers as they were.
`Serves.of_failed` is this for one transaction, and `fails_through` for a job, by way of `Relayed`
and the rule that a job stops at its first failed transaction.
-/

namespace WiperDriver.Linux.Device

open Bench (Handles Job)

variable {σ : Type}

/-! ## Receiving -/

/-- The function mask of the bus driver has the bit of combined transfers, the lowest one. -/
def Combines (device : Device) : Prop :=
  device.capabilities.mask.toNat % 2 = 1

theorem combined_iff {device : Device} :
    device.capabilities.combined = true ↔ Combines device := by
  have hmask : (device.capabilities.mask &&& 0x1).toNat = device.capabilities.mask.toNat % 2 := by
    rw [UInt64.toNat_and]
    exact Nat.and_one_is_mod _
  have hzero : device.capabilities.mask &&& 0x1 = 0 ↔ device.capabilities.mask.toNat % 2 = 0 := by
    rw [← hmask, ← UInt64.toNat_inj]
    rfl
  rw [Capabilities.combined, bne_iff_ne, Ne, hzero, Combines]
  omega

/-- What the answer to a combined transfer comes to: for a caller of the device, and for the driver
above it. -/
inductive Received (length : Nat) :
    Except Errno (List UInt8) → Except Error Bus.Reading → Except Failure Bus.Reading → Prop
  /-- The whole buffer has been filled. -/
  | filled (data : List UInt8) :
    Received length (.ok data) (.ok ⟨length, data⟩) (.ok ⟨length, data⟩)
  | failed (errno : Errno) :
    Received length (.error errno) (.error (.io errno.failure)) (.error errno.failure)

/-- How a device sends bytes and receives others: what comes of it for a caller of the device, and
what for the driver above it. -/
structure Receives (device : Device) (bytes : List UInt8) (length : Nat)
    (outcome : Outcome SystemCall SystemCall.Answer σ (Except Error Bus.Reading × Device))
    (driven : Outcome SystemCall SystemCall.Answer σ (Except Failure Bus.Reading)) : Prop where
  /-- There is a system call exactly if there are combined transfers and both lengths fit one. -/
  sent_iff : outcome.calls ≠ [] ↔ Combines device ∧ bytes.length ≤ 65535 ∧ length ≤ 65535
  /-- It is one transfer of two messages with the chosen slave, whose 16-bit lengths are those of
  the two buffers. -/
  sent : Combines device ∧ bytes.length ≤ 65535 ∧ length ≤ 65535 →
    ∃ (count size : UInt16) (answer : Except Errno (List UInt8)),
      count.toNat = bytes.length ∧ size.toNat = length ∧
      outcome.exchanges = [⟨.control device.file (.transfer
        [.outgoing device.slave count bytes, .incoming device.slave size]), answer⟩] ∧
      Received length answer outcome.value.1 driven.value
  /-- Without combined transfers the lengths make no difference. -/
  unsupported : ¬ Combines device → outcome.value.1 = .error .featureNotSupported ∧
    driven.value = .error ⟨.unsupported, "I2C feature not supported"⟩
  tooLong : Combines device → ¬ (bytes.length ≤ 65535 ∧ length ≤ 65535) →
    outcome.value.1 = .error (.io ⟨.invalidInput, "buffer exceeds maximum transfer length"⟩) ∧
      driven.value = .error ⟨.invalidInput, "buffer exceeds maximum transfer length"⟩
  device_eq : outcome.value.2 = device
  /-- The driver makes the same system calls as any other caller. -/
  exchanges_eq : driven.exchanges = outcome.exchanges

/-- The driver is told what the caller of the device would be, as a failure of the bus. -/
theorem run_adapter_writeRead (device : Device) (bytes : List UInt8) (length : Nat)
    (kernel : Responder SystemCall SystemCall.Answer σ) (state : σ) :
    let outcome := ((writeRead bytes length).run.run device).run kernel state
    (device.adapter (.writeRead bytes length)).run kernel state =
      { outcome with value := outcome.value.1.mapError Error.failure } := by
  rw [adapter_writeRead]
  exact Dialogue.run_map _ _ _ _

section
variable {device : Device} {bytes : List UInt8} {length : Nat}

/-- What becomes of a receiving transaction on a device. -/
abbrev Drives (kernel : Responder SystemCall SystemCall.Answer σ) (device : Device)
    (bytes : List UInt8) (length : Nat) (state : σ) : Prop :=
  Receives device bytes length (((writeRead bytes length).run.run device).run kernel state)
    ((device.adapter (.writeRead bytes length)).run kernel state)

theorem drives_of_not_combines (h : ¬ Combines device)
    (kernel : Responder SystemCall SystemCall.Answer σ) (state : σ) :
    Drives kernel device bytes length state := by
  have hnot : ¬ device.capabilities.combined = true := mt combined_iff.1 h
  rw [Drives, run_adapter_writeRead, run_writeRead, if_neg hnot]
  refine ⟨?_, ?_, fun _ => ⟨rfl, rfl⟩, ?_, rfl, rfl⟩
  · exact iff_of_false (fun hsome => hsome rfl) fun hall => h hall.1
  · intro hall
    exact absurd hall.1 h
  · intro hcombines
    exact absurd hcombines h

theorem drives_of_long (hcombines : Combines device)
    (h : ¬ (bytes.length ≤ maxLength ∧ length ≤ maxLength))
    (kernel : Responder SystemCall SystemCall.Answer σ) (state : σ) :
    Drives kernel device bytes length state := by
  rw [Drives, run_adapter_writeRead, run_writeRead, if_pos (combined_iff.2 hcombines), if_neg h]
  refine ⟨?_, ?_, ?_, fun _ _ => ⟨rfl, rfl⟩, rfl, rfl⟩
  · exact iff_of_false (fun hsome => hsome rfl) fun hall => h hall.2
  · intro hall
    exact absurd hall.2 h
  · intro hnot
    exact absurd hcombines hnot

theorem drives_of_fits (hcombines : Combines device)
    (h : bytes.length ≤ maxLength ∧ length ≤ maxLength)
    (kernel : Responder SystemCall SystemCall.Answer σ) (state : σ) :
    Drives kernel device bytes length state := by
  have hcount := Bench.toNat_ofNat_length h.1
  have hsize := Bench.toNat_ofNat_length h.2
  rw [Drives, run_adapter_writeRead, run_writeRead, if_pos (combined_iff.2 hcombines), if_pos h,
    Dialogue.run_ask]
  generalize kernel _ state = answered
  obtain ⟨answer, after⟩ := answered
  refine ⟨?_, fun _ => ⟨_, _, answer, hcount, hsize, rfl, ?_⟩, ?_, ?_, rfl, rfl⟩
  · exact iff_of_true (List.cons_ne_nil _ _) ⟨hcombines, h⟩
  · cases answer with
    | ok data => exact .filled data
    | error errno => exact .failed errno
  · intro hnot
    exact absurd hcombines hnot
  · intro _ hlong
    exact absurd h hlong

end

/-- **Receiving is one transfer or none.** -/
theorem receives_writeRead (device : Device) (bytes : List UInt8) (length : Nat)
    (kernel : Responder SystemCall SystemCall.Answer σ) (state : σ) :
    Receives device bytes length (((writeRead bytes length).run.run device).run kernel state)
      ((device.adapter (.writeRead bytes length)).run kernel state) := by
  by_cases hcombines : Combines device
  · by_cases hlengths : bytes.length ≤ maxLength ∧ length ≤ maxLength
    · exact drives_of_fits hcombines hlengths kernel state
    · exact drives_of_long hcombines hlengths kernel state
  · exact drives_of_not_combines hcombines kernel state

/-! ## Sending -/

/-- What the answer to a write comes to for the driver above the device. -/
inductive Sent (bytes : List UInt8) : Except Errno Nat → Except Failure Unit → Prop
  | whole : Sent bytes (.ok bytes.length) (.ok ())
  /-- Another count than there are bytes is a failure that names both. -/
  | part (taken : Nat) (h : taken ≠ bytes.length) : Sent bytes (.ok taken)
    (.error ⟨.writeZero,
      "wrote " ++ toString taken ++ " of " ++ toString bytes.length ++ " bytes"⟩)
  | failed (errno : Errno) : Sent bytes (.error errno) (.error errno.failure)

/-- How a device sends bytes for the driver above it: by one write of all of them, which succeeds
exactly if all of them are taken. -/
def Sends (device : Device) (bytes : List UInt8)
    (outcome : Outcome SystemCall SystemCall.Answer σ (Except Failure Unit)) : Prop :=
  ∃ answer : Except Errno Nat, outcome.exchanges = [⟨.write device.file bytes, answer⟩] ∧
    Sent bytes answer outcome.value ∧ (outcome.value = .ok () ↔ answer = .ok bytes.length)

/-- A write succeeds if it has been taken whole, and in no other case. -/
theorem Sent.ok_iff {bytes : List UInt8} {answer : Except Errno Nat} {told : Except Failure Unit}
    (h : Sent bytes answer told) : told = .ok () ↔ answer = .ok bytes.length := by
  cases h with
  | whole => simp
  | part taken hne => simp [hne]
  | failed errno => simp

/-- **Sending is one write.** -/
theorem sends_write (device : Device) (bytes : List UInt8)
    (kernel : Responder SystemCall SystemCall.Answer σ) (state : σ) :
    Sends device bytes ((device.adapter (.write bytes)).run kernel state) := by
  rw [adapter_write, Dialogue.run_ask]
  generalize kernel _ state = answered
  obtain ⟨answer, after⟩ := answered
  have hsends {told : Except Failure Unit} (h : Sent bytes answer told) :
      Sends device bytes (⟨told, after, [.answered (.write device.file bytes) answer]⟩ :
        Outcome SystemCall SystemCall.Answer σ _) := ⟨answer, rfl, h, h.ok_iff⟩
  rcases answer with errno | taken
  · exact hsends (.failed errno)
  by_cases hwhole : taken = bytes.length
  · subst hwhole
    simp only [if_true]
    exact hsends .whole
  · simp only [if_neg hwhole]
    exact hsends (.part taken hwhole)

/-! ## Failed system calls -/

/-- What a failed system call of a transfer is to the driver, if it has failed. -/
def failure? : (call : SystemCall) → call.Answer → Option Failure
  | .write _ bytes, .ok taken =>
    if taken = bytes.length then none else some (shortWrite taken bytes.length)
  | call, answer => (errno? call answer).map Errno.failure

theorem failure?_of_errno {call : SystemCall} {answer : call.Answer} {errno : Errno}
    (h : errno? call answer = some errno) : failure? call answer = some errno.failure := by
  cases call <;> rcases answer with found | value <;> cases h <;> rfl

/-- By which system calls a device carries out what the driver asks, and with which answer. -/
inductive Serves (device : Device) : (call : Bus.Call) → Bus.Answer call → List Exchange → Prop
  | write {bytes : List UInt8} {answer : Except Errno Nat} {told : Except Failure Unit}
    (h : Sent bytes answer told) :
    Serves device (.write bytes) told [⟨.write device.file bytes, answer⟩]
  | writeRead (bytes : List UInt8) {length : Nat} (messages : List Message)
    {answer : Except Errno (List UInt8)} {result : Except Error Bus.Reading}
    {told : Except Failure Bus.Reading} (h : Received length answer result told) :
    Serves device (.writeRead bytes length) told
      [⟨.control device.file (.transfer messages), answer⟩]
  | refused (bytes : List UInt8) (length : Nat) (failure : Failure) :
    Serves device (.writeRead bytes length) (.error failure) []

theorem serves_adapter (device : Device) (kernel : Responder SystemCall SystemCall.Answer σ)
    (call : Bus.Call) (state : σ) :
    Serves device call ((device.adapter call).run kernel state).value
      ((device.adapter call).run kernel state).exchanges := by
  cases call with
  | write bytes =>
    obtain ⟨answer, hexchanges, hsent, -⟩ := sends_write device bytes kernel state
    rw [hexchanges]
    exact .write hsent
  | writeRead bytes length =>
    have hreceives := receives_writeRead device bytes length kernel state
    generalize ((writeRead bytes length).run.run device).run kernel state = outcome at hreceives
    rw [hreceives.exchanges_eq]
    by_cases hfits : Combines device ∧ bytes.length ≤ 65535 ∧ length ≤ 65535
    · obtain ⟨count, size, answer, -, -, hsent, htold⟩ := hreceives.sent hfits
      rw [hsent]
      exact .writeRead bytes _ htold
    · have hnone : outcome.calls = [] := not_not.1 (mt hreceives.sent_iff.1 hfits)
      rw [Outcome.calls_eq, List.map_eq_nil_iff] at hnone
      rw [hnone]
      by_cases hcombines : Combines device
      · obtain ⟨-, htold⟩ := hreceives.tooLong hcombines fun hlengths => hfits ⟨hcombines, hlengths⟩
        exact htold ▸ .refused bytes length _
      · obtain ⟨-, htold⟩ := hreceives.unsupported hcombines
        exact htold ▸ .refused bytes length _

/-- **A failed system call is the last of its transaction**, which fails as it did. -/
theorem Serves.of_failed {device : Device} {call : Bus.Call} {answer : Bus.Answer call}
    {first last : List Exchange} {exchange : Exchange} {failure : Failure}
    (h : Serves device call answer (first ++ exchange :: last))
    (hfailed : failure? exchange.1 exchange.2 = some failure) :
    last = [] ∧ Bus.failure? call answer = some (.io failure) := by
  generalize hpart : first ++ exchange :: last = part at h
  cases h with
  | write hsent =>
    obtain ⟨rfl, hsingle⟩ | ⟨-, hnil⟩ := List.append_eq_singleton_iff.1 hpart
    · cases hsingle
      refine ⟨rfl, ?_⟩
      cases hsent with
      | whole => simp [failure?] at hfailed
      | part taken hne =>
        simp only [failure?, if_neg hne] at hfailed
        cases hfailed
        rfl
      | failed errno =>
        cases hfailed
        rfl
    · cases hnil
  | writeRead bytes messages hreceived =>
    obtain ⟨rfl, hsingle⟩ | ⟨-, hnil⟩ := List.append_eq_singleton_iff.1 hpart
    · cases hsingle
      refine ⟨rfl, ?_⟩
      cases hreceived with
      | filled data => cases hfailed
      | failed errno =>
        cases hfailed
        rfl
    · cases hnil
  | refused => exact absurd hpart (List.append_ne_nil_of_right_ne_nil _ (List.cons_ne_nil _ _))

/-- **Every failed system call reaches the caller.** It is the last system call of its job, the job
is refused with the failure, and the wipers under control are as they were. -/
theorem fails_through (device : Device) (kernel : Responder SystemCall SystemCall.Answer σ)
    (job : Job) (handles : Handles) (state : σ) {before after : List Exchange}
    {exchange : Exchange} {failure : Failure} :
    let outcome := ((job.run handles).adapt device.adapter).run kernel state
    outcome.exchanges = before ++ exchange :: after →
      failure? exchange.1 exchange.2 = some failure →
        after = [] ∧ outcome.value = (.refused (.io failure), handles) := by
  intro outcome hexchanges hfailed
  have hrelayed := Dialogue.relayed_adapt (serves_adapter device kernel) (job.run handles) state
  obtain ⟨front, call, answer, back, first, last, rest, habove, hserves, rfl, hrest⟩ :=
    hrelayed.split hexchanges
  obtain ⟨rfl, hanswer⟩ := hserves.of_failed hfailed
  obtain ⟨rfl, hvalue⟩ := Bus.eq_raise_of_failed (job.prompt_run handles) habove hanswer
  cases hrest
  exact ⟨rfl, (Dialogue.run_adapt device.adapter kernel _ state).1.trans hvalue⟩

/-! ## Callers of the device -/

/-- A conversation about a handle ends with the error number of a system call, if one gave any, and
leaves the handle as it was. -/
def Raises {α : Type} (device : Device)
    (dialogue : Dialogue SystemCall SystemCall.Answer (Except Error α × Device)) : Prop :=
  ∀ {σ : Type} (kernel : Responder SystemCall SystemCall.Answer σ) (state : σ) (exchange : Exchange)
    (errno : Errno), exchange ∈ (dialogue.run kernel state).exchanges →
      errno? exchange.1 exchange.2 = some errno →
        (dialogue.run kernel state).value = (.error (.io errno.failure), device)

section
variable {α : Type} {device : Device}

theorem raises_done (value : Except Error α × Device) : Raises device (.done value) := by
  intro σ kernel state exchange errno hmem
  cases hmem

theorem raises_ask {call : SystemCall}
    {next : call.Answer → Dialogue SystemCall SystemCall.Answer (Except Error α × Device)}
    (hnext : ∀ answer, ∃ value, next answer = .done value ∧
      ∀ errno, errno? call answer = some errno → value = (.error (.io errno.failure), device)) :
    Raises device (.ask call next) := by
  intro σ kernel state exchange errno hmem herrno
  obtain ⟨value, hdone, hvalue⟩ := hnext (kernel call state).1
  rw [Dialogue.run_ask, hdone] at hmem ⊢
  obtain rfl := List.mem_singleton.1 hmem
  exact hvalue errno herrno

/-- **Every operation on a handle raises what the kernel gives.** -/
theorem raises_perform (operation : Operation) (device : Device) :
    Raises device (operation.perform.run.run device) := by
  cases operation with
  | selectSlave address =>
    rw [run_perform_selectSlave]
    split
    · refine raises_ask fun answer => ?_
      rcases answer with errno | ⟨⟨⟩⟩
      · refine ⟨_, rfl, ?_⟩
        rintro _ ⟨⟩
        rfl
      · exact ⟨_, rfl, nofun⟩
    · exact raises_done _
  | setTimeout milliseconds =>
    rw [run_perform_setTimeout]
    refine raises_ask fun answer => ⟨_, rfl, ?_⟩
    rcases answer with errno | ⟨⟨⟩⟩ <;> rintro _ ⟨⟩
    rfl
  | write bytes =>
    rw [run_perform_write]
    refine raises_ask fun answer => ⟨_, rfl, ?_⟩
    rcases answer with errno | taken <;> rintro _ ⟨⟩
    rfl
  | writeRead bytes length =>
    by_cases htransfer : Transferable device bytes length
    · rw [run_perform_writeRead htransfer]
      refine raises_ask fun answer => ⟨_, rfl, ?_⟩
      rcases answer with errno | data <;> rintro _ ⟨⟩
      rfl
    · obtain ⟨error, hdone⟩ := run_perform_writeRead_of_not htransfer
      rw [hdone]
      exact raises_done _

end

/-! ## The result -/

/-- How failed system calls come up to the caller of a job: each of them is the last, the job is
refused with it, and the wipers under control are as they were. -/
structure Passes (handles : Handles)
    (outcome : Outcome SystemCall SystemCall.Answer σ (Bench.Answer × Handles)) : Prop where
  /-- A system call gave an error number. -/
  errno : ∀ before after call answer errno, outcome.exchanges = before ++ ⟨call, answer⟩ :: after →
    errno? call answer = some errno →
      after = [] ∧ outcome.value = (.refused (.io errno.failure), handles)
  /-- A write was taken in part, or more was taken than there was. -/
  short : ∀ before after file bytes taken,
    outcome.exchanges = before ++ ⟨.write file bytes, .ok taken⟩ :: after → taken ≠ bytes.length →
      after = [] ∧ outcome.value = (.refused (.io ⟨.writeZero,
        "wrote " ++ toString taken ++ " of " ++ toString bytes.length ++ " bytes"⟩), handles)

/-- **No transfer is cut short, and no failure is lost.** Of any device and any kernel:

* receiving is one combined transfer, whose 16-bit lengths are those of the buffers, if the bus
  driver has such transfers and both lengths are below 65536; if not, it is refused without a system
  call, for want of such transfers first of all (`Receives`);
* sending is one write, which succeeds exactly if the kernel has taken as many bytes as there are
  (`Sends`);
* an error number comes up to the caller of the device (`Raises`);
* through the device it comes up to the caller of every job, on registers or wipers, and so does a
  write that was not taken as a whole (`Passes`);
* the failure that comes up names the error number, and no other (`Errno.NamedBy`). -/
theorem transfers_whole (device : Device) (kernel : Responder SystemCall SystemCall.Answer σ) :
    (∀ bytes length state,
      Receives device bytes length (((writeRead bytes length).run.run device).run kernel state)
        ((device.adapter (.writeRead bytes length)).run kernel state)) ∧
    (∀ bytes state, Sends device bytes ((device.adapter (.write bytes)).run kernel state)) ∧
    (∀ operation : Operation, Raises device (operation.perform.run.run device)) ∧
    (∀ (job : Job) (handles : Handles) (state : σ),
      Passes handles (((job.run handles).adapt device.adapter).run kernel state)) ∧
    ∀ errno other : Errno, Errno.NamedBy errno.failure other ↔ other = errno := by
  refine ⟨fun bytes length => receives_writeRead device bytes length kernel,
    fun bytes => sends_write device bytes kernel, fun operation => raises_perform operation device,
    fun job handles state => ⟨?_, ?_⟩, fun errno other => Errno.namedBy_failure_iff⟩
  · intro before after call answer errno hexchanges herrno
    exact fails_through device kernel job handles state hexchanges (failure?_of_errno herrno)
  · intro before after file bytes taken hexchanges hne
    exact fails_through device kernel job handles state hexchanges (if_neg hne)

/-- A buffer of one byte too many is not sent at all; a kernel that takes one of the two bytes of a
register write makes the job fail with both numbers; and one that gives error number 110 for a
combined transfer makes the job fail with that number. -/
theorem transfers_whole_or_not :
    let kernel : Responder SystemCall SystemCall.Answer Unit := fun call _ => (match call with
      | .openFile _ => .error .noEntry
      | .control _ _ => .error .timedOut
      | .write _ _ => .ok 1, ())
    let device : Device := ⟨1, ⟨0x1⟩, ⟨3⟩, 0x28⟩
    let long := ((writeRead (List.replicate 65536 0) 2).run.run device).run kernel ()
    let cut := (((Job.registers (.write 0 5)).run Handles.none).adapt device.adapter).run kernel ()
    let late := (((Job.registers (.read 0)).run Handles.none).adapt device.adapter).run kernel ()
    long.calls = [] ∧ cut.exchanges = [⟨.write ⟨3⟩ [0x00, 0x05], .ok 1⟩] ∧
      cut.value = (.refused (.io ⟨.writeZero, "wrote 1 of 2 bytes"⟩), Handles.none) ∧
      late.value =
        (.refused (.io ⟨.timedOut, "Connection timed out (os error 110)"⟩), Handles.none) := by
  intro kernel device long cut late
  obtain ⟨hreceives, -, -, hjobs, -⟩ := transfers_whole device kernel
  have hcut : cut.exchanges = [] ++ [⟨.write ⟨3⟩ [0x00, 0x05], .ok 1⟩] := rfl
  obtain ⟨-, hshort⟩ :=
    (hjobs (.registers (.write 0 5)) Handles.none ()).short [] [] ⟨3⟩ [0x00, 0x05] 1 hcut
      (by decide)
  have hlate : late.exchanges = [] ++ [⟨.control ⟨3⟩ (.transfer
      [.outgoing 0x28 1 [0x0C], .incoming 0x28 2]), .error .timedOut⟩] := by
    with_unfolding_all rfl
  obtain ⟨-, hfailed⟩ :=
    (hjobs (.registers (.read 0)) Handles.none ()).errno [] [] _ _ .timedOut hlate rfl
  refine ⟨?_, hcut, hshort, hfailed⟩
  refine not_not.1 (mt (hreceives (List.replicate 65536 0) 2 ()).sent_iff.1 ?_)
  rw [List.length_replicate]
  omega

end WiperDriver.Linux.Device
