import WiperDriver.Bench.World
import WiperDriver.Linux.Device.Lemmas
import WiperDriver.Proofs.Linux.Opening

/-!
# Enough patience

Where a signal interrupts the opening of a device file, the next attempt is made at once, without an
end. A model of it that ends has to be told how many attempts there are. On the bench,
`World.unsettled` is always enough: once the faults have settled, an attempt that is interrupted is
interrupted for ever, and with more patience a bus opens in no other way
(`openBus_of_unsettled_le`, `openSlave_of_unsettled_le`).
-/

namespace WiperDriver.Bench.World

open Linux (Errno SystemCall)
open Linux.Device (checked openBus openBus_eq_bind openFile openSlave run_openFile_succ
  run_openFile_zero run_openSlave)

variable {α : Type} {world after : World} {file : String}

/-! ## One attempt -/

/-- A fault falls on an attempt to open a file, which leaves nothing behind but its line. -/
theorem respondKernel_openFile_of_fault {fault : Fault}
    (h : world.faults.find? (·.covers world.transcript.size) = some fault) (file : String) :
    ∃ line, respondKernel (.openFile file) world =
      (.error fault.errno, { world with transcript := world.transcript.push line }) := by
  refine ⟨Transcript.faulty (Transcript.openFile file), ?_⟩
  rw [respondKernel, attempt, h]
  rfl

/-- An attempt is interrupted only by a fault. -/
theorem fault_of_interrupted (h : (respondKernel (.openFile file) world).1 = .error .interrupted) :
    ∃ fault, world.faults.find? (·.covers world.transcript.size) = some fault ∧
      fault.errno = .interrupted := by
  cases hfault : world.faults.find? (·.covers world.transcript.size) with
  | some fault =>
    obtain ⟨line, hline⟩ := respondKernel_openFile_of_fault hfault file
    rw [hline] at h
    exact ⟨fault, rfl, Except.error.inj h⟩
  | none =>
    rw [respondKernel, attempt, hfault] at h
    simp only at h
    split at h <;> cases h

/-- An attempt that is interrupted leaves the faults as they are, and one transaction less until
they have settled. -/
theorem unsettled_of_interrupted
    (h : (respondKernel (.openFile file) world).1 = .error .interrupted) :
    (respondKernel (.openFile file) world).2.faults = world.faults ∧
      (respondKernel (.openFile file) world).2.transcript.size = world.transcript.size + 1 ∧
      (respondKernel (.openFile file) world).2.unsettled = world.unsettled - 1 := by
  obtain ⟨fault, hfault, -⟩ := fault_of_interrupted h
  obtain ⟨line, hline⟩ := respondKernel_openFile_of_fault hfault file
  rw [hline]
  refine ⟨rfl, Array.size_push line, ?_⟩
  show _ - (world.transcript.push line).size = _ - world.transcript.size - 1
  rw [Array.size_push, Nat.sub_sub]

/-- **Once the faults have settled, an interruption is followed by another one.** -/
theorem interrupted_again (hsettled : world.unsettled = 0)
    (h : (respondKernel (.openFile file) world).1 = .error .interrupted) :
    (respondKernel (.openFile file) (respondKernel (.openFile file) world).2).1 =
      .error .interrupted := by
  obtain ⟨fault, hfault, herrno⟩ := fault_of_interrupted h
  obtain ⟨hfaults, hsize, -⟩ := unsettled_of_interrupted h
  have hlast : world.faults.find? (·.count.isNone) = some fault := by
    rw [← hfault]
    exact (world.find?_covers_of_unsettled (by omega)).symm
  have hagain : world.faults.find? (·.covers (world.transcript.size + 1)) = some fault :=
    (world.find?_covers_of_unsettled (by omega)).trans hlast
  generalize (respondKernel (.openFile file) world).2 = after at hfaults hsize ⊢
  rw [← hfaults, ← hsize] at hagain
  obtain ⟨line, hline⟩ := respondKernel_openFile_of_fault hagain file
  rw [hline, herrno]

/-! ## All attempts -/

variable {next : Except Linux.Error Linux.Descriptor →
  Dialogue SystemCall SystemCall.Answer (Except Linux.Error α)}

/-- What comes of opening a file and going on from there, with some patience for interruptions. -/
def opened (next : Except Linux.Error Linux.Descriptor →
    Dialogue SystemCall SystemCall.Answer (Except Linux.Error α)) (file : String)
    (patience : Nat) (world : World) : Except Linux.Error α :=
  (((openFile file patience).run >>= next).run respondKernel world).value

/-- An answer that stands is gone on with, whatever patience there is. -/
theorem opened_of_stands (h : (respondKernel (.openFile file) world).1 ≠ .error .interrupted)
    (patience : Nat) :
    opened next file patience world =
      ((next (checked (respondKernel (.openFile file) world).1)).run respondKernel
        (respondKernel (.openFile file) world).2).value := by
  unfold opened
  cases patience with
  | zero =>
    rw [run_openFile_zero]
    rfl
  | succ patience =>
    rw [run_openFile_succ, Dialogue.ask_bind, Dialogue.run_ask]
    generalize respondKernel (.openFile file) world = answered at h ⊢
    obtain ⟨errno | found, after⟩ := answered
    · have hne : errno ≠ .interrupted := fun heq => h (congrArg Except.error heq)
      simp only [if_neg hne]
      rfl
    · rfl

/-- An attempt that is interrupted is the last if there is no patience left. -/
theorem opened_zero_of_interrupted (herror : ∀ error, next (.error error) = .done (.error error))
    (h : (respondKernel (.openFile file) world).1 = .error .interrupted) :
    opened next file 0 world = .error (.io Errno.interrupted.failure) := by
  unfold opened
  rw [run_openFile_zero, Dialogue.ask_bind, Dialogue.run_ask, h, Dialogue.done_bind, checked,
    Except.mapError, herror]
  rfl

/-- Otherwise the next one is made. -/
theorem opened_succ_of_interrupted
    (h : (respondKernel (.openFile file) world).1 = .error .interrupted) (patience : Nat) :
    opened next file (patience + 1) world =
      opened next file patience (respondKernel (.openFile file) world).2 := by
  unfold opened
  rw [run_openFile_succ, Dialogue.ask_bind, Dialogue.run_ask, h]
  simp only [if_true]
  rfl

/-- **More patience than it takes the faults to settle is in vain.** -/
theorem opened_of_unsettled_le (herror : ∀ error, next (.error error) = .done (.error error))
    {patience : Nat} (h : world.unsettled ≤ patience) :
    opened next file patience world = opened next file world.unsettled world := by
  induction patience generalizing world with
  | zero => rw [Nat.le_zero.1 h]
  | succ patience ih =>
    by_cases hanswer : (respondKernel (.openFile file) world).1 = .error .interrupted
    · obtain ⟨-, -, hless⟩ := unsettled_of_interrupted hanswer
      rw [opened_succ_of_interrupted hanswer, ih (by omega), hless]
      cases hunsettled : world.unsettled with
      | zero =>
        rw [opened_zero_of_interrupted herror hanswer]
        exact opened_zero_of_interrupted herror (interrupted_again hunsettled hanswer)
      | succ rest => rw [opened_succ_of_interrupted hanswer, Nat.add_sub_cancel]
    · rw [opened_of_stands hanswer, opened_of_stands hanswer]

/-! ## The bench -/

/-- **More patience changes nothing about how a bus opens on the bench.** -/
theorem openBus_of_unsettled_le (bus : UInt8) {patience : Nat} (h : world.unsettled ≤ patience) :
    ((openBus bus patience).run.run respondKernel world).value =
      ((openBus bus world.unsettled).run.run respondKernel world).value := by
  rw [openBus_eq_bind, openBus_eq_bind, ExceptT.run_bind, ExceptT.run_bind]
  refine opened_of_unsettled_le ?_ h
  exact fun _ => rfl

/-- Nor about how it opens for a slave. -/
theorem openSlave_of_unsettled_le (bus : UInt8) (pins : Pins) {patience : Nat}
    (h : world.unsettled ≤ patience) :
    ((openSlave bus pins patience).run.run respondKernel world).value =
      ((openSlave bus pins world.unsettled).run.run respondKernel world).value := by
  rw [run_openSlave, run_openSlave, openBus_eq_bind, openBus_eq_bind, ExceptT.run_bind,
    ExceptT.run_bind, Dialogue.bind_assoc, Dialogue.bind_assoc]
  refine opened_of_unsettled_le ?_ h
  exact fun _ => rfl

end WiperDriver.Bench.World
