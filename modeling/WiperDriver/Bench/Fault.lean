import WiperDriver.Bus.Transactional
import WiperDriver.Linux.Errno

/-!
# Faults

A fault makes every transaction in a window of the bench's count fail. Each kind of bus words the
same fault in its own way, so a fault carries the failure, the error and the error number that the
different buses report.
-/

namespace WiperDriver.Bench

/-- A window of failing transactions. -/
structure Fault where
  /-- The number of the first transaction that fails. -/
  first : Nat
  /-- How many fail; without a number, all from then on. -/
  count : Option Nat
  /-- What a bus without an interface of its own reports. -/
  failure : Failure
  /-- What a bus that takes whole transactions reports. -/
  kind : Bus.Transactional.ErrorKind
  /-- What a system call reports. -/
  errno : Linux.Errno
  /-- A byte count to report instead of failing, where the bus can cut a transaction short. -/
  short : Option UInt8
  deriving DecidableEq, Repr

namespace Fault

/-- Whether a transaction falls into the window. -/
def covers (fault : Fault) (number : Nat) : Bool :=
  fault.first ≤ number && fault.count.all (number < fault.first + ·)

/-- From this transaction on the fault falls on every one or on none. -/
def settled (fault : Fault) : Nat :=
  fault.first + fault.count.getD 0

/-- Beyond its window a fault falls on nothing, and without an end the window has no beyond. -/
theorem covers_of_settled {fault : Fault} {number : Nat} (h : fault.settled ≤ number) :
    fault.covers number = fault.count.isNone := by
  unfold settled at h
  cases count : fault.count with
  | none =>
    have first : fault.first ≤ number := by simpa [count] using h
    simp [covers, count, first]
  | some length =>
    have past : fault.first + length ≤ number := by simpa [count] using h
    simp [covers, count, Nat.not_lt.2 past]

/-- The same fault with its window counted from a transaction onwards. -/
def shift (fault : Fault) (number : Nat) : Fault :=
  { fault with first := number + fault.first }

/-- What a bus that takes whole transactions reports. -/
def busError (fault : Fault) : Bus.Transactional.BusError where
  kind := fault.kind
  description := fault.kind.name

end Fault

end WiperDriver.Bench
