import WiperDriver.Bench.Connection
import WiperDriver.Bench.Fault
import WiperDriver.Bench.Session
import WiperDriver.Bench.Step
import WiperDriver.Bench.Transcript
import WiperDriver.Bench.World
import WiperDriver.Bus
import WiperDriver.Bus.Blocking
import WiperDriver.Bus.Lent
import WiperDriver.Bus.Shared
import WiperDriver.Bus.Transactional
import WiperDriver.Channel
import WiperDriver.Chip
import WiperDriver.Command
import WiperDriver.Dialogue.Adapt
import WiperDriver.Dialogue.Basic
import WiperDriver.Dialogue.Run
import WiperDriver.Direction
import WiperDriver.Error
import WiperDriver.Failure
import WiperDriver.Linux.Device
import WiperDriver.Linux.Device.Lemmas
import WiperDriver.Linux.Device.Operation
import WiperDriver.Linux.Errno
import WiperDriver.Linux.Error
import WiperDriver.Linux.SystemCall
import WiperDriver.Log
import WiperDriver.Mode
import WiperDriver.Model
import WiperDriver.Model.Admission
import WiperDriver.Proofs.Bench.Connections
import WiperDriver.Proofs.Bench.Counts
import WiperDriver.Proofs.Bench.Handles
import WiperDriver.Proofs.Bench.Holding
import WiperDriver.Proofs.Bench.Locks
import WiperDriver.Proofs.Bench.Log
import WiperDriver.Proofs.Bench.Patience
import WiperDriver.Proofs.Bench.Sessions
import WiperDriver.Proofs.Bench.Settings
import WiperDriver.Proofs.Bus.AllOrNothing
import WiperDriver.Proofs.Bus.Interfaces
import WiperDriver.Proofs.Chip.Commands
import WiperDriver.Proofs.Chip.Conversation
import WiperDriver.Proofs.Chip.Settings
import WiperDriver.Proofs.Chip.Stream
import WiperDriver.Proofs.Dialogue.Exchanges
import WiperDriver.Proofs.Dialogue.Relays
import WiperDriver.Proofs.Linux.Errnos
import WiperDriver.Proofs.Linux.Opening
import WiperDriver.Proofs.Linux.Slave
import WiperDriver.Proofs.Linux.Transfers
import WiperDriver.Proofs.Log.Traffic
import WiperDriver.Proofs.Registers.Bank
import WiperDriver.Proofs.Registers.Orders
import WiperDriver.Proofs.Registers.Prompt
import WiperDriver.Proofs.Registers.Traces
import WiperDriver.Proofs.Terminals
import WiperDriver.Proofs.Text.Numerals
import WiperDriver.Proofs.Wiper.Arguments
import WiperDriver.Proofs.Wiper.Composition
import WiperDriver.Proofs.Wiper.Conversation
import WiperDriver.Proofs.Wiper.Dial
import WiperDriver.Proofs.Wiper.Drift
import WiperDriver.Proofs.Wiper.Effects
import WiperDriver.Proofs.Wiper.Faults
import WiperDriver.Proofs.Wiper.FirstFailure
import WiperDriver.Proofs.Wiper.Fleet
import WiperDriver.Proofs.Wiper.Independence
import WiperDriver.Proofs.Wiper.Orders
import WiperDriver.Proofs.Wiper.Refusals
import WiperDriver.Proofs.Wiper.Reports
import WiperDriver.Proofs.Wiper.Restraint
import WiperDriver.Proofs.Wiper.Safety
import WiperDriver.Proofs.Wiper.Strategy
import WiperDriver.Proofs.Wiper.Task
import WiperDriver.Proofs.Wiper.Tracking
import WiperDriver.Registers
import WiperDriver.Registers.Lemmas
import WiperDriver.Registers.Operation
import WiperDriver.SlaveAddress
import WiperDriver.Status
import WiperDriver.Terminals
import WiperDriver.Text.Radix
import WiperDriver.Wiper
import WiperDriver.Wiper.Lemmas
import WiperDriver.Wiper.Operation
