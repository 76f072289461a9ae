/-!
# Failed bus transactions

A transaction that fails says of which kind the failure is, which programs decide by, and a text,
which people read. Nothing above the bus changes either of them.
-/

namespace WiperDriver

/-- The kinds of failure that a bus can report. -/
inductive Failure.Kind where
  | notFound
  | permissionDenied
  | notConnected
  | timedOut
  | wouldBlock
  | invalidData
  | invalidInput
  | interrupted
  | unexpectedEof
  | brokenPipe
  | writeZero
  | unsupported
  | other
  | connectionRefused
  | connectionReset
  | hostUnreachable
  | networkUnreachable
  | connectionAborted
  | addrInUse
  | addrNotAvailable
  | networkDown
  | alreadyExists
  | notADirectory
  | isADirectory
  | directoryNotEmpty
  | readOnlyFilesystem
  | filesystemLoop
  | staleNetworkFileHandle
  | storageFull
  | notSeekable
  | quotaExceeded
  | fileTooLarge
  | resourceBusy
  | executableFileBusy
  | deadlock
  | crossesDevices
  | tooManyLinks
  | invalidFilename
  | argumentListTooLong
  | outOfMemory
  | inProgress
  | inputOutputError
  | tooManyOpenFiles
  | uncategorized
  deriving DecidableEq, Repr, Inhabited

namespace Failure.Kind

/-- The identifier of a kind. -/
def name : Failure.Kind → String
  | .notFound => "NotFound"
  | .permissionDenied => "PermissionDenied"
  | .notConnected => "NotConnected"
  | .timedOut => "TimedOut"
  | .wouldBlock => "WouldBlock"
  | .invalidData => "InvalidData"
  | .invalidInput => "InvalidInput"
  | .interrupted => "Interrupted"
  | .unexpectedEof => "UnexpectedEof"
  | .brokenPipe => "BrokenPipe"
  | .writeZero => "WriteZero"
  | .unsupported => "Unsupported"
  | .other => "Other"
  | .connectionRefused => "ConnectionRefused"
  | .connectionReset => "ConnectionReset"
  | .hostUnreachable => "HostUnreachable"
  | .networkUnreachable => "NetworkUnreachable"
  | .connectionAborted => "ConnectionAborted"
  | .addrInUse => "AddrInUse"
  | .addrNotAvailable => "AddrNotAvailable"
  | .networkDown => "NetworkDown"
  | .alreadyExists => "AlreadyExists"
  | .notADirectory => "NotADirectory"
  | .isADirectory => "IsADirectory"
  | .directoryNotEmpty => "DirectoryNotEmpty"
  | .readOnlyFilesystem => "ReadOnlyFilesystem"
  | .filesystemLoop => "FilesystemLoop"
  | .staleNetworkFileHandle => "StaleNetworkFileHandle"
  | .storageFull => "StorageFull"
  | .notSeekable => "NotSeekable"
  | .quotaExceeded => "QuotaExceeded"
  | .fileTooLarge => "FileTooLarge"
  | .resourceBusy => "ResourceBusy"
  | .executableFileBusy => "ExecutableFileBusy"
  | .deadlock => "Deadlock"
  | .crossesDevices => "CrossesDevices"
  | .tooManyLinks => "TooManyLinks"
  | .invalidFilename => "InvalidFilename"
  | .argumentListTooLong => "ArgumentListTooLong"
  | .outOfMemory => "OutOfMemory"
  | .inProgress => "InProgress"
  | .inputOutputError => "InputOutputError"
  | .tooManyOpenFiles => "TooManyOpenFiles"
  | .uncategorized => "Uncategorized"

/-- The kinds that a bus may report of its own accord. The others only arise from the error numbers
of an operating system. -/
def general : List Failure.Kind :=
  [.notFound, .permissionDenied, .notConnected, .timedOut, .wouldBlock, .invalidData, .invalidInput,
    .interrupted, .unexpectedEof, .brokenPipe, .writeZero, .unsupported, .other]

/-- The general kind of an identifier; case matters. -/
def ofName? (text : String) : Option Failure.Kind :=
  general.find? (·.name = text)

end Failure.Kind

/-- A failed bus transaction. -/
structure Failure where
  /-- What programs tell failures apart by. -/
  kind : Failure.Kind
  /-- What people read. -/
  text : String
  deriving DecidableEq, Repr, Inhabited

end WiperDriver
