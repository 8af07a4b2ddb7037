/-! Faults of the outside world: a kind, and the words that came with it. -/
namespace Resources

inductive FaultKind where
  | notFound | permissionDenied | connectionRefused | connectionReset | hostUnreachable
  | networkUnreachable | connectionAborted | notConnected | addrInUse | addrNotAvailable
  | networkDown | brokenPipe | alreadyExists | wouldBlock | notADirectory | isADirectory
  | directoryNotEmpty | readOnlyFilesystem | staleNetworkFileHandle | invalidInput | invalidData
  | timedOut | writeZero | storageFull | notSeekable | quotaExceeded | fileTooLarge | resourceBusy
  | executableFileBusy | deadlock | crossesDevices | tooManyLinks | invalidFilename
  | argumentListTooLong | interrupted | unsupported | unexpectedEof | outOfMemory | other
  deriving DecidableEq, Repr, Inhabited

structure Fault where
  kind : FaultKind
  text : String
  deriving DecidableEq, Repr

namespace Fault

def absent : Fault := ⟨.notFound, "No such file or directory (os error 2)"⟩

def throughFile : Fault := ⟨.notADirectory, "Not a directory (os error 20)"⟩

def directory : Fault := ⟨.isADirectory, "Is a directory (os error 21)"⟩

def occupied : Fault := ⟨.alreadyExists, "File exists (os error 17)"⟩

def tooLong : Fault := ⟨.invalidFilename, "File name too long (os error 36)"⟩

def nulByte : Fault := ⟨.invalidInput, "file name contained an unexpected NUL byte"⟩

end Fault

end Resources
