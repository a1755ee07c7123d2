/-!
# Failures and result codes

Every operation on a volume either succeeds or stops at one cause. The causes
are kept apart here; user programs see only a coarser result code, whose
negation is the value returned by a system call.
-/

namespace FatVolume

/-- Why a disk refuses a transfer. -/
inductive DiskError where
  /-- The address lies behind the last sector of the disk. -/
  | outOfRange
  /-- The controller reported an error or timed out. -/
  | device
  deriving DecidableEq, Repr

/-- The causes at which an operation on a volume stops. -/
inductive Failure where
  /-- The disk refused a transfer. -/
  | transfer (cause : DiskError)
  /-- The disk does not use sectors of 512 bytes. -/
  | sectorSize (bytes : Nat)
  /-- The boot sector does not end in the boot signature. -/
  | badSignature
  /-- The geometry of the boot sector is unusable, or a record is cut short. -/
  | malformed
  /-- No entry carries the name. -/
  | notFound
  /-- A path passes through, or ends in, something that is no directory. -/
  | notDirectory
  /-- A directory was named where a file is needed. -/
  | isDirectory
  /-- The name to be created is taken. -/
  | alreadyExists
  /-- The stem of a name exceeds eight bytes or its extension three. -/
  | nameTooLong
  /-- A name has no stem or holds a byte that a short name cannot carry. -/
  | badComponent
  /-- A path does not fit the room kept for it. -/
  | pathTooLong
  /-- No cluster is free. -/
  | noSpace
  /-- The root region has no free slot, and it cannot grow. -/
  | directoryFull
  /-- A chain leads to a free, reserved, bad or missing cluster, or returns to itself. -/
  | brokenChain
  /-- A chain ended before the bytes asked for. -/
  | chainTooShort
  /-- A read starts at or behind the recorded end of the file. -/
  | endOfFile
  /-- A cluster number below 2 stands where a data cluster is needed. -/
  | reservedCluster
  /-- The heap refused the block for a whole file. -/
  | outOfMemory
  /-- The root selection is neither empty, `esp` nor `partuuid=` and a name. -/
  | unsupportedRoot
  deriving DecidableEq, Repr

/-- What user programs are told about the outcome of a file system call. -/
inductive ResultCode where
  | ok
  | ioError
  | badSignature
  | formatError
  | notFound
  | notADirectory
  | isADirectory
  | alreadyExists
  | nameTooLong
  | badComponent
  | noSpace
  | full
  | allocationInconsistency
  | endOfFile
  | invalidArgument
  deriving DecidableEq, Repr

namespace ResultCode

/-- The number of a result; only success has number zero. -/
def number : ResultCode → Nat
  | ok => 0
  | ioError => 1
  | badSignature => 2
  | formatError => 3
  | notFound => 4
  | notADirectory => 5
  | isADirectory => 6
  | alreadyExists => 7
  | nameTooLong => 8
  | badComponent => 9
  | noSpace => 10
  | full => 11
  | allocationInconsistency => 12
  | endOfFile => 13
  | invalidArgument => 14

/-- Every result once, in the order of the numbers. -/
def all : List ResultCode :=
  [ok, ioError, badSignature, formatError, notFound, notADirectory, isADirectory, alreadyExists,
    nameTooLong, badComponent, noSpace, full, allocationInconsistency, endOfFile, invalidArgument]

/-- The value of a system call: zero for success, else the negated number. -/
def code (result : ResultCode) : Int := -(result.number : Int)

/-- The result that a system call value stands for. A value that no result has
counts as a device error. -/
def ofCode (value : Int) : ResultCode := (all.find? fun result => result.code == value).getD ioError

/-- The number of a result code determines it: reading the code back loses no distinction
between kinds of failures. -/
theorem ofCode_code (result : ResultCode) : ofCode result.code = result := by
  cases result <;> decide

end ResultCode

namespace Failure

/-- The result reported to user programs for each cause. -/
def result : Failure → ResultCode
  | transfer _ => .ioError
  | sectorSize _ => .ioError
  | badSignature => .badSignature
  | malformed => .formatError
  | notFound => .notFound
  | notDirectory => .notADirectory
  | isDirectory => .isADirectory
  | alreadyExists => .alreadyExists
  | nameTooLong => .nameTooLong
  | badComponent => .badComponent
  | pathTooLong => .nameTooLong
  | noSpace => .noSpace
  | directoryFull => .full
  | brokenChain => .allocationInconsistency
  | chainTooShort => .ioError
  | endOfFile => .endOfFile
  | reservedCluster => .invalidArgument
  | outOfMemory => .noSpace
  | unsupportedRoot => .invalidArgument

/-- The system call value of a failure. -/
def code (failure : Failure) : Int := failure.result.code

/-- No failure is reported as success: its value is negative, while a listing reports the
number of its entries. -/
theorem code_neg (failure : Failure) : failure.code < 0 := by
  cases failure <;> simp [code, result, ResultCode.code, ResultCode.number]

end Failure

end FatVolume
