import RespStore.Frame.Basic

set_option autoImplicit false

namespace RespStore

structure Settings where
  address : String
  maxBulk : UInt64
  maxArray : UInt64
  maxDepth : UInt64
  pollInterval : UInt64
  shutdownPasses : UInt64
  readBuffer : UInt64
  deriving DecidableEq, Repr

namespace Settings

/-- Port 6379 on this host. -/
def standardAddress : String := "127.0.0.1:6379"

/-- The standard address, frames within the standard limits, 50 microseconds between two passes,
32 passes to shut down, and 4096 bytes a read. -/
def standard : Settings where
  address := standardAddress
  maxBulk := Limits.standard.maxBulk
  maxArray := Limits.standard.maxArray
  maxDepth := Limits.standard.maxDepth
  pollInterval := 50
  shutdownPasses := 32
  readBuffer := 4096

def withAddress (address : String) : Settings := { standard with address := address }

def limits (settings : Settings) : Limits :=
  ⟨settings.maxBulk, settings.maxArray, settings.maxDepth⟩

inductive Field where
  | address
  | maxBulk
  | maxArray
  | maxDepth
  | pollInterval
  | shutdownPasses
  | readBuffer
  deriving DecidableEq, Repr

namespace Field

def all : List Field :=
  [.address, .maxBulk, .maxArray, .maxDepth, .pollInterval, .shutdownPasses, .readBuffer]

theorem mem_all (field : Field) : field ∈ all := by
  cases field <;> decide

def flag : Field → String
  | .address => "addr"
  | .maxBulk => "max-bulk-len"
  | .maxArray => "max-array-len"
  | .maxDepth => "max-depth"
  | .pollInterval => "poll-interval-us"
  | .shutdownPasses => "shutdown-passes"
  | .readBuffer => "read-buffer-size"

/-- What stands for the value in messages. -/
def placeholder : Field → String
  | .address => "ADDR"
  | .maxBulk => "MAX_BULK_LEN"
  | .maxArray => "MAX_ARRAY_LEN"
  | .maxDepth => "MAX_DEPTH"
  | .pollInterval => "POLL_INTERVAL_US"
  | .shutdownPasses => "SHUTDOWN_PASSES"
  | .readBuffer => "READ_BUFFER_SIZE"

def variableName (field : Field) : String := "RESPKV_" ++ field.placeholder

end Field

end Settings

end RespStore
