/-!
The records that the library writes to a log.
-/

namespace RecordStore

inductive JournalLevel where
  | debug
  | info
  | warning
  deriving DecidableEq, Repr

inductive JournalChannel where
  | engine
  | unitOfWork
  | repository
  deriving DecidableEq, Repr

structure JournalRecord where
  level : JournalLevel
  channel : JournalChannel
  message : String
  deriving DecidableEq, Repr

namespace JournalLevel

def name : JournalLevel → String
  | debug => "DEBUG"
  | info => "INFO"
  | warning => "WARNING"

end JournalLevel
end RecordStore
