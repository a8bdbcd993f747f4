import RecordStore.Value.Display

/-!
Failures that come from outside the library: those that a caller or a collaborator raises with
arguments of its own.
-/

namespace RecordStore

def argumentText : List Value → String
  | [] => ""
  | [only] => only.plain
  | several => (Value.tuple several).literal

inductive ForeignKind where
  | value
  | runtime
  | key
  | type
  | system
  | module
  | store
  /-- An interruption: it passes every handler of ordinary failures. -/
  | interruption
  deriving DecidableEq, Repr, Inhabited

namespace ForeignKind

def all : List ForeignKind := [value, runtime, key, type, system, module, store, interruption]

def name : ForeignKind → String
  | value => "ValueError"
  | runtime => "RuntimeError"
  | key => "KeyError"
  | type => "TypeError"
  | system => "OSError"
  | module => "ImportError"
  | store => "SQLAlchemyError"
  | interruption => "BaseBoom"

def ofName? (name : String) : Option ForeignKind :=
  all.find? fun kind => kind.name == name

end ForeignKind

structure ForeignFailure where
  kind : ForeignKind
  arguments : List Value
  deriving Inhabited, Repr

namespace ForeignFailure

def systemNames : List (Int × String) := [
  (1, "PermissionError"), (2, "FileNotFoundError"), (3, "ProcessLookupError"),
  (4, "InterruptedError"), (10, "ChildProcessError"), (11, "BlockingIOError"),
  (13, "PermissionError"), (17, "FileExistsError"), (20, "NotADirectoryError"),
  (21, "IsADirectoryError"), (32, "BrokenPipeError"), (103, "ConnectionAbortedError"),
  (104, "ConnectionResetError"), (108, "BrokenPipeError"), (110, "TimeoutError"),
  (111, "ConnectionRefusedError"), (114, "BlockingIOError"), (115, "BlockingIOError")]

def typeName (failure : ForeignFailure) : String :=
  match failure.kind, failure.arguments with
  | .system, .integer number :: _ :: _ => (systemNames.lookup number).getD "OSError"
  | kind, _ => kind.name

def firstLine (text : String) : String :=
  String.ofList (text.toList.takeWhile fun letter => letter ≠ '\n')

/-- The text of a failure. A missing key is quoted, a system failure shows its number, and of a
store's failure only the first line is told. -/
def message (failure : ForeignFailure) : String :=
  match failure.kind, failure.arguments with
  | .key, [only] => only.literal
  | .system, [number, reason] => "[Errno " ++ number.plain ++ "] " ++ reason.plain
  | .system, number :: reason :: file :: _ =>
    "[Errno " ++ number.plain ++ "] " ++ reason.plain ++ ": " ++ file.literal
  | .store, arguments => firstLine (argumentText arguments)
  | _, arguments => argumentText arguments

end ForeignFailure
end RecordStore
