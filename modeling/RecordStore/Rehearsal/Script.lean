import RecordStore.Action
import RecordStore.Journal

/-!
Scripts for collaborators that only play their part. A script says for each method which of its
next calls fail; calls and log records are kept in order.
-/

namespace RecordStore

/-- What is left of a script, and what happened so far. -/
structure Script where
  /-- For each method, the failures of its next calls; a call beyond them succeeds. -/
  plans : List (String × List (Option Failure))
  calls : List String
  journal : List JournalRecord
  deriving Inhabited

namespace Script

def next (method : String) (script : Script) : Option Failure × Script :=
  match script.plans.lookup method with
  | some (entry :: rest) =>
    (entry, { script with plans := script.plans.map fun plan =>
      if plan.1 = method then (method, rest) else plan })
  | _ => (none, script)

def keep (text : String) (script : Script) : Script :=
  { script with calls := script.calls ++ [text] }

def planName : Failure → String
  | .foreign failure => failure.kind.name
  | failure => failure.typeName

def failedText (text : String) (failure : Failure) : String :=
  text ++ " !" ++ planName failure

def play (method text : String) : Action Script Unit := fun script =>
  match script.next method with
  | (none, script) => (.ok (), script.keep text)
  | (some failure, script) => (.error failure, script.keep (failedText text failure))

def note (record : JournalRecord) : Action Script Unit :=
  Action.modify fun script => { script with journal := script.journal ++ [record] }

end Script
end RecordStore
