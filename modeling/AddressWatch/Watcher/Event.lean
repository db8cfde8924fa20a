import AddressWatch.Family

/-!
What a watcher tells those who listen to it.
-/

namespace AddressWatch.Watcher

/-- A message about one poll, or about the beginning or the end of the loop. -/
inductive Event where
  | started (interface recordName : String) (recordType : RecordType)
  /-- The host gave no address; `environment` says whether the host itself is to blame. -/
  | addressMissing (reason : String) (environment : Bool)
  /-- The host gave something that is no address of the family. -/
  | addressRejected (value : String)
  | unchanged (value : String)
  /-- The API took the address; `previous` is empty when it had taken none before. -/
  | updateSucceeded (previous current : String)
  | updateFailed (value detail : String)
  | stopped (reason : String)
deriving DecidableEq, Inhabited

/-- The change that a message reports: the address before it and the one after it. -/
def Event.transition? : Event → Option (String × String)
  | updateSucceeded previous current => some (previous, current)
  | _ => none

end AddressWatch.Watcher
