import FileCache.Path
import FileCache.Report

/-!
What the cache tells its operator.
-/

namespace FileCache

/-- What made a scanner run a sweep. -/
inductive Wake
  | timer
  | trigger
deriving DecidableEq, Repr

inductive Notice
  | enabled
  | disabled
  /-- The time between two scans, in milliseconds. -/
  | scannerStarted (period : Nat)
  | scannerStopped (dropped : Nat)
  | scanned (wake : Wake) (report : Report)
  | readFailed (path : Path)
  | statFailed (path : Path)
  | reloadFailed (path : Path)
  | reconciled (path : Path) (verdict : Verdict)
deriving DecidableEq, Repr

def Wake.text : Wake → String
  | .timer => "Timer"
  | .trigger => "Trigger"

namespace Notice

/-- The line shown for a notice.  A single verdict is not shown. -/
def line? : Notice → Option String
  | .enabled => some "INFO File cache enabled"
  | .disabled => some "INFO File cache disabled"
  | .scannerStarted period =>
    some ("INFO Starting cache scanner with interval of " ++ toString period ++ " ms")
  | .scannerStopped dropped =>
    some ("INFO Cache scanner stopped, dropped " ++ toString dropped ++ " entries")
  | .scanned wake report =>
    if report.hasChanges then
      some ("INFO Cache scan finished wake=" ++ wake.text ++
        " visited=" ++ toString report.visited ++ " evicted=" ++ toString report.evicted ++
        " refreshed=" ++ toString report.refreshed ++
        " invalidated=" ++ toString report.invalidated)
    else
      some ("DEBUG Cache scan found no changes wake=" ++ wake.text ++
        " visited=" ++ toString report.visited ++ " missing=" ++ toString report.notExist)
  | .readFailed _ => some "WARN Failed to read file"
  | .statFailed _ => some "WARN Failed to stat cached file"
  | .reloadFailed _ => some "WARN Failed to reload cached file"
  | .reconciled _ _ => none

end Notice
end FileCache
