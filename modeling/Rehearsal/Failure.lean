/-! # Failures

  What can go wrong while a practice session is set up or run. Nothing that a musician can say
  is a failure: words that are not understood, missing numbers and a missing score are all
  answered in words.
-/

namespace Rehearsal

/-- What went wrong. -/
inductive Failure where
  | settings (reason : String)
  | malformedSettings
  | pdfNotFound (path : String)
  | viewer (reason : String)
  | thread (name source : String)
  /-- A background worker has ended. -/
  | closed (worker : String)
  | io
  deriving DecidableEq, Repr

/-- The text that tells of a failure. -/
def Failure.message : Failure → String
  | .settings reason => "Configuration error: " ++ reason
  | .malformedSettings => "TOML parse error"
  | .pdfNotFound path => "PDF not found: " ++ path
  | .viewer reason => "Viewer error: " ++ reason
  | .thread name source => "Failed to spawn " ++ name ++ " thread: " ++ source
  | .closed worker => "Channel closed: " ++ worker
  | .io => "IO error"

end Rehearsal
