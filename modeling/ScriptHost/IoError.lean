/-!
# Input and output errors

* `IoError` — what the operating system, or a stream, reports.
* `IoError.message` — its wording.
-/

namespace ScriptHost

/-- A failure to read or to write. -/
inductive IoError where
  /-- A writer accepted nothing of what was left to write. -/
  | shortWrite
  /-- A failure that a stream reports in its own words. -/
  | reported (text : String)
  | notFound
  | permissionDenied
  | notADirectory
  | isADirectory
  | noSpace
  | nameTooLong
  /-- A file was to be read as text and is none. -/
  | notText
  /-- A path has a zero byte in it. -/
  | zeroByteInPath
  deriving Repr, DecidableEq

/-- The text of an error that the system numbers. -/
def IoError.systemMessage (text : String) (number : Nat) : String :=
  text ++ " (os error " ++ toString number ++ ")"

/-- The wording of an error. -/
def IoError.message : IoError → String
  | shortWrite => "failed to write whole buffer"
  | reported text => text
  | notFound => systemMessage "No such file or directory" 2
  | permissionDenied => systemMessage "Permission denied" 13
  | notADirectory => systemMessage "Not a directory" 20
  | isADirectory => systemMessage "Is a directory" 21
  | noSpace => systemMessage "No space left on device" 28
  | nameTooLong => systemMessage "File name too long" 36
  | notText => "stream did not contain valid UTF-8"
  | zeroByteInPath => "file name contained an unexpected NUL byte"

end ScriptHost
