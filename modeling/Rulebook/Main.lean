import Rulebook.Program
import Std.Time.Format

namespace Rulebook

/-- The fault that an error of the system stands for. -/
def faultOf : IO.Error → FileFault
  | .noFileOrDirectory .. => .notFound
  | .inappropriateType .. => .isDirectory
  | .alreadyExists .. => .alreadyExists
  | error => .other (toString error)

def attempt {α : Type} (action : IO α) : IO (Except FileFault α) :=
  (Except.ok <$> action) |>.catchExceptions fun error => return .error (faultOf error)

/-- The nearest file of a name, for at most so many directories upwards. -/
def readNearestFile (name : String) : Nat → IO (Option ByteArray)
  | 0 => return none
  | fuel + 1 => do
      match ← attempt (IO.FS.readBinFile name) with
      | .ok content => return some content
      | .error _ => readNearestFile ("../" ++ name) fuel

instance : FileSystem IO where
  readBytes path := attempt (IO.FS.readBinFile path)
  appendBytes path bytes := attempt do
    let handle ← IO.FS.Handle.mk path .append
    handle.write bytes
  createDirectories path := attempt (IO.FS.createDirAll path)
  pathExists path := do ((← IO.currentDir) / path).pathExists
  isFile path := do
    let place := (← IO.currentDir) / path
    return (← place.pathExists) && !(← place.isDir)
  readNearest name := do
    readNearestFile name ((← IO.currentDir).toString.splitOn "/").length

def processEnvironment : IO Environment := do
  match ← attempt (IO.FS.readBinFile "/proc/self/environ") with
  | .error _ => return []
  | .ok content =>
      let entries := ((String.fromUTF8? content).getD "").splitOn "\x00"
      return entries.filterMap fun entry =>
        match entry.splitOn "=" with
        | name :: value :: rest => some (name, "=".intercalate (value :: rest))
        | _ => none

def now : IO Instant := do
  let sinceEpoch := (← Std.Time.Timestamp.now).toNanosecondsSinceUnixEpoch.val.toNat
  let seconds := sinceEpoch / 1000000000
  return ⟨seconds / 86400, seconds % 86400, sinceEpoch % 1000000000⟩

def newId : IO Uuid := do
  let bytes ← IO.getRandomBytes 16
  return Uuid.ofRandom (BitVec.ofNat 128 (bytes.toList.foldl (fun n b => n * 256 + b.toNat) 0))

end Rulebook

open Rulebook in
def main (arguments : List String) : IO UInt32 := do
  let ticket : Ticket := ⟨← now, ← newId, ← newId⟩
  let output ← IO.getStdout
  let report ← Program.run (← processEnvironment) (← output.isTty) ticket arguments
  output.putStr report.output
  (← IO.getStderr).putStr report.errors
  return report.code.toUInt32
