import Std.Time.Format
import TechniqueScan.Program

/-!
The program on the files of a computer.
-/

namespace TechniqueScan

/-- What the system says, by its number where it has one of its own here. -/
def systemError : IO.Error → SystemError
  | .noFileOrDirectory _ _ _ => .notFound
  | .alreadyExists _ 17 _ => .alreadyThere
  | .inappropriateType _ 20 _ => .notDirectory
  | .inappropriateType _ 21 _ => .isDirectory
  | .alreadyExists _ code details | .otherError code details | .resourceBusy code details
  | .resourceVanished code details | .unsupportedOperation code details
  | .hardwareFault code details | .unsatisfiedConstraints code details
  | .illegalOperation code details | .protocolError code details | .timeExpired code details
  | .interrupted _ code details | .invalidArgument _ code details
  | .permissionDenied _ code details | .resourceExhausted _ code details
  | .inappropriateType _ code details | .noSuchThing _ code details =>
    .other (details ++ " (os error " ++ toString code ++ ")")
  | e => .other (toString e)

/-- An action with its failure as a value. -/
def asked {α : Type} (action : IO α) : IO (Except SystemError α) := do
  match ← action.toBaseIO with
  | .ok a => return .ok a
  | .error e => return .error (systemError e)

instance : Files IO where
  workingDirectory := return (← IO.currentDir).toString
  resolve? path := return (← asked (IO.FS.realPath path)).toOption.map toString
  kind? path := do
    let data ← asked do (← IO.FS.realPath path).metadata
    return data.toOption.map fun d => if d.type == .dir then .directory else .file
  read path := asked (IO.FS.readBinFile path)
  names path := asked do
    return (← (← IO.FS.realPath path).readDir).toList.map fun entry => entry.fileName
  makeDirectory path := asked (IO.FS.createDir path)
  write path content := asked (IO.FS.writeBinFile path content)

/-- The time in the zone that all others are counted from. -/
instance : Clock IO where
  now := do
    let time := Std.Time.DateTime.ofTimestamp (← Std.Time.Timestamp.now) Std.Time.TimeZone.ZoneRules.UTC
    return (time.toLeanDateTimeWithZoneString.dropEnd 1).toString ++ "+00:00"

end TechniqueScan

def main (words : List String) : IO UInt32 := do
  let answer : TechniqueScan.Program.Answer ← TechniqueScan.Program.answer words
  IO.print answer.output
  IO.eprint answer.errors
  return UInt32.ofNat answer.exitCode
