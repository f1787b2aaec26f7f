import VesselTraffic.Arguments

/-!
# The program

Reads the settings and the feed, runs the command and prints what it returns.
-/
open VesselTraffic

/-- All bytes of a stream. -/
partial def readAll (stream : IO.FS.Stream) (before : ByteArray) : IO ByteArray := do
  let bytes ← stream.read 65536
  if bytes.isEmpty then return before else readAll stream (before ++ bytes)

/-- The bytes of a file, or the reason why it cannot be opened. -/
def readFeed (path : String) : IO (Except String ByteArray) := do
  if path == "-" then return .ok (← readAll (← IO.getStdin) ByteArray.empty)
  try
    return .ok (← IO.FS.readBinFile path)
  catch
    | .noFileOrDirectory .. => return .error Command.noSuchFile
    | e => return .error (toString e)

def readSettings (arguments : Arguments) : IO Settings := do
  let usual := Settings.file (← IO.getEnv "HOME") (← IO.getEnv "USERPROFILE")
  let path := (arguments.settingsPath.or (← IO.getEnv "AIS_DECODE_CONFIG")).getD usual
  let bytes ← try pure (some (← IO.FS.readBinFile path).toList) catch _ => pure none
  return (Settings.load path bytes).1

def usage : String :=
  "usage: decode FILE [--json | --summary] [--strict] [--source ID] [--config FILE]"

def main (args : List String) : IO UInt32 := do
  let some arguments := Arguments.ofList? {} args | IO.eprintln usage; return 2
  let some path := arguments.feed? | IO.eprintln usage; return 2
  let settings ← readSettings arguments
  let printed ← match ← readFeed path with
    | .ok bytes => pure (Command.run settings arguments.options bytes.toList)
    | .error reason => pure (Command.cannotOpen path reason)
  IO.print printed.output
  IO.eprint printed.errors
  return printed.status
