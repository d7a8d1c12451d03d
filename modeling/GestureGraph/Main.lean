import GestureGraph.CommandLine
import Std.Time.DateTime.Timestamp

open GestureGraph

instance : Host IO where
  say text := do
    let out ← IO.getStdout
    out.putStr text
    out.flush
  warn text := do (← IO.getStderr).putStr text
  readFile? path := try return some (← IO.FS.readFile path) catch _ => return none
  writeFile path text := try IO.FS.writeFile path text; return true catch _ => return false
  makeDirectory path := try IO.FS.createDirAll path; return true catch _ => return false

def nextLine? (stream : IO.FS.Stream) : IO (Option String) := do
  let line ← stream.getLine
  if line.isEmpty then return none
  match byteLines line.toUTF8.toList with
  | some text :: _ => return some text
  | _ => return some ""

partial def converse (stream : IO.FS.Stream) (console : Console) : IO Console := do
  if console.mode = .done then return console
  match ← nextLine? stream with
  | none => console.close
  | some line => converse stream (← console.line line)

def main (args : List String) : IO UInt32 := do
  let now ← Std.Time.Timestamp.now
  match ← CommandLine.start args now.toSecondsSinceUnixEpoch.val.toNat with
  | .exit code => return code.toUInt32
  | .console console =>
      try
        discard (converse (← IO.getStdin) console)
        return 0
      catch _ => return 1
