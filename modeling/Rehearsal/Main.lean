import Rehearsal.Command.Execute
import Std.Time.DateTime.Timestamp

namespace Rehearsal.Shell

open Rehearsal.Command

def depthLimit : Nat := 16

def gather : Nat → String → Files → Array IO.FS.DirEntry → IO Files
  | 0, _, f, _ => return f
  | depth + 1, above, f, entries =>
    entries.foldlM (fun f e => do
      let path := above ++ e.fileName
      try
        if ← e.path.isDir then
          gather depth (path ++ "/") (f.makeDirectory path) (← e.path.readDir)
        else return f.write path (← IO.FS.readBinFile e.path).toList
      catch _ => return f) f

def files : IO Files := do
  let here ← IO.currentDir
  gather depthLimit "" { here := Path.parts here.toString } (← here.readDir)

def clock : IO Int := do
  let now ← Std.Time.Timestamp.now
  return now.toNanosecondsSinceUnixEpoch.val.fdiv 1000

def environment : IO (List (String × String)) := do
  let names := Config.names.map fun name => (Config.opening ++ name).toUpper
  let values ← names.mapM fun name => do return (← IO.getEnv name).map fun value => (name, value)
  return values.filterMap id

def drawLimit : Nat := 4096

def draws : IO Draws := do
  let supplied ← (List.range drawLimit).mapM fun _ => do
    return Block.ofBytes? (← IO.getRandomBytes blockLength.toUSize).toList
  return { supplied := supplied.filterMap id }

def levelWord : Audit.Level → String
  | .info => "INFO"
  | .warning => "WARNING"
  | .error => "ERROR"

def log (lines : List Audit.Line) : IO Unit :=
  lines.forM fun line => IO.eprintln s!"{levelWord line.level} {line.text}"

def print (output : String) : IO Unit := do
  let out ← IO.getStdout
  out.putStr output
  out.flush

def crash (f : Failure) : IO UInt32 := do
  let text := match f.message with
    | .ok text => text.mended '\ufffd'
    | .error fault => fault.message.mended '\ufffd'
  IO.eprintln s!"{f.name}: {text}"
  return f.exitCode.toUInt32

def close (r : Report) : IO UInt32 := do
  log r.audit
  print r.output
  match r.failure with
  | some f => crash f
  | none => return r.exitCode.toUInt32

def converse (c : Collaborators Unit) (w : Workplace Unit) : IO UInt32 := do
  let input ← IO.getStdin
  let mut session := fresh w
  repeat
    let line ← input.getLine
    if line.isEmpty then break
    let w := { w with surroundings := { files := ← files, clock := ← clock } }
    let turn := answer c w.surroundings session line
    session := turn.session
    log (logged w turn.events)
    match turn.reply with
    | .silence => continue
    | .answer r =>
      match jsonLine r with
      | .ok line => print line
      | .error f => return ← crash (.fault f)
    | .refusal r => return ← close (emit r { exitCode := 1 })
    | .farewell => break
    | .crash f => return ← crash f
  return 0

def start (arguments : List String) : IO UInt32 := do
  let w : Workplace Unit := {
    environment := ← environment
    memory := ()
    surroundings := { files := ← files, clock := ← clock }
    draws := ← draws }
  let arguments := arguments.map Text.whole
  match Request.read arguments, configure w with
  | .order (some .interpreter), .ok c =>
    match Interpreter.load w.modules c.interpreter with
    | .error f => crash f
    | .ok interpreter => converse (Run.collaborators interpreter.invoke) w
  | _, _ => close (execute w arguments)

end Rehearsal.Shell

def main (arguments : List String) : IO UInt32 := Rehearsal.Shell.start arguments
