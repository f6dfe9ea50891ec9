import ClassTable.CommandLine
import Std.Time.Zoned

set_option autoImplicit false

namespace ClassTable.Program

def look (disk : Disk) (path : String) : IO Disk := do
  try
    let bytes ← IO.FS.readBinFile path
    let parent := String.intercalate "/" (Path.components path).dropLast
    let root := if Path.isAbsolute path then "/" else ""
    let disk := (disk.makeDirectories (root ++ parent)).1
    pure ((disk.write path bytes.toList).toOption.getD disk)
  catch e =>
    match e with
    | .inappropriateType .. => pure (disk.makeDirectories path).1
    | _ => pure disk

def start : IO Disk := do
  let here := toString (← IO.currentDir)
  pure ⟨((⟨[], []⟩ : Disk).makeDirectories here).1.entries, Path.components here⟩

def carryOver (before after : Disk) : IO Unit := do
  for (place, entry) in after.entries do
    if before.entries.lookup place != some entry then
      let path := Path.absolute place
      match entry with
      | .directory => IO.FS.createDirAll path
      | .file bytes => IO.FS.writeBinFile path (ByteArray.mk bytes.toArray)

def today : IO Date := do
  let now ← Std.Time.PlainDate.now
  match Date.ofParts? now.year.toInt now.month.toNat now.day.toNat with
  | some date => pure date
  | none => throw (IO.userError "the date of today is out of range")

def finish {α : Type} (options : Options) (before : Disk) (outcome : Outcome α) : IO UInt32 := do
  IO.print outcome.printed
  if !options.quiet then
    for event in outcome.run.warnings do
      IO.eprintln ("WARN " ++ event.message)
  carryOver before outcome.disk
  match outcome.run.result with
  | .ok _ => pure 0
  | .error fault =>
    IO.eprintln ("Error: " ++ fault.message)
    pure 1

def environment : IO (List (String × String)) := do
  let names := Settings.variableNames
  names.filterMapM fun name => do pure ((← IO.getEnv name).map (name, ·))

def refuse (message : String) : IO UInt32 := do
  IO.eprintln ("error: " ++ message)
  pure 2

def run (options : Options) (request : Request) : IO UInt32 := do
  let today ← today
  let vars ← environment
  let config := options.config.getD Settings.fileName
  let here ← start
  let disk ← (here.searched config).foldlM look here
  let settings := (Settings.load today disk vars config).toOption
  let disk ← (request.reads (settings.getD (.standard today))).foldlM look disk
  match request with
  | .generate c => finish options disk (withSettings today vars options.config disk c.run)
  | .tree c => finish options disk (withSettings today vars options.config disk c.run)
  | .init c => finish options disk (c.run today disk)

def runArguments (args : List String) : IO UInt32 :=
  match Options.empty.read args with
  | .error message => refuse message
  | .ok options =>
    match options.request with
    | .error message => refuse message
    | .ok request => run options request

end ClassTable.Program

def main (args : List String) : IO UInt32 := ClassTable.Program.runArguments args
