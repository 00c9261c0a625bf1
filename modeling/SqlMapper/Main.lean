import SqlMapper.CommandLine.Run
import SqlMapper.Log.Line

/-!
The program: it takes in what surrounds it, runs the command line, and carries out what the session
holds. Servers cannot be reached from here.
-/
namespace SqlMapper.Main

open CommandLine

def depthLimit : Nat :=
  64

/-- The files of a directory tree by their paths. Files that cannot be read are left out. -/
def readTree : Nat → Array IO.FS.DirEntry → String → Volume → IO Volume
  | 0, _, _, v => return v
  | fuel + 1, entries, directory, v => do
      let mut v := v
      for entry in entries do
        let key := Path.join directory entry.fileName
        try
          if ← entry.path.isDir then
            v ← readTree fuel (← entry.path.readDir) key (v.putDirectory key)
          else
            v := v.putFile key (← IO.FS.readBinFile entry.path).toList
        catch _ => pure ()
      return v

/-- Adds a file of another place, if it is there. -/
def addFile (v : Volume) (path : String) : IO Volume := do
  try
    return v.putFile path (← IO.FS.readBinFile path).toList
  catch _ => return v

def readVariables : IO (List (String × String)) := do
  let mut found := []
  for key in SettingKey.all do
    if let some value ← IO.getEnv key.variableName then
      found := found ++ [(key.variableName, value)]
  return found

def readSurroundings : IO Surroundings := do
  let current ← IO.currentDir
  let home := (← IO.getEnv "HOME").getD "/"
  let here ← readTree depthLimit (← current.readDir) "." (.empty .disk)
  let places := [home, Path.join home ".config/yobatis"]
  let paths := places.flatMap fun place => Surroundings.fileNames.map (Path.join place)
  let volume ← paths.foldlM addFile here
  return ⟨volume, current.toString, home, ← readVariables, 1⟩

/-- Writes an entry that a run has changed. -/
def carryOut (before : Volume) (entry : String × FileEntry) : IO Unit := do
  if before.get? entry.1 != some entry.2 then
    if entry.2.isDirectory then IO.FS.createDirAll entry.1
    else IO.FS.writeBinFile entry.1 (ByteArray.mk entry.2.contents.toArray)

def logLine (started : Nat) (entry : Log.Entry) : IO String := do
  return entry.text (toString ((← IO.monoMsNow) - started) ++ "ms")

def unreachable : Schema.Server :=
  ⟨some "no connection to a server is possible", none, []⟩

end SqlMapper.Main

open SqlMapper in
def main (arguments : List String) : IO UInt32 := do
  let started ← IO.monoMsNow
  let surroundings ← Main.readSurroundings
  let elapsed := toString ((← IO.monoMsNow) - started) ++ "ms"
  let release := Release.running "lean" "lean"
  let done := CommandLine.run ⟨surroundings, Main.unreachable, false, release, elapsed⟩ arguments
  IO.print (done.help ++ done.session.output)
  IO.eprint done.session.errors
  for entry in done.session.log.filter (Log.Entry.shown done.verbose) do
    IO.eprintln (← Main.logLine started entry)
  done.session.volume.entries.forM (Main.carryOut surroundings.volume)
  if let some error := done.error then
    IO.eprint (Terminal.statusLine .error error.message)
  return done.exitCode
