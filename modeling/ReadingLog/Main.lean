import ReadingLog.Command.Run

/-!
# The command

The files that a run can need are read into a tree, the command is run on the tree, and what it changed is written back.
Files that are no notes are entered without what they hold.
-/

namespace ReadingLog.Main

/-- A location's path, as the system takes it. -/
def systemPath (l : Location) := (IO.FS.DirEntry.mk l.path "").root

/-- What a file holds. -/
def readContent (l : Location) : IO Content := do
  let bytes ← IO.FS.readBinFile l.path
  return match String.fromUTF8? bytes with
    | some s => .text s
    | none => .binary bytes.toList

/-- The tree with an entry; one whose folder is not there is passed over. -/
def enter (t : FileTree) (l : Location) (e : Entry) : FileTree :=
  match t.place l e with
  | .ok t => t
  | .error _ => t

/-- The tree with what stands at a location, if anything does. -/
def readEntry (t : FileTree) (l : Location) (isRead : Bool) : IO FileTree := do
  try
    match (← (systemPath l).metadata).type with
    | .dir => return enter t l .folder
    | .file =>
      let content ← if isRead then readContent l else pure (.text "")
      return enter t l (.file content)
    | _ => return t
  catch _ => return t

/-- The tree with the folders above a location, what stands there, and the settings of each of them. -/
def readUpward (t : FileTree) (l : Location) : IO FileTree :=
  (List.range (l.length + 1)).foldlM (fun t n => do
    let v : Vault := .standing (l.take n)
    let t ← if n = 0 then pure t else readEntry t v.location false
    readEntry (← readEntry t v.settingsFolder false) v.settingsFile true) t

/-- The tree with the notes of a folder and of the folders in it that are not hidden. -/
partial def readNotes (t : FileTree) (l : Location) : IO FileTree := do
  let found ← try (systemPath l).readDir catch _ => pure #[]
  found.foldlM (fun t item => do
    if h : IsName item.fileName then
      let name : Name := ⟨item.fileName, h⟩
      try
        match (← item.path.symlinkMetadata).type with
        | .dir => if name.isHidden then pure t else readNotes (enter t (l ++ [name]) .folder) (l ++ [name])
        | .file => readEntry t (l ++ [name]) (Vault.isNotePath name.text)
        | _ => pure t
      catch _ => pure t
    else pure t) t

/-- The present instant, which is when a file made now was last changed. -/
def now : IO Instant := do
  let (_, path) ← IO.FS.createTempFile
  let changed := (← path.metadata).modified
  IO.FS.removeFile path
  return (Instant.ofSeconds? changed.sec.toNat changed.nsec.toNat).getD .start

/-- Entries that a run has made are written, folders before what is in them. -/
def writeChanges (before after : FileTree) : IO Unit := do
  let made := after.entries.filter fun (l, e) => before.find? l ≠ some e
  for (l, e) in made.mergeSort fun a b => a.1.length ≤ b.1.length do
    match e with
    | .folder => IO.FS.createDir l.path
    | .file (.text s) => IO.FS.writeFile l.path s
    | .file (.binary _) => pure ()

/-- The locations that a run starts from. -/
def startingPoints (surroundings : Command.Surroundings) (words : List String) : List Location :=
  let set := match Command.parse words with
    | .ok (.perform _ (.init path)) => [surroundings.working.resolve path]
    | _ => []
  surroundings.working :: surroundings.named.toList.map surroundings.working.resolve ++ set

/-- A run on the words of the command line, and its exit status. -/
def runOnDisk (words : List String) : IO UInt32 := do
  let working := Location.resolve [] (← IO.currentDir).toString
  let surroundings : Command.Surroundings := ⟨working, ← IO.getEnv "READJOUR_ROOT", ← now⟩
  let spine ← (startingPoints surroundings words).foldlM readUpward (∅ : FileTree)
  let before ← match Vault.discover spine working surroundings.named with
    | .ok v => readNotes spine v.location
    | .error _ => pure spine
  let (after, outcome) := Command.run before surroundings words
  writeChanges before after
  IO.print outcome.out
  IO.eprint outcome.err
  return outcome.exit.toUInt32

end ReadingLog.Main

/-- The command line. -/
def main (words : List String) : IO UInt32 := ReadingLog.Main.runOnDisk words
