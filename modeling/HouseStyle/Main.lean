import HouseStyle.CommandLine.Run
import HouseStyle.Shell.Workstation

namespace HouseStyle.Console

def placeOf (path : Path) : Place :=
  (Text.splitAt Path.separator path.bytes).foldl (fun place name =>
    if name = [] || name = [Path.dot] then place
    else if name = [Path.dot, Path.dot] then place.dropLast
    else place ++ [name]) []

def textOf (place : Place) : String :=
  (Path.mk (IgnorePath.ofPlace place)).display

def readEntry? (place : Place) : IO (Option Entry) := do
  let path := (← IO.currentDir) / textOf place
  try
    match (← path.symlinkMetadata).type with
    | .dir => pure (some .directory)
    | .file => pure (some (.file (← IO.FS.readBinFile path).toList))
    | .symlink => pure (some (.link (Path.ofText (← IO.FS.realPath path).toString)))
    | .other => pure none
  catch _ => pure none

partial def readPlace (tree : FileTree) (place : Place) : IO FileTree := do
  let mut tree := tree
  for depth in List.range place.length do
    let current := place.take (depth + 1)
    if (tree.get? current).isNone then
      if let some entry ← readEntry? current then
        tree := tree.set current entry
        if let .link target := entry then
          tree ← readPlace tree (placeOf target ++ place.drop (depth + 1))
          return tree
  return tree

partial def readBelow (tree : FileTree) (place : Place) : IO FileTree := do
  let mut tree ← readPlace tree place
  if tree.isDirectoryAt place then
    let path := (← IO.currentDir) / textOf place
    for entry in (← path.readDir) do
      tree ← readBelow tree (place ++ [(Path.ofText entry.fileName).bytes])
  return tree

def readIgnoreFiles (tree : FileTree) (place : Place) : IO FileTree := do
  let mut tree := tree
  for depth in List.range place.length do
    for name in ([".ignore", ".gitignore", ".git/info/exclude", ".jj"] : List Path) do
      tree ← readPlace tree (place.take depth ++ placeOf name)
  return tree

def placeFromHere (path : Path) : IO Place := do
  pure (placeOf (Path.ofText ((← IO.currentDir) / path.display).toString))

def readPath (tree : FileTree) (path : Path) : IO FileTree := do
  readPlace tree (← placeFromHere path)

def readUserFiles (host : Host) : IO Host := do
  let mut host := host
  for home in host.homeDirectory?.toList do
    for name in Path.ofText ".cstyle/config.toml" :: UserIgnore.defaultName ::
        UserIgnore.settingsNames do
      host := { host with tree := ← readPath host.tree (home.join name) }
  for path in (UserIgnore.path? host).toList do
    host := { host with tree := ← readPath host.tree path }
  return host

def namedPaths : CommandLine → List Path
  | .order asked =>
    let settings := asked.settings.toList
    match asked.action with
    | .check options =>
      settings ++ options.files ++ options.output.toList ++ options.directory.toList
    | _ => settings
  | _ => []

def readHost (commandLine : CommandLine) : IO Host := do
  let here := placeOf (Path.ofText (← IO.FS.realPath (← IO.currentDir)).toString)
  let home := (← IO.getEnv "HOME").map Path.ofText
  let settingsDirectory := (← IO.getEnv "CSTYLE_CONFIG_DIR").map Path.ofText
  let mut tree ← readBelow Shell.Workstation.baseTree here
  tree ← readIgnoreFiles tree here
  for path in namedPaths commandLine do
    let place ← placeFromHere path
    tree ← readBelow tree place
    tree ← readIgnoreFiles tree place
  for directory in settingsDirectory.toList do
    tree ← readPath tree (directory.join "config.toml")
  readUserFiles { tree, here, home, settingsDirectory }

def logText (line : LogLine) : String :=
  match line.level with
  | .info => " INFO " ++ line.text
  | .warn => " WARN " ++ line.text

def finish (before : Host) (result : RunResult) : IO UInt32 := do
  for (path, content) in FileTree.changes before.tree result.host.tree [] do
    IO.FS.writeBinFile ("/" ++ path.display) ⟨content.toArray⟩
  for line in result.log do
    IO.eprintln (logText line)
  IO.print result.output
  match result.ending with
  | .finished _ => pure ()
  | .failed failure => IO.eprintln ("Error: " ++ failure.message)
  | .misused => IO.eprintln "error: invalid arguments"
  pure result.ending.exitCode.toUInt32

end HouseStyle.Console

def main (arguments : List String) : IO UInt32 := do
  let commandLine := HouseStyle.CommandLine.parse (arguments.map HouseStyle.Path.ofText)
  let host ← HouseStyle.Console.readHost commandLine
  HouseStyle.Console.finish host
    (commandLine.run HouseStyle.Shell.Workstation.processes host)
