import PagedList.Program

/-! The program as it is started: it gathers what it finds around it, and prints. -/
namespace PagedList
namespace Main

def processVariables : IO Variables := do
  try
    let bytes ← IO.FS.readBinFile "/proc/self/environ"
    let entries := (Text.decodeLossy bytes).splitOn "\x00"
    pure (entries.filterMap fun e =>
      (CommandLine.splitPair e.toList).map fun (k, v) => (String.ofList k, String.ofList v))
  catch _ => pure []

def folderOf (path : String) : String :=
  let names := path.splitOn "/"
  if names.length = 1 then "" else String.intercalate "/" names.dropLast ++ "/"

def gather (here : List String) (root : FileTree) (path : String) : IO FileTree := do
  try
    if ← ((← IO.currentDir) / path).isDir then
      pure ((root.createFolders here path).toOption.getD root)
    else
      let bytes ← IO.FS.readBinFile path
      let folder := folderOf path
      let name := (path.splitOn "/").getLastD ""
      let withFolder := (root.createFolders here folder).toOption.getD root
      pure ((withFolder.write here folder name bytes).toOption.getD root)
  catch _ => pure root

def gatherFiles (here words : List String) (vars : Variables) : IO FileTree := do
  let configDir := Folders.config vars none
  let names := Settings.Format.all.flatMap Settings.Format.fileNames
  let root := ((FileTree.folder []).makeFolders [] here).toOption.getD (.folder [])
  let root ← (names.map (joinPath configDir)).foldlM (gather here) root
  let given := (CommandLine.parse words).toOption.bind (·.fixture)
  let set := (Settings.load root here configDir "" vars).toOption.bind (·.fixture)
  (given.toList ++ set.toList).foldlM (gather here) root

def prepareLog (vars : Variables) : IO Bool := do
  let folder := Folders.data vars none
  try
    if !folder.isEmpty then IO.FS.createDirAll folder
    IO.FS.writeBinFile (joinPath folder Folders.logName) ByteArray.empty
    pure true
  catch _ => pure false

def report (failure : Program.Failure) : IO UInt32 := do
  IO.eprintln (Folders.programName ++ " error: Something went wrong")
  failure.chain.forM fun line => IO.eprintln line
  pure (UInt32.ofNat failure.exitCode)

/-- Prints the walk page by page. -/
partial def walkOn (p : Program.Plan) (w : Walk) : IO UInt32 := do
  IO.sleep (UInt32.ofNat p.arguments.latency)
  p.pageLine? w |>.forM fun line => IO.println line
  if w.goesOn p.arguments.maxPages then walkOn p w.step
  else
    match p.finish w with
    | .error f => report f
    | .ok last => do
      last.forM fun line => IO.println line
      pure 0

def start (words : List String) : IO UInt32 := do
  let vars ← processVariables
  let here := ((← IO.currentDir).toString.splitOn "/").filter (· ≠ "")
  let files ← gatherFiles here words vars
  if !(← prepareLog vars) then return ← report .log
  match Program.prepare ⟨words, vars, files, here, none⟩ with
  | .ok p => walkOn p p.start
  | .error (.about text) => do
    IO.print text
    pure 0
  | .error (.ran output failure) => do
    IO.print output
    match failure with
    | some f => report f
    | none => pure 0

end Main
end PagedList

def main (words : List String) : IO UInt32 := PagedList.Main.start words
