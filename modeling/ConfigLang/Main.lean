import ConfigLang.Cli.Run
/-! The program: gathers the files that a command line names, runs the command, prints. -/
namespace ConfigLang.Main

open ConfigLang.Cli

/-- The paths that a command may read; of a directory that is checked, everything in it. -/
def pathsOf : Request → List String
  | .run ⟨_, _, .eval file argument _⟩ => file :: argument.toList
  | .run ⟨_, _, .tokens file _⟩ => [file]
  | .run ⟨_, _, .tree file⟩ => [file]
  | .run ⟨_, _, .check directory⟩ =>
    let beside := [expectedPath directory, argumentPath directory]
    directory :: beside
  | _ => []

/-- Adds a path with all that lies below it. -/
partial def gather (tree : FileTree) (path : String) : IO FileTree := do
  let place := System.mkFilePath [path]
  if ← place.isDir then
    let mut tree := tree.addDirectory path
    for entry in ← place.readDir do
      tree ← gather tree (joinPath path [entry.fileName])
    return tree
  else if ← place.pathExists then
    let bytes ← IO.FS.readBinFile place
    return tree.addFile path (String.fromUTF8? bytes)
  else return tree

end ConfigLang.Main

def main (words : List String) : IO UInt32 := do
  let request := ConfigLang.Cli.Request.ofWords words
  let mut disk := ConfigLang.FileTree.empty
  for path in ConfigLang.Main.pathsOf request do
    disk ← ConfigLang.Main.gather disk path
  let outcome := request.answer disk
  IO.print outcome.stdout
  IO.eprint outcome.stderr
  return outcome.code.toUInt32
