import ConfigLang.FileTree
/-! Fixtures: documents with the value that they are expected to have. A document `NAME.arcl`
is a fixture if there is a `NAME.json` beside it. -/
namespace ConfigLang.Cli

/-- A file name cut at its last dot. A dot in front does not count, nor do two dots alone. -/
def splitName (name : String) : String × Option String :=
  let back := name.toList.reverse
  let ending := back.takeWhile (· ≠ '.')
  match back.dropWhile (· ≠ '.') with
  | _ :: c :: stem =>
    if name = ".." then (name, none)
    else (String.ofList (c :: stem).reverse, some (String.ofList ending.reverse))
  | _ => (name, none)

/-- A path without slashes, and steps to the directory itself, at its end. -/
def trimPath (path : List Char) : List Char :=
  (go path.reverse).reverse
where
  go : List Char → List Char
    | '/' :: rest => go rest
    | '.' :: '/' :: rest => go rest
    | cs => cs

def splitPath (path : String) : String × String :=
  let back := (trimPath path.toList).reverse
  (String.ofList (back.dropWhile (· ≠ '/')).reverse, String.ofList (back.takeWhile (· ≠ '/')).reverse)

def extension? (path : String) : Option String := (splitName (splitPath path).2).2

def withExtension (extension path : String) : String :=
  let (front, name) := splitPath path
  front ++ (splitName name).1 ++ "." ++ extension

def joinPath (directory : String) (names : List String) : String :=
  names.foldl
    (fun path name => if path.toList.getLast? = some '/' then path ++ name else path ++ "/" ++ name)
    directory

def documentExtension : String := "arcl"

def expectedPath (path : String) : String := withExtension "json" path

def argumentPath (path : String) : String := withExtension "arg.json" path

structure Fixture where
  path : String
  names : List String
  deriving Repr, DecidableEq

def Fixture.name (fixture : Fixture) : String := "/".intercalate fixture.names

def isFixture (disk : FileTree) (path : String) : Bool :=
  extension? path == some documentExtension && disk.has (expectedPath path)

def fixtures (disk : FileTree) (directory : String) : Except FileFault (List Fixture) := do
  let (names, _) ← disk.resolve directory
  return ((disk.below names).map fun names => ⟨joinPath directory names, names⟩).filter
    fun fixture => isFixture disk fixture.path

end ConfigLang.Cli
