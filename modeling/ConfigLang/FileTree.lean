/-! A tree of files, as a program finds it from the directory that it runs in. Reading a file
either gives its text or fails for one of the reasons that a file system has. -/
namespace ConfigLang

/-- Files and directories by the names that lead to them. A file without text holds bytes
that are no UTF-8. Directories that hold a file need no mention. -/
structure FileTree where
  files : List (List String × Option String)
  directories : List (List String)
  deriving Repr, DecidableEq

inductive FileFault
  | notFound
  | notDirectory
  | isDirectory
  | notText
  deriving Repr, DecidableEq

def FileFault.message : FileFault → String
  | notFound => "No such file or directory (os error 2)"
  | notDirectory => "Not a directory (os error 20)"
  | isDirectory => "Is a directory (os error 21)"
  | notText => "stream did not contain valid UTF-8"

namespace FileTree

def empty : FileTree := ⟨[], []⟩

def segments (path : String) : List String :=
  go [] path.toList
where
  go (name : List Char) : List Char → List String
    | [] => [String.ofList name.reverse]
    | c :: rest =>
      if c = '/' then String.ofList name.reverse :: go [] rest else go (c :: name) rest

def origin (path : String) : List String := if path.toList.head? = some '/' then ["/"] else []

/-- The names one step further. Two dots lead back, and outside if there is no way back. -/
def step (names : List String) (name : String) : List String :=
  if name = "" ∨ name = "." then names
  else if name = ".." then
    if names.isEmpty ∨ names.getLast? = some ".." then names ++ [".."] else names.dropLast
  else names ++ [name]

def namesOf (path : String) : List String := (segments path).foldl step (origin path)

def addFile (tree : FileTree) (path : String) (text : Option String) : FileTree :=
  { tree with files := tree.files ++ [(namesOf path, text)] }

def addDirectory (tree : FileTree) (path : String) : FileTree :=
  { tree with directories := tree.directories ++ [namesOf path] }

inductive Node
  | file (text : Option String)
  | directory
  deriving Repr, DecidableEq

def node? (tree : FileTree) (names : List String) : Option Node :=
  match tree.files.find? (·.1 = names) with
  | some (_, text) => some (.file text)
  | none =>
    if names.isEmpty || tree.directories.contains names ||
      tree.files.any fun (file, _) => names.isPrefixOf file
    then some .directory else none

def follow (tree : FileTree) (names : List String) :
    List String → Except FileFault (List String × Node)
  | [] =>
    match tree.node? names with
    | some node => .ok (names, node)
    | none => .error .notFound
  | segment :: rest =>
    match tree.node? names with
    | none => .error .notFound
    | some (.file _) => .error .notDirectory
    | some .directory => tree.follow (step names segment) rest

def resolve (tree : FileTree) (path : String) : Except FileFault (List String × Node) :=
  if path = "" then .error .notFound else tree.follow (origin path) (segments path)

def has (tree : FileTree) (path : String) : Bool :=
  match tree.resolve path with
  | .ok _ => true
  | .error _ => false

def read (tree : FileTree) (path : String) : Except FileFault String := do
  match ← tree.resolve path with
  | (_, .file (some text)) => return text
  | (_, .file none) => .error .notText
  | (_, .directory) => .error .isDirectory

def comesBefore (a b : List String) : Bool :=
  a.lex b fun name name' =>
    name.toList.lex name'.toList fun c c' => decide (c.toNat < c'.toNat)

def below (tree : FileTree) (names : List String) : List (List String) :=
  let inside := (tree.files.map Prod.fst ++ tree.directories).filterMap fun found =>
    if names.isPrefixOf found then some (found.drop names.length) else none
  let all := [] :: inside.flatMap fun found =>
    (List.range found.length).map fun n => found.take (n + 1)
  all.eraseDups.mergeSort fun a b => !comesBefore b a

end FileTree

end ConfigLang
