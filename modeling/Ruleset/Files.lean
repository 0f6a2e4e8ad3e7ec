import Ruleset.Text.Quoted

/-!
# A directory of rule files

A directory tree given as data: every place named in it, each a file with its text or a
directory. The root is a directory, and so is every place that leads to a named one.

A path is read from the root one `/`-separated component at a time. Each step needs a
directory where it starts: a name goes down into it, `..` goes up (not above the root), and
`.` or an empty component (a doubled or trailing `/`) stays. A step from a missing place
fails with `IoError.notFound`, a step from a file with `IoError.notDirectory`; reading a
directory fails with `IoError.isDirectory`. A path that holds a NUL character is refused before
any step (`IoError.nulInName`).

Places are shown under the root's name: the path after `root/`, or the root's name alone for
the empty path.
-/

namespace Ruleset

/-- What is at a place of the tree. -/
inductive Item where
  | file (text : String)
  | directory
  deriving DecidableEq, Repr

/-- Why a place cannot be read. -/
inductive IoError where
  | notFound
  | isDirectory
  | notDirectory
  /-- The path holds a NUL character, which no file name may hold. -/
  | nulInName
  /-- A directory walk asked for where there is no directory; the path as shown. -/
  | notADirectory (shown : String)
  deriving DecidableEq, Repr

def IoError.message : IoError → String
  | .notFound => "No such file or directory (os error 2)"
  | .isDirectory => "Is a directory (os error 21)"
  | .notDirectory => "Not a directory (os error 20)"
  | .nulInName => "file name contained an unexpected NUL byte"
  | .notADirectory shown => "Not a directory: " ++ Text.quotePath shown

/-- A directory tree: the name its root is shown by, and the items at their places. -/
structure Files where
  root : String
  items : List (List String × Item)

namespace Files

/-- What is at a place: a named item, or a directory at the root and above a named place. -/
def itemAt (fs : Files) (place : List String) : Option Item :=
  if place.isEmpty then some .directory
  else
    match fs.items.find? (·.1 == place) with
    | some (_, item) => some item
    | none => if fs.items.any fun e => place.isPrefixOf e.1 then some .directory else none

/-- Whether there is a directory at the place. -/
def isDirectory (fs : Files) (place : List String) : Bool := fs.itemAt place == some .directory

/-- The place reached from `place` by the components, each step starting at a directory. -/
def walkFrom (fs : Files) : List String → List String → Except IoError (List String)
  | place, [] => .ok place
  | place, c :: rest =>
    match fs.itemAt place with
    | none => .error .notFound
    | some (.file _) => .error .notDirectory
    | some .directory =>
      let next :=
        if c == "" || c == "." then place else if c == ".." then place.dropLast else place ++ [c]
      fs.walkFrom next rest

/-- The place a path leads to from the root; a path holding NUL leads nowhere. -/
def resolve (fs : Files) (path : String) : Except IoError (List String) :=
  if path.contains '\x00' then .error .nulInName else fs.walkFrom [] (path.splitOn "/")

/-- The text of the file at a place. -/
def readAt (fs : Files) (place : List String) : Except IoError String :=
  match fs.itemAt place with
  | none => .error .notFound
  | some .directory => .error .isDirectory
  | some (.file text) => .ok text

/-- The text of the file a path leads to. -/
def read (fs : Files) (path : String) : Except IoError String :=
  fs.resolve path >>= fs.readAt

/-- The names directly inside the place, each once, in byte order. -/
def names (fs : Files) (place : List String) : List String :=
  let inside := fs.items.filterMap fun e =>
    if place.isPrefixOf e.1 then (e.1.drop place.length).head? else none
  inside.eraseDups.mergeSort fun a b => !(b < a)

/-- A path as displayed. -/
def display (fs : Files) (path : String) : String :=
  if path.isEmpty then fs.root else fs.root ++ "/" ++ path

/-- A name inside a shown directory, with one separator between them. -/
def displayInside (shown name : String) : String :=
  if shown.endsWith "/" then shown ++ name else shown ++ "/" ++ name

/-- How deep the tree goes: no walk down from the root takes more steps. -/
def depth (fs : Files) : Nat := fs.items.foldl (fun n e => max n e.1.length) 0

@[simp] theorem itemAt_root (fs : Files) : fs.itemAt [] = some .directory := rfl

@[simp] theorem isDirectory_root (fs : Files) : fs.isDirectory [] = true := rfl

@[simp] theorem walkFrom_nil (fs : Files) (place : List String) : fs.walkFrom place [] = .ok place :=
  rfl

theorem read_eq (fs : Files) (path : String) : fs.read path = (fs.resolve path >>= fs.readAt) :=
  rfl

@[simp] theorem readAt_directory (fs : Files) (place : List String)
    (h : fs.itemAt place = some .directory) : fs.readAt place = .error .isDirectory := by
  simp [readAt, h]

end Files

end Ruleset
