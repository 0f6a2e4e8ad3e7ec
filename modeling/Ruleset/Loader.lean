import Ruleset.Files
import Ruleset.Registry.Lifecycle
import Ruleset.Xml.Document
import Ruleset.Ron.Decode

/-!
# Loading rules from text and files

The ways rules reach a registry: an XML text, a file of the directory, or every rule file
under a directory; and the load options from a RON file.

* A file's failure, whatever its cause, is reported in that file (`LoadError.inFile`).
* A directory walk that does not start at a directory fails at once. Otherwise it visits the
  names inside in byte order, goes down into directories, and loads the files whose extension
  is exactly `xml` (some text, a dot, `xml`). The first failure ends the walk; the files
  loaded before it stay loaded, so the walk answers the registry it reached beside the
  outcome.
* Finishing spends the loader: it answers the registry finalized, or the registry's
  failure. A loader that continues from a registry holds it reopened (`Registry.reopen`).
-/

namespace Ruleset

/-- Why loading rules fails. -/
inductive LoadError where
  | io (e : IoError)
  | xml (e : Xml.Error)
  | ron (e : Ron.Error)
  | registry (e : RegistryError)
  /-- A failure while loading the file displayed as `shown`. -/
  | inFile (shown : String) (inner : LoadError)

namespace LoadError

def message : LoadError → String
  | .io e => "IO error: " ++ e.message
  | .xml e => "XML error: " ++ e.message
  | .ron e => "RON parse error: " ++ e.message
  | .registry e => e.message
  | .inFile shown inner => shown ++ ": " ++ inner.message

/-- The name of the failure's kind; a registry failure is named by its own kind. -/
def kind : LoadError → String
  | .io _ => "Io"
  | .xml _ => "Xml"
  | .ron _ => "Ron"
  | .registry e => e.kind
  | .inFile _ _ => "InFile"

/-- The registry failure behind a failure, looking through the file it happened in. -/
def registryError? : LoadError → Option RegistryError
  | .registry e => some e
  | .inFile _ inner => inner.registryError?
  | _ => none

@[simp] theorem registryError?_inFile (shown : String) (e : LoadError) :
    (inFile shown e).registryError? = e.registryError? := rfl

@[simp] theorem kind_inFile (shown : String) (e : LoadError) : (inFile shown e).kind = "InFile" :=
  rfl

@[simp] theorem message_inFile (shown : String) (e : LoadError) :
    (inFile shown e).message = shown ++ ": " ++ e.message := rfl

end LoadError

namespace Loader

/-- A load that leaves the registry as it was when it fails. -/
abbrev Loading := Except LoadError (Registry × LoadReport)

/-- Loads the rules of an XML text. -/
def loadText (r : Registry) (text : String) : Loading :=
  match Xml.readDocument text with
  | .error (.markup e) => .error (.xml e)
  | .error (.malformed m) => .error (.registry (.malformed m))
  | .ok doc => (r.load doc).mapError .registry

/-- Loads the rule file at a place, displayed as `shown`. -/
def loadAt (fs : Files) (r : Registry) (place : List String) (shown : String) : Loading :=
  (((fs.readAt place).mapError LoadError.io) >>= loadText r).mapError (.inFile shown)

/-- Loads the rule file a path leads to. -/
def loadFile (fs : Files) (r : Registry) (path : String) : Loading :=
  let shown := fs.display path
  match fs.resolve path with
  | .ok place => loadAt fs r place shown
  | .error e => .error (.inFile shown (.io e))

/-- Whether a name's extension is exactly `xml`: it ends with `.xml` after some text. -/
def isRuleFile (name : String) : Bool := name.endsWith ".xml" && name.length > 4

/-- Loads the rule files inside the directory at a place, displayed as `shown`, and below it,
with one level of fuel per level of the tree. -/
def walk (fs : Files) : Nat → Registry → List String → String →
    Registry × Except LoadError LoadReport
  | 0, r, _, _ => (r, .ok {})
  | fuel + 1, r, place, shown =>
    (fs.names place).foldl
      (fun (acc : Registry × Except LoadError LoadReport) name =>
        match acc with
        | (r, .error e) => (r, .error e)
        | (r, .ok report) =>
          let child := place ++ [name]
          let childShown := Files.displayInside shown name
          if fs.isDirectory child then
            let (r, outcome) := walk fs fuel r child childShown
            (r, outcome.map (report + ·))
          else if isRuleFile name then
            match loadAt fs r child childShown with
            | .ok (r, more) => (r, .ok (report + more))
            | .error e => (r, .error e)
          else (r, .ok report))
      (r, .ok {})

/-- Loads every rule file under the directory a path leads to; the registry reached and the
summed report, or the first failure. -/
def loadDirectory (fs : Files) (r : Registry) (path : String) :
    Registry × Except LoadError LoadReport :=
  let shown := fs.display path
  match fs.resolve path with
  | .ok place =>
    if fs.isDirectory place then walk fs (fs.depth + 1) r place shown
    else (r, .error (.io (.notADirectory shown)))
  | .error _ => (r, .error (.io (.notADirectory shown)))

/-- The load options of a RON file. -/
def loadOptionsFile (fs : Files) (path : String) : Except LoadError LoadOptions :=
  let read : Except LoadError LoadOptions := do
    let text ← (fs.read path).mapError LoadError.io
    (Ron.decode Ron.readOptions text).mapError LoadError.ron
  read.mapError (.inFile (fs.display path))

@[simp] theorem walk_zero (fs : Files) (r : Registry) (place : List String) (shown : String) :
    walk fs 0 r place shown = (r, .ok {}) := rfl

/-- Finalizes the registry being loaded: the finalized registry, or the registry's failure. -/
def finish (r : Registry) : Except LoadError Registry :=
  r.finalize.mapError .registry

end Loader

end Ruleset
