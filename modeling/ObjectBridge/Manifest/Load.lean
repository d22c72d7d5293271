import ObjectBridge.Manifest.Json
import ObjectBridge.Manifest.Toml
import ObjectBridge.Manifest.Yaml
import ObjectBridge.Files.Glob
import ObjectBridge.Text.Quoted

/-!
# `ObjectBridge.Manifest.Load`: manifests out of files

The extension of a path tells the format. A single file is read, parsed
and checked. A pattern collects manifests from many files: each is laid
over those before it, in the order of their paths, and only the result is
checked.
-/

set_option autoImplicit false

namespace ObjectBridge

/-! ### Formats -/

/-- A format a manifest can be written in. -/
inductive ManifestFormat
  | yaml
  | toml
  | json
  deriving DecidableEq, Repr

namespace ManifestFormat

/-- The name of the format. -/
def name : ManifestFormat → String
  | .yaml => "yaml"
  | .toml => "toml"
  | .json => "json"

/-- The format with a given name; the letter case counts. -/
def ofName? (s : String) : Option ManifestFormat :=
  [yaml, toml, json].find? (·.name = s)

/-- The extension of a path: from the last dot of its last part on, empty
when that part has none. -/
def extension (path : String) : List Char :=
  let part := path.toList.reverse.takeWhile (· ≠ '/')
  if '.' ∈ part then (part.takeWhile (· ≠ '.') ++ ['.']).reverse else []

/-- The format a path's extension stands for, whatever its letter case. -/
def ofPath? (path : String) : Option ManifestFormat :=
  match String.ofList (Letter.lower (extension path)) with
  | ".yaml" => some .yaml
  | ".yml" => some .yaml
  | ".toml" => some .toml
  | ".json" => some .json
  | _ => none

end ManifestFormat

namespace Manifest

/-! ### Files -/

/-- Why there is no manifest. -/
inductive LoadError
  /-- No format goes by this name. -/
  | unknownFormat (name : String)
  /-- No format goes with the extension of this path. -/
  | unknownExtension (path : String)
  | malformed (format : ManifestFormat)
  | malformedFile (path : String) (format : ManifestFormat)
  | misfit (m : Misfit)
  | noFile (path : String)
  | badPattern (pattern : String)
  | noMatch (pattern : String)
  | invalid (path : String) (problems : List Problem)
  | invalidSet (pattern : String) (problems : List Problem)
  deriving DecidableEq, Repr

/-- The text of the error. -/
def LoadError.message : LoadError → String
  | .unknownFormat name => "unknown manifest format: " ++ Quoted.quote name
  | .unknownExtension path => "unknown manifest format: " ++ path
  | .malformed format => "failed to parse " ++ format.name ++ " manifest"
  | .malformedFile path format => path ++ ": failed to parse " ++ format.name ++ " manifest"
  | .misfit m => m.message?.getD ""
  | .noFile path => "failed to read manifest: open " ++ Files.clean path ++ ": file does not exist"
  | .badPattern pattern => "bad manifest pattern " ++ Quoted.quote pattern ++
    ": syntax error in pattern"
  | .noMatch pattern => "no manifest matches " ++ Quoted.quote pattern
  | .invalid path problems => "invalid manifest " ++ path ++ ": " ++ Problem.messages problems
  | .invalidSet pattern problems =>
    "invalid manifest set " ++ Quoted.quote pattern ++ ": " ++ Problem.messages problems

/-- Reads a manifest in a format. Bytes that are no text are refused in
TOML, replaced in YAML and kept in JSON. -/
def parse (format : ManifestFormat) (data : Bytes) : Except Refusal Manifest :=
  match format with
  | .yaml => ofYaml data.toStringLossy
  | .toml =>
    match data.toString? with
    | some text => ofToml text
    | none => .error .malformed
  | .json =>
    match ofJson? data with
    | some m => .ok m
    | none => .error .malformed

/-- A refusal as a reason why there is no manifest, given the one for
documents that are not well formed. -/
def Refusal.toLoadError (malformed : LoadError) : Refusal → LoadError
  | .malformed => malformed
  | .misfit m => .misfit m

/-- Reads a manifest in the format with a given name. -/
def parseNamed (format : String) (data : Bytes) : Except LoadError Manifest :=
  match ManifestFormat.ofName? format with
  | none => .error (.unknownFormat format)
  | some f => (parse f data).mapError (Refusal.toLoadError (.malformed f))

/-- Reads the manifest in a file, unchecked. -/
def readFile (files : FileTree) (path : String) : Except LoadError Manifest :=
  match ManifestFormat.ofPath? path with
  | none => .error (.unknownExtension path)
  | some format =>
    match files.read? path with
    | none => .error (.noFile path)
    | some data => (parse format data).mapError (Refusal.toLoadError (.malformedFile path format))

/-- Reads and checks the manifest in a file. -/
def load (files : FileTree) (path : String) : Except LoadError Manifest := do
  let m ← readFile files path
  if m.isValid then return m else throw (.invalid path m.problems)

/-- Reads the manifests whose paths match a pattern, lays them over each
other and checks the result. -/
def loadGlob (files : FileTree) (pattern : String) : Except LoadError Manifest := do
  match files.glob? pattern with
  | none => throw (.badPattern pattern)
  | some [] => throw (.noMatch pattern)
  | some paths =>
    let m := mergeAll (← paths.mapM (readFile files))
    if m.isValid then return m else throw (.invalidSet pattern m.problems)

end Manifest

end ObjectBridge
