import ObjectBridge.Data.Dict
import ObjectBridge.Text.Utf8

/-!
# `ObjectBridge.Files.Tree`: a tree of files

Files and directories by path. Paths are cleaned before they are used, so
`a/../b` and `./b` are the same file; every directory above a file is
there with it.
-/

set_option autoImplicit false

namespace ObjectBridge

/-- The parts of a path between its slashes. -/
def pathParts (path : String) : List (List Char) :=
  path.toList.splitOn '/'

namespace Files

/-- Drops empty parts and `.`, and lets `..` cancel the part before it;
at the top of an absolute path `..` has no effect. -/
def cleanParts (absolute : Bool) : (done : List (List Char)) → List (List Char) → List (List Char)
  | done, [] => done.reverse
  | done, part :: rest =>
    if part = [] ∨ part = ['.'] then cleanParts absolute done rest
    else if part = ['.', '.'] then
      match done with
      | [] => cleanParts absolute (if absolute then [] else [part]) rest
      | last :: before =>
        if last = ['.', '.'] then cleanParts absolute (part :: done) rest
        else cleanParts absolute before rest
    else cleanParts absolute (part :: done) rest

/-- The shortest path equal to the given one; nothing at all is `.`. -/
def shorten (path : String) : String :=
  let absolute := path.toList.head? = some '/'
  let parts := cleanParts absolute [] (pathParts path)
  let body := String.ofList (List.intercalate ['/'] parts)
  if absolute then "/" ++ body else if parts = [] then "." else body

/-- The path under which something is kept; the root is `/`, and there is
nothing above it. -/
def clean (path : String) : String :=
  let short := shorten path
  if short = "." ∨ short = ".." then "/" else short

/-- The path of a member of a directory. -/
def join (dir name : String) : String := shorten (if dir = "" then name else dir ++ "/" ++ name)

/-- The paths of the directories above a cleaned path, the root apart. -/
def parents (path : String) : List String :=
  let parts := pathParts path
  (List.range parts.length).filterMap fun n =>
    let front := parts.take n
    if front = [] ∨ front = [[]] then none else some (String.ofList (List.intercalate ['/'] front))

end Files

/-- A tree of files. -/
structure FileTree where
  /-- The contents of files by cleaned path, and none for directories. -/
  entries : Dict String (Option Bytes) := {}
  deriving Inhabited

namespace FileTree

/-- Adds a file, or a directory when there are no contents, and the
directories above it. -/
def add (t : FileTree) (path : String) (contents : Option Bytes) : FileTree :=
  let path := Files.clean path
  let above := (Files.parents path).foldl
    (fun d dir => if d.contains dir then d else d.insert dir none) t.entries
  { entries := above.insert path contents }

/-- A tree with the given files and directories. -/
def ofList (files : List (String × Option Bytes)) : FileTree :=
  files.foldl (fun t f => t.add f.1 f.2) {}

/-- What reading a path gives: a directory reads as empty, and what is
not there cannot be read. -/
def read? (t : FileTree) (path : String) : Option Bytes :=
  let path := Files.clean path
  if path = "/" then some [] else (t.entries.find? path).map (·.getD [])

/-- Is there something at a path? -/
def exists_ (t : FileTree) (path : String) : Bool :=
  let path := Files.clean path
  path = "/" || t.entries.contains path

/-- Is there a directory at a path? -/
def isDir (t : FileTree) (path : String) : Bool :=
  let path := Files.clean path
  path = "/" || t.entries.find? path == some none

/-- The members of a directory: their names, and whether they are
directories. Nothing else has members. -/
def members (t : FileTree) (dir : String) : List (String × Bool) :=
  if !t.isDir dir then []
  else
    let above := pathParts (Files.clean dir)
    t.entries.entries.filterMap fun (path, contents) =>
      let parts := pathParts path
      let inside := if Files.clean dir = "/" then parts.dropLast = [] || parts.dropLast = [[]]
        else parts.dropLast = above
      if inside then some (String.ofList (parts.getLast?.getD []), contents.isNone) else none

end FileTree

end ObjectBridge
