import ObjectBridge.Files.Glob.Pattern
import ObjectBridge.Files.Tree

/-!
# `ObjectBridge.Files.Glob`: patterns over paths

A pattern is cut at its last slash: what stands after it is matched
against the names in each directory that what stands before it matches.

Braces list alternatives, which may reach across slashes. They are taken
apart before the names are looked at, the last pair first, at every comma
between them: what is then no pattern is found out only when a name is
compared with it. An alternative that is empty and stands last is left
out.

Patterns with two stars before their end are searched for one alternative
after the other (`search`). For all others the directories for an
alternative are put behind what was found for those before it (`gather`):
so what was found counts as a directory to look into, and what is found
there may take the place of a directory that has not been looked into yet.
-/

set_option autoImplicit false

/-!
## Where paths are put while more are looked for

Paths are put on a shelf one after the other. When it is full they move to
one that is twice as long. A row of paths is the beginning of a shelf, so
rows of different length may share one: what is put behind the shorter row
takes the place of what the longer one holds there.
-/

namespace ObjectBridge.Glob

/-- The beginning of a shelf. -/
structure Row where
  shelf : Nat
  length : Nat
  deriving Repr

/-- All shelves. The first one has no room at all. -/
structure Shelves where
  shelves : Array (Array String) := #[#[]]

/-- Nothing. -/
def Row.empty : Row := ⟨0, 0⟩

namespace Shelves

/-- What stands at a place of a shelf. -/
def at_ (s : Shelves) (shelf place : Nat) : String := (s.shelves.getD shelf #[]).getD place ""

/-- The paths of a row. -/
def paths (s : Shelves) (r : Row) : List String :=
  ((s.shelves.getD r.shelf #[]).extract 0 r.length).toList

/-- Replaces what stands on a shelf. -/
def write (s : Shelves) (shelf : Nat) (paths : Array String) : Shelves :=
  { shelves := s.shelves.setIfInBounds shelf paths }

/-- Puts a path behind a row. -/
def push (s : Shelves) (r : Row) (path : String) : Shelves × Row :=
  let shelf := s.shelves.getD r.shelf #[]
  if r.length < shelf.size then
    (s.write r.shelf (shelf.setIfInBounds r.length path), { r with length := r.length + 1 })
  else
    let longer := (shelf.extract 0 r.length).push path ++ Array.replicate (r.length - 1) ""
    ({ shelves := s.shelves.push longer }, ⟨s.shelves.size, r.length + 1⟩)

/-- Puts paths behind a row. -/
def pushAll (s : Shelves) (r : Row) (paths : List String) : Shelves × Row :=
  paths.foldl (fun (s, r) path => s.push r path) (s, r)

/-- Takes the path at a place out of a row. -/
def drop (shelf : Array String) (length place : Nat) : Array String :=
  shelf.extract 0 place ++ shelf.extract (place + 1) length ++ shelf.extract (length - 1) shelf.size

/-- Merges two runs of paths that stand behind each other in a row, the
second from `mid` on, both in order. What the second has in common with
the first goes. `i` counts through the first. -/
def mergeRuns : (fuel : Nat) → (i mid : Nat) → (shelf : Array String) → (length : Nat) →
    Array String × Nat
  | 0, _, _, shelf, length => (shelf, length)
  | fuel + 1, i, mid, shelf, length =>
    if mid ≤ i then (shelf, length)
    else
      let a := shelf.getD i ""
      let b := shelf.getD mid ""
      if a < b then mergeRuns fuel (i + 1) mid shelf length
      else if b < a then
        let smaller := (shelf.extract (mid + 1) length).toList.takeWhile (· < a)
        let shelf := shelf.setIfInBounds i b
        let shelf := shelf.extract 0 mid ++ smaller.toArray ++ #[a] ++
            shelf.extract (mid + 1 + smaller.length) shelf.size
        mergeRuns fuel (i + 1) mid shelf length
      else
        let shelf := drop shelf length mid
        if mid = length - 1 then (shelf, length - 1)
        else mergeRuns fuel (i + 1) mid shelf (length - 1)

/-- Merges the two runs at the end of a row, one from `start` and one from
`mid` on. -/
def merge (s : Shelves) (r : Row) (start mid : Nat) : Shelves × Row :=
  let (shelf, length) := mergeRuns (mid - start + 1) start mid (s.shelves.getD r.shelf #[]) r.length
  (s.write r.shelf shelf, { r with length })

end Shelves

end ObjectBridge.Glob

namespace ObjectBridge.Glob

/-! ### Directories -/

/-- A directory and everything below it, at most `fuel` levels deep; with
`files` false only directories. -/
def below (t : FileTree) (files : Bool) : (fuel : Nat) → (dir : String) → List String
  | 0, _ => []
  | fuel + 1, dir =>
    dir :: (t.members dir).flatMap fun (name, isDir) =>
      let path := Files.join dir name
      if isDir then below t files fuel path else if files then [path] else []

/-- The members of a directory that match a pattern. -/
def inDirectory (t : FileTree) (dir : String) (pat : List Char) (files : Bool) :
    Option (List String) :=
  if pat = [] then some (if t.isDir dir then [dir] else [])
  else if pat = "**".toList then
    some (if t.isDir dir then below t files (t.entries.entries.length + 1) dir else [])
  else
    (t.members dir).foldlM (fun found (name, isDir) => do
      let hit ← matches_ pat name
      return if hit && (files || isDir) then found ++ [Files.join dir name] else found) []

/-! ### Taking patterns apart -/

/-- How a pattern is worked off. -/
inductive Plan
  /-- It stands for one path. -/
  | path (path : String)
  /-- Names in a directory. -/
  | names (dir : String) (pat : List Char)
  /-- Names in the directories that a pattern matches. -/
  | inside (dirs pat : List Char)
  /-- Alternatives, with what stands in front of them and behind. The part
  in front belongs to directories that a pattern matches, if there is
  one. -/
  | either (dirs : Option (List Char)) (front : List Char) (choices : List (List Char))
    (after : List Char)

/-- The plan for a pattern. -/
def plan (pat : List Char) : Plan :=
  let last := lastOf? fun c => c = '/' || c = '\x7d'
  match firstMeta? 0 pat with
  | none => .path (String.ofList (unescape pat))
  | some start =>
    -- Cuts the pattern at a slash, if there is one.
    let cut (place : Option Nat) : Plan :=
      match place with
      | none => .names "." pat
      | some i =>
        if i ≤ start then .names (String.ofList (pat.take i)) (pat.drop (i + 1))
        else .inside (pat.take i) (pat.drop (i + 1))
    match last pat with
    | none => cut none
    | some i =>
      if pat[i]? = some '/' then cut (some i)
      else
        match opening? (pat.take i) with
        | none => cut (lastOf? (· = '/') (pat.take i))
        | some j =>
          let inner := (pat.take i).drop (j + 1)
          let choices := alternatives (inner.length + 1) inner
          let choices := if choices.getLast? = some [] then choices.dropLast else choices
          let after := pat.drop (i + 1)
          match last (pat.take j) with
          | some k =>
            if pat[k]? = some '/' then .either (some (pat.take k)) ((pat.take j).drop (k + 1))
              choices after
            else .either none (pat.take j) choices after
          | none => .either none (pat.take j) choices after

/-- Is there something at a path, which may end with a slash? -/
def isThere (t : FileTree) (path : String) : Bool :=
  t.exists_ (if 1 < path.length &&
    path.toList.getLast? = some '/' then (path.dropEnd 1).toString else path)

/-- A pattern within a directory. -/
def within (dir : String) (pat : List Char) : List Char :=
  if dir = "" || dir = "." then pat else dir.toList ++ '/' :: pat

/-! ### Searching -/

/-- The results of all members of a list, unless one has none. -/
def forEach {α : Type} (f : α → Option (List String)) (l : List α) : Option (List String) :=
  l.foldlM (fun found x => (f x).map (found ++ ·)) []

/-- The paths that match a pattern; with `files` false only those of
directories count where names are compared. -/
def search (t : FileTree) : (fuel : Nat) → (pat : List Char) → (files : Bool) → Option (List String)
  | 0, _, _ => some []
  | fuel + 1, pat, files =>
    match plan pat with
    | .path path => some (if isThere t path then [path] else [])
    | .names dir pat => inDirectory t dir pat files
    | .inside dirs pat =>
      do forEach (fun dir => inDirectory t dir pat files) (← search t fuel dirs false)
    | .either dirs front choices after => do
      let dirs ← match dirs with
        | some dirs => search t fuel dirs false
        | none => pure [""]
      forEach (fun dir =>
        forEach (fun choice => search t fuel (within dir (front ++ choice ++ after)) files) choices)
          dirs

/-! ### Gathering -/

/-- Paths are gathered on shelves. -/
abbrev Gathering := StateT Shelves Option

/-- Puts paths behind a row, unless there are none because of a broken
pattern. -/
def put (r : Row) (paths : Option (List String)) : Gathering Row := fun s =>
  paths.map fun paths => let (s, r) := s.pushAll r paths; (r, s)

/-- Does something for every place of a row. What stands there is looked
up when its turn comes. -/
def forRow (dirs : Row) (f : String → Row → Gathering Row) (r : Row) : Gathering Row :=
  (List.range dirs.length).foldlM (fun r i => do f ((← get).at_ dirs.shelf i) r) r

/-- Puts the paths that match a pattern behind a row. -/
def gather (t : FileTree) : (fuel : Nat) → (pat : List Char) → (files : Bool) → Row → Gathering Row
  | 0, _, _, r => pure r
  | fuel + 1, pat, files, r =>
    match plan pat with
    | .path path => put r (some (if isThere t path then [path] else []))
    | .names dir pat => put r (inDirectory t dir pat files)
    | .inside dirs pat => do
      forRow (← gather t fuel dirs false r) (fun dir r => put r (inDirectory t dir pat files)) r
    | .either dirs front choices after => do
      let inDir (dir : String) (r : Row) : Gathering Row := do
        let start := r.length
        let add (state : Row × Nat) (choice : List Char) : Gathering (Row × Nat) := do
          let (r, mid) := state
          let r ← gather t fuel (within dir (front ++ choice ++ after)) files r
          if start ≠ mid && mid ≠ r.length then
            let (s, r) := (← get).merge r start mid
            set s
            return (r, r.length)
          else return (r, r.length)
        return (← choices.foldlM add (r, start)).1
      match dirs with
      | some dirs => do forRow (← gather t fuel dirs false r) inDir r
      | none => inDir "" r

end Glob

/-- The paths of a tree that match a pattern, as the search comes across
them; `none` when it is no pattern. -/
def FileTree.found? (t : FileTree) (pattern : String) : Option (List String) :=
  let pat := pattern.toList
  if !Glob.isPattern pat then none
  else
    let longest := t.entries.keys.foldl (fun n path => max n path.length) 0
    let fuel := pat.length + 2 * longest + 2
    if Glob.spans pat then Glob.search t fuel pat true
    else ((Glob.gather t fuel pat true .empty).run {}).map fun (r, s) => s.paths r

/-- The paths of a tree that match a pattern, in order; `none` when it is
no pattern. -/
def FileTree.glob? (t : FileTree) (pattern : String) : Option (List String) :=
  (t.found? pattern).map fun paths => (paths.mergeSort fun a b => a ≤ b).eraseDups

end ObjectBridge
