/-
  ChangeFeed.Config.Files — a tree of files and directories.

  Paths are resolved component by component, and each component has to be
  looked up in a directory that is there; so `a/../b` needs an `a`.  The
  normal form of a path, by contrast, depends on its text alone.  One
  directory below the root, the home, is written without a slash in front of
  it, and a path that starts with its name starts at the root.

  A change that fails may have changed something before; so each change comes
  with the tree that it leaves.
-/

import ChangeFeed.Failure

namespace ChangeFeed.Config

/-- The names on the way from the root to a file or directory. -/
abbrev Path := List String

/-- Files and directories below a root. -/
structure Files where
  /-- The name of the home directory; empty if there is none. -/
  home : String
  directories : List Path
  files : List (Path × Octets)
  /-- The directory that relative paths start at. -/
  current : Path
deriving Repr

namespace Files

/-! ## §1. Looking things up. -/

/-- The places on the way to a place, itself included, from the root down. -/
def downTo (p : Path) : List Path := (List.range p.length).map fun i => p.take (i + 1)

/-- A tree without files and without a home. -/
def bare : Files := ⟨"", [], [], []⟩

/-- A tree without files in which there is a home of this name; relative
    paths start there. -/
def withHome (name : String) : Files := ⟨name, [[name]], [], [name]⟩

/-- The content of the file at a place. -/
def content? (t : Files) (p : Path) : Option Octets := t.files.lookup p

/-- Is there a directory at this place?  The root is one. -/
def isDirectory (t : Files) (p : Path) : Bool := p.isEmpty || t.directories.contains p

/-- Does a path start with the name of the home? -/
def startsHome (t : Files) (path : String) : Bool := !t.home.isEmpty && path.startsWith t.home

/-- Where a path starts, and its components. -/
def components (t : Files) (path : String) : Path × List String :=
  (if t.startsHome path || path.startsWith "/" then [] else t.current, path.splitOn "/")

/-- The most octets that a name may have. -/
def nameLimit : Nat := 255

/-- Paths have fewer octets than this. -/
def pathLimit : Nat := 4096

/-- Is it too long for a name? -/
def isLong (name : String) : Bool := nameLimit < name.utf8ByteSize

/-- Has to be a directory. -/
def checkDirectory (t : Files) (p : Path) : Except FileFault Unit :=
  if t.isDirectory p then .ok ()
  else .error (if (t.content? p).isSome then .notDirectory else .notFound)

/-- Goes on from a place, which has to be a directory unless the way ends
    there. -/
def walk (t : Files) (p : Path) : List String → Except FileFault Path
  | [] => .ok p
  | name :: rest => do
    t.checkDirectory p
    if name = "" ∨ name = "." then t.walk p rest
    else if name = ".." then t.walk p.dropLast rest
    else if isLong name then .error .nameTooLong
    else t.walk (p ++ [name]) rest

/-- Refuses texts that are no paths at all. -/
def checkPath (path : String) : Except FileFault Unit :=
  if path.contains '\x00' then .error .nullInPath
  else if path.isEmpty then .error .notFound
  else if pathLimit ≤ path.utf8ByteSize then .error .nameTooLong
  else .ok ()

/-- The place that a path leads to; nothing need be there. -/
def resolve (t : Files) (path : String) : Except FileFault Path := do
  checkPath path
  let (start, names) := t.components path
  t.walk start names

/-- Does the path lead to a place of this sort? -/
def leadsTo (t : Files) (what : Path → Bool) (path : String) : Bool :=
  match t.resolve path with
  | .ok p => what p
  | .error _ => false

/-- Where the last component of a path stands in its directory. -/
inductive Ending where
  /-- There is nothing by which the directory would be left. -/
  | stays
  /-- The name of something in the directory; a slash behind it says that it
      is a directory itself. -/
  | names (directory : Path) (name : String) (slash : Bool)

/-- Follows a path up to its last component. -/
def ending (t : Files) (path : String) : Except FileFault Ending := do
  checkPath path
  let (start, names) := t.components path
  let bare := (names.reverse.dropWhile String.isEmpty).reverse
  match bare.getLast? with
  | none => pure .stays
  | some name => do
    let p ← t.walk start bare.dropLast
    t.checkDirectory p
    if name = "." ∨ name = ".." then pure .stays
    else pure (.names p name (bare.length < names.length))

/-- Is there a file at the end of the path? -/
def isFile (t : Files) (path : String) : Bool := t.leadsTo (fun p => (t.content? p).isSome) path

/-- Is there a directory at the end of the path? -/
def endsInDirectory (t : Files) (path : String) : Bool := t.leadsTo t.isDirectory path

/-- The content of the file at the end of a path. -/
def read (t : Files) (path : String) : Except FileFault Octets := do
  let p ← t.resolve path
  match t.content? p with
  | some content => .ok content
  | none => .error (if t.isDirectory p then .isDirectory else .notFound)

/-! ## §2. Normal forms. -/

/-- One step along a path, by its text alone. -/
def normalStep (p : Path) (name : String) : Path :=
  if name = "" ∨ name = "." then p else if name = ".." then p.dropLast else p ++ [name]

/-- The place that a path names by its text alone. -/
def normal (t : Files) (path : String) : Path :=
  let (start, names) := t.components path
  names.foldl normalStep start

/-- The text of a place. -/
def textOf (t : Files) (p : Path) : String :=
  let text := "/".intercalate p
  if t.startsHome text then text else "/" ++ text

/-- How many slashes a path starts with, the one before the home included. -/
def slashes (t : Files) (path : String) : Nat :=
  let rest := path.toList.dropWhile (· == '/')
  path.length - rest.length + (if t.startsHome (String.ofList rest) then 1 else 0)

/-- The path from the root, in its normal form.  Two slashes in front, and no
    more than two, are kept. -/
def absolute (t : Files) (path : String) : String :=
  (if t.slashes path = 2 then "/" else "") ++ t.textOf (t.normal path)

/-- A path up to its last slash, without the slashes there, and what follows
    the last slash. -/
def splitLast (path : String) : String × String :=
  let reversed := path.toList.reverse
  let last := reversed.takeWhile (· != '/')
  let before := reversed.drop last.length
  let bare := before.dropWhile (· == '/')
  (String.ofList (if bare.isEmpty then before else bare).reverse, String.ofList last.reverse)

/-! ## §3. Changes. -/

/-- A change that fails leaves the tree as it is. -/
def orUnchanged (t : Files) : Except FileFault Files → Except FileFault Unit × Files
  | .ok changed => (.ok (), changed)
  | .error fault => (.error fault, t)

/-- Makes one directory. -/
def makeDirectory (t : Files) (path : String) : Except FileFault Files := do
  match ← t.ending path with
  | .stays => .error .alreadyExists
  | .names p name _ =>
    let place := p ++ [name]
    if isLong name then .error .nameTooLong
    else if t.isDirectory place || (t.content? place).isSome then .error .alreadyExists
    else .ok { t with directories := t.directories ++ [place] }

/-- Makes one directory unless it is there. -/
def ensureDirectory (t : Files) (path : String) : Except FileFault Unit × Files :=
  match t.makeDirectory path with
  | .ok changed => (.ok (), changed)
  | .error fault => (if t.endsInDirectory path then .ok () else .error fault, t)

/-- Makes the directory at the end of a path, and those on the way to it;
    `fuel` bounds how many. -/
def makeDirectories (t : Files) (path : String) : Nat → Except FileFault Unit × Files
  | 0 => t.ensureDirectory path
  | fuel + 1 =>
    let (before, last) := splitLast path
    let (before, last) := if last.isEmpty then splitLast before else (before, last)
    let there (p : Path) : Bool := t.isDirectory p || (t.content? p).isSome
    if before.isEmpty || last.isEmpty || t.leadsTo there before then t.ensureDirectory path
    else
      match t.makeDirectories before fuel with
      | (.ok (), t) | (.error .alreadyExists, t) =>
        if last = "." then (.ok (), t) else t.ensureDirectory path
      | (.error fault, t) => (.error fault, t)

/-- Makes the directory at the end of a path, and those on the way to it. -/
def makePath (t : Files) (path : String) : Except FileFault Unit × Files :=
  t.makeDirectories path path.length

/-- Writes the file at a place. -/
def put (t : Files) (p : Path) (content : Octets) : Files :=
  { t with files := (p, content) :: t.files.filter (·.1 != p) }

/-- Removes the file at a place. -/
def erase (t : Files) (p : Path) : Files :=
  { t with files := t.files.filter (·.1 != p) }

/-- Writes the file at the end of a path; its directory has to be there. -/
def overwrite (t : Files) (path : String) (content : Octets) : Except FileFault Files := do
  match ← t.ending path with
  | .stays => .error .isDirectory
  | .names p name slash =>
    if slash || t.isDirectory (p ++ [name]) then .error .isDirectory
    else if isLong name then .error .nameTooLong
    else .ok (t.put (p ++ [name]) content)

/-- Writes a file.  Directories are made for the path's normal form; the path
    itself then has to lead somewhere. -/
def write (t : Files) (path : String) (content : Octets) : Except FileFault Unit × Files :=
  let directory := (splitLast (t.absolute path)).1
  match if directory.isEmpty then (.ok (), t) else t.makePath directory with
  | (.ok (), t) => t.orUnchanged (t.overwrite path content)
  | (.error fault, t) => (.error fault, t)

/-- Removes a file. -/
def remove (t : Files) (path : String) : Except FileFault Files := do
  match ← t.ending path with
  | .stays => .error .isDirectory
  | .names p name slash =>
    let place := p ++ [name]
    if isLong name then .error .nameTooLong
    else if t.isDirectory place then .error .isDirectory
    else if (t.content? place).isNone then .error .notFound
    else if slash then .error .notDirectory
    else .ok (t.erase place)

/-- Lets relative paths start elsewhere. -/
def enter (t : Files) (path : String) : Except FileFault Files := do
  let p ← t.resolve path
  t.checkDirectory p
  pure { t with current := p }

end Files

end ChangeFeed.Config
