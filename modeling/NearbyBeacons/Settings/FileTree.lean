/-!
# A tree of files

Just enough of a file system for settings to be saved and loaded: folders and texts under
one top, named by paths with slashes. Repeated slashes and single points in a path mean
nothing, two points lead back up, and whatever a path passes through has to be a folder.
-/

namespace NearbyBeacons

/-- What a path leads to. -/
inductive FileEntry where
  | folder
  | file (text : String)
  deriving DecidableEq, Repr

/-- The files and folders under the top, by their names from the top on. -/
structure FileTree where
  entries : List (List String × FileEntry)
  deriving DecidableEq, Repr

namespace FileTree

/-! ### Paths -/

/-- The parts between the slashes of a path. -/
def segments (path : String) : List (List Char) := path.toList.splitOn '/'

/-- A part that means nothing. -/
def isIdle (part : List Char) : Bool := part == [] || part == ['.']

/-- The parts of a path that lead somewhere. -/
def parts (path : String) : List String :=
  ((segments path).filter (!isIdle ·)).map String.ofList

/-- The part that leads back up. -/
def up : String := ".."

/-- Whether a path ends in such a way that only a folder can be there. -/
def demandsFolder (path : String) : Bool :=
  (segments path).getLast?.all fun part => isIdle part || String.ofList part == up

/-- The length in bytes of the longest path under the top. -/
def longestPath : Nat := 4064

/-- Whether a path is short enough to lead anywhere. -/
def isPath (path : String) : Bool := path.utf8ByteSize ≤ longestPath

/-- The path of the folder around what a path leads to. -/
def parent (path : String) : String :=
  let around := ((segments path).reverse.dropWhile isIdle).tail.dropWhile isIdle
  String.ofList (['/'].intercalate around.reverse)

/-! ### Looking up -/

/-- What is called by the given names; the top is a folder. -/
def entry? (t : FileTree) (names : List String) : Option FileEntry :=
  if names = [] then some .folder else t.entries.lookup names

/-- The names of what parts lead to, starting from `names`. What the last part leads to
need not be there. -/
def walk? (t : FileTree) (names : List String) : List String → Option (List String)
  | [] => some names
  | part :: rest =>
    if t.entry? names = some .folder then
      walk? t (if part = up then names.dropLast else names ++ [part]) rest
    else none

/-- What a path leads to. -/
def find? (t : FileTree) (path : String) : Option FileEntry :=
  if isPath path then
    match (t.walk? [] (parts path)).bind t.entry? with
    | some (.file text) => if demandsFolder path then none else some (.file text)
    | found => found
  else none

/-! ### Writing -/

/-- Whether something can be called by a name: it is short and does not contain the null
character. -/
def isName (name : String) : Bool := name.utf8ByteSize ≤ 255 && name.toList.all (· != '\x00')

/-- Makes the folders that parts lead through, starting from the folder `names`, unless a
file is in the way. -/
def makeFolders? (t : FileTree) (names : List String) : List String → Option FileTree
  | [] => some t
  | part :: rest =>
    if part = up then makeFolders? t names.dropLast rest
    else
      let here := names ++ [part]
      match t.entry? here with
      | some .folder => makeFolders? t here rest
      | some (.file _) => none
      | none =>
        if isName part then makeFolders? ⟨t.entries ++ [(here, .folder)]⟩ here rest else none

/-- Makes the folders around what a path leads to. -/
def makeAround? (t : FileTree) (path : String) : Option FileTree :=
  if isPath (parent path) then t.makeFolders? [] (parts path).dropLast else none

/-- The tree with a file in place of what was called by the given names. -/
def put (t : FileTree) (names : List String) (text : String) : FileTree :=
  ⟨(names, .file text) :: t.entries.filter fun entry => entry.1 != names⟩

/-- Writes a file. The folder around it has to be there, and no folder where it goes. -/
def write? (t : FileTree) (path text : String) : Option FileTree :=
  match t.walk? [] (parts path) with
  | none => none
  | some names =>
    if isPath path && !demandsFolder path && t.entry? names ≠ some .folder &&
        names.getLast?.all isName then
      some (t.put names text)
    else none

end FileTree

end NearbyBeacons
