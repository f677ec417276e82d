import EventPipeline.Dictionary

/-!
# File trees

A tree of directories and files around a working directory, with contents of any type. A path is
followed name by name from the working directory, or from the top if it is absolute: every name but
the last has to be a directory. Nothing is known of what lies outside the working directory, but
that there are the directories above it and the top. An operation that fails says why, and one that
changes the tree gives the changed tree.

Making directories is done one by one, so a failure may leave some of them behind.
-/

namespace EventPipeline

/-- The names that lead from the working directory to a place. A place outside begins with names
that lead upwards, or with the name of the top. -/
abbrev Path := List Text

/-- The name of the top, which no path can hold. -/
def Path.topName : Text := ['/']

/-- The top. -/
def Path.top : Path := [topName]

/-- Whether a name leads to no other place than the one it is looked up in. -/
def Path.isHere (name : Text) : Bool :=
  name.isEmpty || name == ['.']

/-- Whether a name leads to the directory above. -/
def Path.isAbove (name : Text) : Bool :=
  name == ['.', '.']

/-- Whether a place is the working directory or a directory above it. -/
def Path.isOnTheWayUp (place : Path) : Bool :=
  place.all isAbove

/-- The place above a place. -/
def Path.above (place : Path) : Path :=
  if isOnTheWayUp place then place ++ [['.', '.']]
  else if place = top then top
  else place.dropLast

/-- Whether a place lies outside the working directory. -/
def Path.isOutside (place : Path) : Bool :=
  match place with
  | name :: _ => isAbove name || name == topName
  | [] => false

/-- Why a path could not be used. -/
inductive PathError
  /-- There is nothing at the path. -/
  | notFound
  /-- There is a directory at the path. -/
  | isDirectory
  /-- A part of the path that should be a directory is a file. -/
  | notDirectory
  /-- A name or the whole path is longer than a file system allows. -/
  | nameTooLong
  /-- There is something at the path already. -/
  | alreadyExists
  /-- The path holds a null character. -/
  | nullCharacter
  /-- The system does not allow it; this never happens in a tree. -/
  | denied
  deriving DecidableEq, Repr

namespace PathError

/-- The number of a failure. -/
def number : PathError → Nat
  | notFound => 2
  | isDirectory => 21
  | notDirectory => 20
  | nameTooLong => 36
  | alreadyExists => 17
  | nullCharacter => 22
  | denied => 13

/-- The wording of a failure. -/
def message : PathError → Text
  | notFound => "No such file or directory".toList
  | isDirectory => "Is a directory".toList
  | notDirectory => "Not a directory".toList
  | nameTooLong => "File name too long".toList
  | alreadyExists => "File exists".toList
  | nullCharacter => "embedded null byte".toList
  | denied => "Permission denied".toList

end PathError

/-- The path of a name in a directory; a name that is an absolute path stands for itself. -/
def joinPath (directory name : Text) : Text :=
  if name.startsWith ['/'] then name
  else if directory.isEmpty || directory.endsWith ['/'] then directory ++ name
  else directory ++ '/' :: name

/-- What stands at a path. -/
inductive Entry (α : Type)
  /-- A directory. -/
  | directory
  /-- A file with its contents. -/
  | file (contents : α)

/-- The directories and the files around a working directory. -/
structure FileTree (α : Type) where
  /-- The directories, but for the working directory itself, those above it and the top. -/
  directories : List Path
  /-- The files and their contents. -/
  files : Dictionary Path α

namespace FileTree

variable {α : Type}

/-- The tree of an empty working directory. -/
def empty : FileTree α where
  directories := []
  files := []

/-- The tree with the contents of every file put another way. -/
def map {β : Type} (t : FileTree α) (f : α → β) : FileTree β where
  directories := t.directories
  files := Dictionary.mapValues t.files f

/-! ## Places -/

/-- Whether a directory stands at a place. -/
def hasDirectoryAt (t : FileTree α) (path : Path) : Bool :=
  Path.isOnTheWayUp path || path == Path.top || t.directories.contains path

/-- What stands at a place. -/
def at? (t : FileTree α) (path : Path) : Option (Entry α) :=
  if t.hasDirectoryAt path then some .directory
  else (t.files.get? path).map .file

/-- The tree with a file at a place. -/
def putAt (t : FileTree α) (path : Path) (contents : α) : FileTree α :=
  { t with files := t.files.put path contents }

/-- The tree without the file at a place. -/
def removeAt (t : FileTree α) (path : Path) : FileTree α :=
  { t with files := t.files.erase path }

/-- The tree with a directory at a place. -/
def addDirectoryAt (t : FileTree α) (path : Path) : FileTree α :=
  if t.hasDirectoryAt path then t else { t with directories := t.directories ++ [path] }

/-- Putting a file makes no directory. -/
@[simp] theorem hasDirectoryAt_putAt (t : FileTree α) (path other : Path) (contents : α) :
    (t.putAt path contents).hasDirectoryAt other = t.hasDirectoryAt other := rfl

/-- A file that was put where no directory is stands there. -/
theorem at?_putAt_self (t : FileTree α) {path : Path} (contents : α)
    (h : t.hasDirectoryAt path = false) :
    (t.putAt path contents).at? path = some (.file contents) := by
  rw [at?, hasDirectoryAt_putAt, h]
  simp [putAt, Dictionary.get?_put_self]

/-- Putting a file leaves every other place as it is. -/
theorem at?_putAt_of_ne (t : FileTree α) {path other : Path} (contents : α) (h : other ≠ path) :
    (t.putAt path contents).at? other = t.at? other := by
  simp [at?, putAt, Dictionary.get?_put_of_ne _ _ h, hasDirectoryAt]

/-! ## Following paths -/

/-- The greatest number of bytes of a name. -/
def nameLimit : Nat := 255

/-- The greatest number of bytes of a path. -/
def pathLimit : Nat := 4095

/-- The number of bytes of a name or a path. -/
def byteSize (s : Text) : Nat :=
  s.foldl (fun size c => size + c.utf8Size) 0

/-- What makes a path unusable before anything is looked up. -/
def pathFault? (path : Text) : Option PathError :=
  if path.isEmpty then some .notFound
  else if path.contains (Char.ofNat 0) then some .nullCharacter
  else if pathLimit < byteSize path then some .nameTooLong
  else none

/-- The place that a list of names leads to from a place. The last name need not exist. -/
def follow (t : FileTree α) (place : Path) : List Text → Except PathError Path
  | [] => .ok place
  | name :: rest =>
    match t.at? place with
    | none => .error .notFound
    | some (.file _) => .error .notDirectory
    | some .directory =>
      if Path.isHere name then follow t place rest
      else if Path.isAbove name then follow t (Path.above place) rest
      else if nameLimit < byteSize name then .error .nameTooLong
      else follow t (place ++ [name]) rest

/-- The place that a path leads to. -/
def resolve (t : FileTree α) (path : Text) : Except PathError Path :=
  match pathFault? path with
  | some e => .error e
  | none => follow t (if path.startsWith ['/'] then Path.top else []) (path.splitOn '/')

/-- What stands at a path. -/
def find (t : FileTree α) (path : Text) : Except PathError (Entry α) :=
  match t.resolve path with
  | .error e => .error e
  | .ok place =>
    match t.at? place with
    | some entry => .ok entry
    | none => .error .notFound

/-! ## Operations -/

/-- Whether there is something at a path. -/
def exists? (t : FileTree α) (path : Text) : Bool :=
  (t.find path).isOk

/-- Whether there is a file at a path. -/
def isFile (t : FileTree α) (path : Text) : Bool :=
  match t.find path with
  | .ok (.file _) => true
  | _ => false

/-- Whether there is a directory at a path. -/
def isDirectory (t : FileTree α) (path : Text) : Bool :=
  match t.find path with
  | .ok .directory => true
  | _ => false

/-- The contents of the file at a path. -/
def read (t : FileTree α) (path : Text) : Except PathError α :=
  match t.find path with
  | .ok (.file contents) => .ok contents
  | .ok .directory => .error .isDirectory
  | .error e => .error e

/-- A path without the slashes at its end. -/
def withoutSlashes (path : Text) : Text :=
  (path.reverse.dropWhile (· == '/')).reverse

/-- A path up to its last slash, and the name behind it. -/
def splitLast (path : Text) : Text × Text :=
  let name := (path.reverse.takeWhile (· != '/')).reverse
  (path.take (path.length - name.length), name)

/-- The directory that a path up to a slash leads to. -/
def directoryOf (t : FileTree α) (front : Text) : Except PathError Path :=
  t.resolve (front ++ ['.'])

/-- The place of a file that is to be written: a path that ends with a slash can only be that of a
directory, whether there is one or not. -/
def writablePlace (t : FileTree α) (path : Text) : Except PathError Path :=
  match pathFault? path with
  | some e => .error e
  | none =>
    if path.endsWith ['/'] then
      (t.directoryOf (splitLast (withoutSlashes path)).1).bind fun _ => .error .isDirectory
    else
      match t.resolve path with
      | .error e => .error e
      | .ok place =>
        match t.at? place with
        | some .directory => .error .isDirectory
        | _ => .ok place

/-- The tree with a file at a path, whose directory has to exist. -/
def write (t : FileTree α) (path : Text) (contents : α) : Except PathError (FileTree α) :=
  (t.writablePlace path).map fun place => t.putAt place contents

/-- The place of a new file: that of the first of some numbered paths where nothing stands, of which
as many are tried as `tries` says. -/
def newPlace (t : FileTree α) (path : Nat → Text) :
    (tries : Nat) → (attempt : Nat) → Except PathError Path
  | 0, _ => .error .alreadyExists
  | tries + 1, attempt =>
    match t.resolve (path attempt) with
    | .error e => .error e
    | .ok place => if (t.at? place).isSome then t.newPlace path tries (attempt + 1) else .ok place

/-- The tree with the file of a place at a path, where it replaces the file that stood there. -/
def move (t : FileTree α) (place : Path) (path : Text) : Except PathError (FileTree α) :=
  match t.writablePlace path, t.files.get? place with
  | .error e, _ => .error e
  | .ok _, none => .error .notFound
  | .ok final, some contents => .ok ((t.removeAt place).putAt final contents)

/-- The tree without the file at a path. -/
def remove (t : FileTree α) (path : Text) : Except PathError (FileTree α) :=
  match t.resolve path with
  | .error e => .error e
  | .ok place =>
    match t.at? place with
    | some (.file _) => .ok (t.removeAt place)
    | some .directory => .error .isDirectory
    | none => .error .notFound

/-! ## Making directories -/

/-- The tree with a new directory at a path, whose parent has to exist. -/
def makeDirectory (t : FileTree α) (path : Text) : Except PathError (FileTree α) :=
  match pathFault? path with
  | some e => .error e
  | none =>
    let (front, name) := splitLast (withoutSlashes path)
    match t.directoryOf front with
    | .error e => .error e
    | .ok parent =>
      if Path.isHere name || Path.isAbove name then .error .alreadyExists
      else if nameLimit < byteSize name then .error .nameTooLong
      else if (t.at? (parent ++ [name])).isSome then .error .alreadyExists
      else .ok (t.addDirectoryAt (parent ++ [name]))

/-- A path in front of its last name and that name; both are empty where there is none. Slashes at
the end do not count. -/
def splitParent (path : Text) : Text × Text :=
  let split (path : Text) : Text × Text :=
    let (front, name) := splitLast path
    (if front.all (· == '/') then front else withoutSlashes front, name)
  let (front, name) := split path
  if name.isEmpty then split front else (front, name)

/-- The tree in which there is a directory at a path, with all that lead there, of which as many
are looked at as `limit` says: the directories that are missing are made one by one, from the
outermost on. That a directory is there already is no failure. -/
def makeDirectoriesWithin (t : FileTree α) :
    (limit : Nat) → (path : Text) → FileTree α × Except PathError Unit
  | 0, _ => (t, .ok ())
  | limit + 1, path =>
    let (parent, name) := splitParent path
    let make (t : FileTree α) : FileTree α × Except PathError Unit :=
      match t.makeDirectory path with
      | .ok t => (t, .ok ())
      | .error e => (t, if t.isDirectory path then .ok () else .error e)
    if parent.isEmpty || name.isEmpty || t.exists? parent then make t
    else
      match makeDirectoriesWithin t limit parent with
      | (t, .ok ()) => if Path.isHere name then (t, .ok ()) else make t
      | (t, .error .alreadyExists) => if Path.isHere name then (t, .ok ()) else make t
      | (t, .error e) => (t, .error e)

/-- The tree in which there is a directory at a path, with all that lead there, or in which as much
of it as possible was made. -/
def makeDirectories (t : FileTree α) (path : Text) : FileTree α × Except PathError Unit :=
  t.makeDirectoriesWithin (path.length + 1) path

/-! ## Listing -/

/-- The text of a place. -/
def pathText (path : Path) : Text :=
  Text.join ['/'] path

/-- The files of the working directory with their paths, in the order of the paths. -/
def listing (t : FileTree α) : List (Text × α) :=
  let files := t.files.filter fun f => !Path.isOutside f.1
  (files.map fun f => (pathText f.1, f.2)).mergeSort fun a b => !b.1.before a.1

/-- The tree of some directories and files, each with the directories that lead there. -/
def ofEntries (directories : List Text) (files : List (Text × α)) : FileTree α :=
  let add (t : FileTree α) (path : Text) : FileTree α := (t.makeDirectories path).1
  let t := directories.foldl add empty
  files.foldl (fun t f => (((add t (splitLast f.1).1).write f.1 f.2).toOption).getD t) t

end FileTree

end EventPipeline
