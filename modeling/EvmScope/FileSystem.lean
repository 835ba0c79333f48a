import EvmScope.Text.Utf8

/-!
# File systems

A file system, as far as reading goes, says for a path what comes of reading the regular file of that
name. `Directory` builds one from the files below a directory, to which all paths are relative.
-/

namespace EvmScope

set_option autoImplicit false

/-- An error of the operating system, in its own words. -/
structure IoError where
  text : String
  deriving DecidableEq, Repr

/-- What comes of reading the regular file that a path names, if it names one. -/
abbrev FileSystem := List Char → Option (Except IoError Bytes)

namespace FileSystem

/-- Why there is no text to be had from a path. -/
inductive ReadError.Cause
  | noFile
  | failed (why : IoError)
  | notUtf8
  deriving DecidableEq, Repr

structure ReadError where
  path : List Char
  cause : ReadError.Cause
  deriving DecidableEq, Repr

/-- The wording of an error; what has caused it is told only where errors are shown in full. -/
def ReadError.message (e : ReadError) : String :=
  s!"failed to read '{String.ofList e.path}'"

/-- The text of the file that a path names. -/
def readText (fs : FileSystem) (path : List Char) : Except ReadError (List Char) :=
  match fs path with
  | none => .error ⟨path, .noFile⟩
  | some (.error why) => .error ⟨path, .failed why⟩
  | some (.ok bs) =>
    match Text.ofUtf8? bs with
    | some text => .ok text
    | none => .error ⟨path, .notUtf8⟩

end FileSystem

/-- The names on the way from a directory to a file or directory below it. -/
abbrev Route := List (List Char)

/-- A directory with all that is below it. -/
structure Directory where
  files : List (Route × Bytes) := []
  directories : List Route := []

namespace Directory

/-- The parts of a path between its slashes. -/
def parts : List Char → Route
  | [] => [[]]
  | c :: path =>
    if c = '/' then [] :: parts path
    else match parts path with
      | [] => [[c]]
      | part :: rest => (c :: part) :: rest

/-- Whether a route leads to a directory: the start, one that is listed, or one on the way to
something that is. -/
def isDirectory (d : Directory) (route : Route) : Bool :=
  route.isEmpty || d.directories.any (route.isPrefixOf ·) ||
    d.files.any fun f => route.isPrefixOf f.1 && route.length < f.1.length

/-- The bytes of the file at the end of a route. -/
def file? (d : Directory) (route : Route) : Option Bytes :=
  (d.files.find? (·.1 = route)).map (·.2)

/-- Follows the parts of a path from a route on. Every part but the last has to name a directory; an
empty part and a dot stay where they are, and two dots go one step back. -/
def follow (d : Directory) : (route : Route) → (parts : Route) → Option Bytes
  | route, [] => d.file? route
  | route, part :: rest =>
    if !d.isDirectory route then none
    else if part = [] ∨ part = ['.'] then
      if rest = [] then none else follow d route rest
    else if part = ['.', '.'] then
      if route = [] ∨ rest = [] then none else follow d route.dropLast rest
    else follow d (route ++ [part]) rest

/-- The number of bytes from which on a path is too long to name anything. -/
def pathLimit : Nat := 4096

/-- The files below a directory, by their paths from there. -/
def fileSystem (d : Directory) : FileSystem := fun path =>
  if path.head? = some '/' ∨ pathLimit ≤ (Text.utf8 path).length then none
  else (d.follow [] (parts path)).map .ok

end Directory

end EvmScope
