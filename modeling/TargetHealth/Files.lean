import TargetHealth.Text.Pieces
import TargetHealth.Text.Utf8

namespace TargetHealth

inductive FileError where
  | notFound
  | isDirectory
  | notDirectory
  | nulInName
  | nameTooLong
  | other (message : String)
deriving DecidableEq, Repr, Inhabited

def FileError.message : FileError → String
  | .notFound => "No such file or directory (os error 2)"
  | .isDirectory => "Is a directory (os error 21)"
  | .notDirectory => "Not a directory (os error 20)"
  | .nulInName => "file name contained an unexpected NUL byte"
  | .nameTooLong => "File name too long (os error 36)"
  | .other message => message

abbrev FileReader := String → Except FileError Bytes

/-- A directory whose content is known: a list of files with their paths from it. Directories exist because files lie in
them. -/
structure FileTree where
  files : List (String × Bytes)

namespace FileTree

def names (path : List Char) : List (List Char) :=
  (Text.pieces '/' path).filter (fun n => !n.isEmpty && n != ['.'])

def isDirectory (t : FileTree) (dir : List (List Char)) : Bool :=
  dir.isEmpty || t.files.any (fun f => dir.isPrefixOf (names f.1.toList) && dir != names f.1.toList)

def file? (t : FileTree) (path : List (List Char)) : Option Bytes :=
  (t.files.find? (fun f => names f.1.toList == path)).map (·.2)

def walk (t : FileTree) (dir : List (List Char)) : List (List Char) → Except FileError (List (List Char))
  | [] => .ok dir
  | name :: rest =>
    if (t.file? dir).isSome then .error .notDirectory
    else if name = ['.', '.'] then t.walk dir.dropLast rest
    else if 255 < (Utf8.encode name).length then .error .nameTooLong
    else if (t.file? (dir ++ [name])).isSome || t.isDirectory (dir ++ [name]) then t.walk (dir ++ [name]) rest
    else .error .notFound

def wantsDirectory (path : List Char) : Bool :=
  match (Text.pieces '/' path).getLast? with
  | some last => last.isEmpty || last = ['.'] || last = ['.', '.']
  | none => true

def read (t : FileTree) : FileReader := fun path =>
  let cs := path.toList
  if cs.contains '\x00' then .error .nulInName
  else if cs.isEmpty || cs.head? = some '/' then .error .notFound
  else do
    let place ← t.walk [] (names cs)
    match t.file? place with
    | some content => if wantsDirectory cs then .error .notDirectory else .ok content
    | none => .error .isDirectory

end FileTree

end TargetHealth
