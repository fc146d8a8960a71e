import FrontEnd.Text.Basic

namespace FrontEnd

/-- Why a file cannot be read. -/
inductive ReadFailure where
  | notFound
  | isDirectory
  | notDirectory
  | notText
  | other (reason : String)
  deriving DecidableEq, Repr

def ReadFailure.message : ReadFailure → String
  | notFound => "No such file or directory (os error 2)"
  | isDirectory => "Is a directory (os error 21)"
  | notDirectory => "Not a directory (os error 20)"
  | notText => "stream did not contain valid UTF-8"
  | other reason => reason

/-- The text that bytes stand for. -/
def Text.ofBytes (bytes : ByteArray) : Except ReadFailure Text :=
  match String.fromUTF8? bytes with
  | some text => .ok text.toList
  | none => .error .notText

/-- Files by their paths, given as lists of names. Of two files with one path the later one
counts. -/
structure Directory where
  files : List (List String × ByteArray)

namespace Directory

def ofFiles (files : List (String × ByteArray)) : Directory :=
  ⟨files.map fun (name, content) => (name.splitOn "/", content)⟩

def content? (directory : Directory) (path : List String) : Option ByteArray :=
  (directory.files.reverse.find? (·.1 == path)).map Prod.snd

def hasDirectory (directory : Directory) (path : List String) : Bool :=
  path.isEmpty || directory.files.any fun (file, _) => path.isPrefixOf file && path != file

/-- Whether a part of a path names nothing new. -/
def staysPut (part : String) : Bool :=
  part == "" || part == "."

/-- Where the parts of a path lead that has left the directory: nothing is known to be there. -/
def outside (parts : List String) : ReadFailure :=
  if parts.all fun part => staysPut part || part == ".." then .isDirectory else .notFound

/-- Follows the parts of a path from a place in the directory to a file or a directory. -/
def follow (directory : Directory) (place : List String) :
    List String → Except ReadFailure (List String)
  | [] => .ok place
  | part :: parts =>
      if (directory.content? place).isSome then
        .error .notDirectory
      else if staysPut part then
        directory.follow place parts
      else if part == ".." then
        if place.isEmpty then .error (outside parts) else directory.follow place.dropLast parts
      else
        let next := place ++ [part]
        if (directory.content? next).isSome || directory.hasDirectory next then
          directory.follow next parts
        else
          .error .notFound

/-- The text of the file that a path leads to. -/
def read (directory : Directory) (path : String) : Except ReadFailure Text := do
  let parts := path.splitOn "/"
  if path.startsWith "/" then
    throw (outside parts)
  let place ← directory.follow [] parts
  match directory.content? place with
  | some bytes => Text.ofBytes bytes
  | none => throw .isDirectory

end Directory

end FrontEnd
