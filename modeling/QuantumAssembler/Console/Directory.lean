import QuantumAssembler.Settings.Basic

/-!
Module: QuantumAssembler.Console.Directory
Purpose: The files below a directory, held in memory, and what is found at a path. Paths are
  relative to the directory or begin with its name. Beside the directory and above it only the
  usual top directories are found, and nothing can be read but two devices: one that is always
  empty and one that holds what the program is told.
Main exports: Directory, textOf, nameLimit, pathLimit, Directory.read
-/

namespace QuantumAssembler.Console

/-- The text that bytes hold, if they are well-formed. -/
def textOf (bytes : ByteArray) : Except ReadFailure String :=
  match String.fromUTF8? bytes with
  | some text => .ok text
  | none => .error .notText

/-- The files below a directory. -/
structure Directory where
  /-- The name of the directory in paths that do not start from it. -/
  name : String
  /-- The path of each file from the directory, name by name, and its content. -/
  files : List (List String × ByteArray)
  /-- What the program is told. -/
  input : ByteArray

/-- A directory at which a path has arrived. -/
inductive Place where
  /-- A directory in the tree, by its path. -/
  | inside (path : List String)
  /-- The directory above all others. -/
  | top
  /-- The directory of the devices. -/
  | devices
  /-- A directory that does not lie in the tree and of which nothing else is known. -/
  | outside
deriving DecidableEq, Repr

namespace Directory

/-- The place one step up. -/
def parent : Place → Place
  | .inside [] => .outside
  | .inside path => .inside path.dropLast
  | .top | .devices => .top
  | .outside => .outside

/-- The directories that stand at the top of every tree of directories. -/
def topDirectories : List (String × Place) :=
  ("dev", .devices) ::
    ["bin", "etc", "home", "lib", "opt", "proc", "root", "sys", "tmp", "usr", "var"].map
      fun name => (name, .outside)

/-- The devices that can be read. -/
def devices (d : Directory) : List (String × ByteArray) :=
  [("null", .empty), ("stdin", d.input)]

/-- The most bytes that a name in a path may have. -/
def nameLimit : Nat := 255

/-- The most bytes that a path may have. -/
def pathLimit : Nat := 4095

/-- What a file answers to whoever reads it. A file has no names below it. -/
def readFound (bytes : ByteArray) (rest : List String) : Except ReadFailure String :=
  if rest = [] then textOf bytes else .error .notADirectory

/-- What is found when the rest of a path is followed from a place. -/
def follow (d : Directory) (place : Place) : List String → Except ReadFailure String
  | [] => .error .isDirectory
  | "" :: rest => d.follow place rest
  | "." :: rest => d.follow place rest
  | ".." :: rest => d.follow (parent place) rest
  | name :: rest =>
    if nameLimit < name.utf8ByteSize then .error .nameTooLong
    else match place with
      | .outside => .error .missing
      | .top =>
        match topDirectories.lookup name with
        | some place => d.follow place rest
        | none => .error .missing
      | .devices =>
        match d.devices.lookup name with
        | some bytes => readFound bytes rest
        | none => .error .missing
      | .inside path =>
        let path := path ++ [name]
        match d.files.lookup path with
        | some bytes => readFound bytes rest
        | none =>
          if d.files.any fun file => path.isPrefixOf file.1 then d.follow (.inside path) rest
          else .error .missing

/-- The content of the file at a path. -/
def read (d : Directory) (path : String) : Except ReadFailure String :=
  if pathLimit < path.utf8ByteSize then .error .nameTooLong
  else match path.splitOn "/" with
    | "" :: rest => if path = "" then .error .missing else d.follow .top rest
    | first :: rest =>
      if first = d.name then d.follow (.inside []) rest else d.follow (.inside []) (first :: rest)
    | [] => .error .missing

end Directory

end QuantumAssembler.Console
