import Diagnostics.Config.Table
import Diagnostics.Text.Lines
import Diagnostics.Text.Utf8
import Diagnostics.Toml.Reader

namespace Diagnostics

inductive FileEntry where
  | directory
  | file (bytes : List UInt8)
  deriving DecidableEq, Repr

abbrev FilePath := List String

abbrev FileTree := List (FilePath × FileEntry)

inductive FileFault where
  | undecodable (fault : Text.Utf8.Fault)
  | conflict (c : Toml.Conflict)

def FileFault.message : FileFault → String
  | .undecodable fault => fault.message
  | .conflict c => c.message

inductive ConfigFault where
  | file (fault : FileFault)
  | option (fault : OptionFault)

def ConfigFault.message : ConfigFault → String
  | .file fault => fault.message
  | .option fault => fault.message

namespace FilePath

def ofText (text : String) : FilePath :=
  (((text.splitOn "/").filter fun part => part ≠ "" && part ≠ ".") : List String)

def resolveFrom : List String → FilePath → FilePath
  | above, [] => above.reverse
  | above, part :: rest =>
      if part = ".." then resolveFrom above.tail rest else resolveFrom (part :: above) rest

def resolve (path : FilePath) : FilePath := resolveFrom [] path

def text (path : FilePath) : String := "/" ++ "/".intercalate path

end FilePath

namespace FileTree

def entry? (tree : FileTree) (path : FilePath) : Option FileEntry :=
  match tree.reverse.lookup path with
  | some e => some e
  | none =>
      if path.isEmpty || tree.any (fun (p, _) => path.isPrefixOf p) then some .directory else none

def isDirectory (tree : FileTree) (path : FilePath) : Bool := tree.entry? path = some .directory

def follow (tree : FileTree) : List String → FilePath → Option FilePath
  | above, [] => some above.reverse
  | above, part :: rest =>
      if !tree.isDirectory above.reverse then none
      else if part = ".." then follow tree above.tail rest
      else follow tree (part :: above) rest

def read? (tree : FileTree) (path : FilePath) : Option (List UInt8) :=
  match (tree.follow [] path).bind tree.entry? with
  | some (.file bytes) => some bytes
  | _ => none

def isFile (tree : FileTree) (path : FilePath) : Bool := (tree.read? path).isSome

end FileTree

namespace ConfigFile

def optionsName : String := "arareport.toml"

def projectName : String := "pyproject.toml"

def sectionName : String := "arareport"

inductive Loaded where
  | table (t : Table)
  | unreadable
  | invalid

def open? (tree : FileTree) (path : FilePath) : Except FileFault Loaded :=
  match tree.read? path with
  | none => .ok .unreadable
  | some bytes =>
      match Text.Utf8.decode bytes with
      | .error fault => .error (.undecodable fault)
      | .ok cs =>
          match Toml.parse (Text.unifyFeeds cs) with
          | .ok t => .ok (.table t)
          | .error .invalid => .ok .invalid
          | .error (.conflict c) => .error (.conflict c)

def load (tree : FileTree) (path : FilePath) : Except FileFault Table :=
  (open? tree path).map fun
    | .table t => t
    | .unreadable => []
    | .invalid => []

def loadRecords (tree : FileTree) (path : FilePath) : List Record :=
  match open? tree path with
  | .ok .unreadable =>
      [Channel.files.record Level.error ("Error loading TOML from " ++ path.text)]
  | .ok .invalid =>
      [Channel.files.record Level.error ("Error decoding TOML from " ++ path.text)]
  | _ => []

def options (path : FilePath) (t : Table) : Option Table :=
  if path.getLast? = some projectName then
    match t.get? "tool" with
    | some (.table tool) =>
        match Table.get? tool sectionName with
        | some (.table options) => some options
        | _ => none
    | _ => none
  else some t

def loadOptions (tree : FileTree) (path : FilePath) : Except FileFault (Option Table) :=
  (load tree path).map (options path)

def loadConfig (tree : FileTree) (path : FilePath) : Except ConfigFault Config :=
  match loadOptions tree path with
  | .error fault => .error (.file fault)
  | .ok none => .ok Config.initial
  | .ok (some t) => (Config.ofTable t).mapError ConfigFault.option

def configRecords (tree : FileTree) (path : FilePath) : List Record :=
  loadRecords tree path
    ++ match loadOptions tree path with
       | .error _ => []
       | .ok none =>
           [Channel.files.record Level.debug
             ("No [tool." ++ sectionName ++ "] section in " ++ path.text)]
       | .ok (some t) =>
           Channel.files.record Level.debug ("Loading render config from " ++ path.text)
             :: Config.records t

def inDirectory (tree : FileTree) (directory : FilePath) :
    List Record × Except FileFault (Option FilePath) :=
  let own := directory ++ [optionsName]
  let project := directory ++ [projectName]
  if tree.isFile own then
    ([Channel.files.record Level.trace ("Found " ++ own.text)], .ok (some own))
  else if tree.isFile project then
    let found := [Channel.files.record Level.trace
      ("Found [tool." ++ sectionName ++ "] in " ++ project.text)]
    match loadOptions tree project with
    | .error fault => ([], .error fault)
    | .ok none => (loadRecords tree project, .ok none)
    | .ok (some _) => (loadRecords tree project ++ found, .ok (some project))
  else ([], .ok none)

def search (tree : FileTree) : List FilePath → List Record × Except FileFault (Option FilePath)
  | [] => ([], .ok none)
  | directory :: above =>
      match inDirectory tree directory with
      | (records, .ok none) =>
          let (more, result) := search tree above
          (records ++ more, result)
      | found => found

def upwards (directory : FilePath) : List FilePath :=
  (List.range (directory.length + 1)).map fun n => directory.take (directory.length - n)

def discover (tree : FileTree) (start : FilePath) :
    List Record × Except FileFault (Option FilePath) :=
  let path := start.resolve
  search tree (upwards (if tree.isFile path then path.dropLast else path))

end ConfigFile

end Diagnostics
