/-!
# Folders

A folder holds files under paths. A path is a list of names; folders inside it are there as far as files lie in them.

* `components`: the names of a path between slashes;
* `Folder.walk?`: the contents at the end of a walk through the folder;
* `Folder.read?`: the contents of the file with a relative path.
-/

namespace MarketBrief

/-- Files with the names on the way to them. -/
structure Folder where
  files : List (List String × ByteArray) := []

namespace Folder

def components (path : String) : List String := (path.toList.splitOn '/').map String.ofList

/-- Whether a name leads nowhere but to the folder itself. -/
def isHere (name : String) : Bool := name = "" || name = "."

def ofList (files : List (String × ByteArray)) : Folder :=
  ⟨files.map fun (path, bytes) => ((components path).filter (!isHere ·), bytes)⟩

/-- Whether a folder lies at a place, which is so at the root and wherever a file lies below. -/
def hasFolder (f : Folder) (place : List String) : Bool :=
  place.isEmpty || f.files.any fun (names, _) => place.isPrefixOf names && place.length < names.length

/-- The contents of the file that some more names lead to from a place. Every name needs a folder to start from, and no
walk leaves the root. -/
def walk? (f : Folder) (place : List String) : List String → Option ByteArray
  | [] => f.files.lookup place
  | name :: names =>
    if !f.hasFolder place then none
    else if isHere name then f.walk? place names
    else if name = ".." then if place = [] then none else f.walk? place.dropLast names
    else f.walk? (place ++ [name]) names

/-- The contents of the file with a path that starts at the root of the folder. -/
def read? (f : Folder) (path : String) : Option ByteArray :=
  if path.toList.head? = some '/' then none else f.walk? [] (components path)

end Folder

end MarketBrief
