import FormIntake.Text.Split
import FormIntake.Failure

/-! # Files

A file is named by a path, the parts of which stand between slashes; an empty part and a single dot
lead nowhere.  `Files` is what can be read: texts under their paths.
-/

namespace FormIntake.Loading

open Text

/-- A path without parts that lead nowhere. -/
structure Path where
  isAbsolute : Bool
  parts : List String
  deriving DecidableEq, Repr

namespace Path

def ofText (text : String) : Path :=
  let parts := (splitOn '/' text.toList).map String.ofList
  ⟨text.toList.head? = some '/', parts.filter fun p => p ≠ "" && p ≠ "."⟩

/-- The path as it is shown. -/
def shown (p : Path) : String :=
  if p.isAbsolute then "/" ++ "/".intercalate p.parts
  else if p.parts.isEmpty then "."
  else "/".intercalate p.parts

/-- The last part. -/
def name (p : Path) : String := p.parts.getLastD ""

/-- Whether the path of a folder leads to a path. -/
def contains (folder p : Path) : Bool :=
  folder.isAbsolute = p.isAbsolute && folder.parts.length < p.parts.length &&
    folder.parts.isPrefixOf p.parts

end Path

/-- What is found under a path. -/
inductive Found where
  | nothing
  /-- A folder, or something else that is there and cannot be read. -/
  | folder
  | undecodable
  | text (content : String)
  deriving DecidableEq, Repr

/-- The files that can be read. -/
structure Files where
  find : Path → Found

/-- Files of which it is known what is found. -/
def Files.ofFound (found : List (Path × Found)) : Files where
  find path := (found.lookup path).getD .nothing

/-- The texts of a folder as the only files. -/
def Files.ofTexts (texts : List (String × String)) : Files where
  find path :=
    let known := texts.map fun t => (Path.ofText t.1, t.2)
    match known.lookup path with
    | some content => .text content
    | none =>
      if path.parts.isEmpty || known.any fun t => path.contains t.1 then .folder else .nothing

end FormIntake.Loading
