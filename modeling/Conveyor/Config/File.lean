/-!
# Configuration files and their paths

Paths are slash-separated. The clean form of a path has no empty or `.` elements, and each
`..` removes the element before it; `..` at the start of an absolute path is dropped, and an
empty result is `.`. A path relative to a file is joined to the file's directory.

Reading a file gives its text, or an error naming the path: a missing file, or a directory.
-/

namespace Conveyor.Config

/-- **The clean form of a path.** -/
def cleanPath (p : String) : String :=
  let rooted := p.startsWith "/"
  let parts := (p.splitOn "/").filter fun s => !s.isEmpty && s != "."
  let kept := parts.foldl (fun (acc : List String) part =>
    if part == ".." then
      match acc with
      | top :: rest => if top == ".." then part :: acc else rest
      | [] => if rooted then [] else [part]
    else part :: acc) []
  let body := "/".intercalate kept.reverse
  if rooted then "/" ++ body
  else if body.isEmpty then "." else body

/-- The directory of a path: all before its last slash, cleaned. -/
def dirOf (p : String) : String :=
  let parts := p.splitOn "/"
  match parts.dropLast with
  | [] => "."
  | init => cleanPath ("/".intercalate init ++ "/")

/-- Joins two paths and cleans the result. -/
def joinPath (a b : String) : String :=
  if a.isEmpty then cleanPath b
  else if b.isEmpty then cleanPath a
  else cleanPath (a ++ "/" ++ b)

/-- **A path relative to a file**: empty and absolute paths stay as they are. -/
def relativeTo (base p : String) : String :=
  if p.isEmpty || p.startsWith "/" then p else joinPath (dirOf base) p

/-- What reading a file gives. -/
inductive FileRead where
  | text (content : String)
  | missing
  | directory

/-- The error of reading a file, if it could not be read. -/
def FileRead.error (path : String) : FileRead → Option String
  | .text _ => none
  | .missing => some ("open " ++ path ++ ": no such file or directory")
  | .directory => some ("read " ++ path ++ ": is a directory")

end Conveyor.Config
