/-!
Slash-separated paths.

A path is text; its components are the pieces between slashes. The clean form of a path is the
shortest path that names the same file by lexical rules alone: no empty or `.` components, and
a `..` only at the start of a relative path.
-/

namespace Testbench.Path

/-- Splits characters at every slash; the pieces are reversed, and so is the piece being read. -/
def splitChars : List Char → List Char → List (List Char) → List (List Char)
  | [], current, done => (current.reverse :: done).reverse
  | char :: rest, current, done =>
    if char == '/' then splitChars rest [] (current.reverse :: done)
    else splitChars rest (char :: current) done

/-- The components of a path, empty ones included. -/
def pieces (path : String) : List String := (splitChars path.toList [] []).map String.ofList

/-- Does the path start at the root? -/
def isRooted (path : String) : Bool := path.startsWith "/"

/-- Lexical resolution of components: `.` and empty ones vanish, `..` takes back the component
before it, and at the start stays only in a relative path. The result is reversed. -/
def resolveLexically (rooted : Bool) : List String → List String → List String
  | kept, [] => kept
  | kept, piece :: rest =>
    if piece == "" || piece == "." then resolveLexically rooted kept rest
    else if piece == ".." then
      match kept with
      | top :: below => if top == ".." then resolveLexically rooted (".." :: kept) rest
        else resolveLexically rooted below rest
      | [] => if rooted then resolveLexically rooted [] rest
        else resolveLexically rooted [".."] rest
    else resolveLexically rooted (piece :: kept) rest

/-- The clean form of a path; `.` for the empty path. -/
def clean (path : String) : String :=
  let rooted := isRooted path
  let body := "/".intercalate (resolveLexically rooted [] (pieces path)).reverse
  if rooted then "/" ++ body
  else if body.isEmpty then "." else body

/-- Joins paths with slashes and cleans the result; the empty paths are left out, and joining
only empty paths gives the empty path. -/
def join (parts : List String) : String :=
  match parts.filter (!·.isEmpty) with
  | [] => ""
  | kept => clean ("/".intercalate kept)

/-- All of a path up to its last slash, cleaned: the directory that holds the file it names. -/
def dir (path : String) : String :=
  let chars := path.toList
  clean (String.ofList (chars.reverse.dropWhile (· != '/')).reverse)

/-- The last component of a path after trailing slashes are dropped; `.` for the empty path and
`/` for a path of slashes. -/
def base (path : String) : String :=
  if path.isEmpty then "."
  else
    let trimmed := (path.toList.reverse.dropWhile (· == '/')).reverse
    if trimmed.isEmpty then "/"
    else String.ofList (trimmed.reverse.takeWhile (· != '/')).reverse

example : clean "a//b/./c/.." = "a/b" := by decide +kernel
example : clean "/../x" = "/x" := by decide +kernel
example : clean "../../y" = "../../y" := by decide +kernel
example : clean "" = "." := by decide +kernel
example : join ["coins", "build/modules"] = "coins/build/modules" := by decide +kernel
example : join [".", "package.yml"] = "package.yml" := by decide +kernel
example : dir "x.nvcov" = "." := by decide +kernel
example : dir "out/cov.nvcov" = "out" := by decide +kernel
example : dir "/x" = "/" := by decide +kernel

end Testbench.Path
