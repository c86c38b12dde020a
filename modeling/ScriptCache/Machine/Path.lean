/-! Paths as text.

A path is a text; its parts are what stands between slashes. Nothing is normalised:
two spellings of one place stay two texts, and joining adds at most one slash. -/
namespace ScriptCache.Path

/-- The parts between slashes, empty ones included. -/
def splitSlash : List Char → List (List Char)
  | [] => [[]]
  | c :: rest =>
    if c = '/' then [] :: splitSlash rest
    else match splitSlash rest with
      | [] => [[c]]
      | part :: parts => (c :: part) :: parts

/-- The nonempty parts of a path. -/
def parts (path : String) : List String :=
  ((splitSlash path.toList).filter (! ·.isEmpty)).map String.ofList

def isAbsolute (path : String) : Bool :=
  path.toList.head? == some '/'

def endsInSlash (path : String) : Bool :=
  path.toList.getLast? == some '/'

/-- A name inside a folder. A slash is added unless the folder's path ends in one or is
empty. -/
def join (folder name : String) : String :=
  if folder.isEmpty || endsInSlash folder then folder ++ name else folder ++ "/" ++ name

/-- Every beginning of a list except the empty one and the list itself, longest first. -/
def properBeginnings {α : Type} (as : List α) : List (List α) :=
  ((List.range (as.length - 1)).map fun i => as.take (i + 1)).reverse

/-- The path itself and the folders above it, innermost first. The empty path, which
stands for the working folder, and what lies above it are left out. -/
def ancestors (path : String) : List String :=
  if path.isEmpty then []
  else
    let absolute := isAbsolute path
    let named := match parts path with
      | [] => []
      | first :: rest =>
        let rest := rest.filter (· != ".")
        if first == "." && absolute then rest else first :: rest
    let above := (properBeginnings named).map fun beginning =>
      (if absolute then "/" else "") ++ "/".intercalate beginning
    path :: above ++ (if absolute && !named.isEmpty then ["/"] else [])

example : join "" "blur.o" = "blur.o" := by decide +kernel
example : join "a" "blur.o" = "a/blur.o" := by decide +kernel
example : join "a//" "blur.o" = "a//blur.o" := by decide +kernel
example : ancestors "./a//b/./c/" = ["./a//b/./c/", "./a/b", "./a", "."] := by decide +kernel
example : ancestors "/a/b" = ["/a/b", "/a", "/"] := by decide +kernel

end ScriptCache.Path
