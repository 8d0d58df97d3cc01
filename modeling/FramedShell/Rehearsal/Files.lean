/-!
# A tree of files

The files that a rehearsal finds: regular files with their permissions, directories, and links. A path is
walked part by part, links are followed where they are met, and every part but the last has to be a
directory; so has the last one if a slash follows it.

## Main definitions

* `Node`, `Files` — what lies where;
* `Files.walk` — where a path leads;
* `Files.isExecutable` — whether it leads to a regular file that somebody may execute.
-/

namespace FramedShell.Rehearsal

/-- **What lies at a place.** -/
inductive Node where
  | file (mode : Nat)
  | directory
  | link (target : String)
  /-- Anything else. -/
  | device
deriving DecidableEq, Inhabited

/-- **A tree of files**: what lies where, each place given by the names that lead to it from the root,
and the working directory. -/
structure Files where
  nodes : List (List String × Node)
  workingDirectory : List String
deriving Inhabited

namespace Files

/-- What lies at a place. -/
def node? (f : Files) (place : List String) : Option Node :=
  if place = [] then some .directory
  else (f.nodes.find? fun entry => entry.1 == place).map Prod.snd

/-- The parts of a path. -/
def parts (path : String) : List String := path.splitOn "/"

/-- Where a relative path begins, or the root for an absolute one. -/
def base (path : String) (directory : List String) : List String :=
  if path.startsWith "/" then [] else directory

/-- **Where a path leads** from a place, following at most so many links. -/
def walk (f : Files) (links : Nat) (place : List String) (path : List String) : Option (List String) :=
  match path with
  | [] => some place
  | name :: rest =>
    if f.node? place ≠ some .directory then none
    else if name = "" ∨ name = "." then walk f links place rest
    else if name = ".." then walk f links place.dropLast rest
    else
      match f.node? (place ++ [name]) with
      | none => none
      | some (.link target) =>
        match links with
        | 0 => none
        | links + 1 => walk f links (base target place) (parts target ++ rest)
      | some _ => walk f links (place ++ [name]) rest
termination_by (links, path.length)

/-- How many links a path may lead through. -/
def maxLinks : Nat := 40

/-- What a path leads to. -/
def find? (f : Files) (path : String) : Option Node := do
  if path = "" then none
  else
    let place ← f.walk maxLinks (base path f.workingDirectory) (parts path)
    f.node? place

/-- **Whether a path leads to a regular file that somebody may execute.** -/
def isExecutable (f : Files) (path : String) : Bool :=
  match f.find? path with
  | some (.file mode) => mode % 512 &&& 0o111 != 0
  | _ => false

/-- The files that every system has. -/
def system : List (List String × Node) :=
  [(["bin"], .directory), (["bin", "sh"], .file 0o755), (["bin", "true"], .file 0o755),
    (["bin", "false"], .file 0o755), (["etc"], .directory), (["etc", "passwd"], .file 0o644),
    (["dev"], .directory), (["dev", "null"], .device), (["tmp"], .directory), (["work"], .directory)]

/-- The files of every system, and some in the working directory. -/
def inWork (nodes : List (List String × Node)) : Files :=
  ⟨system ++ nodes.map fun entry => ("work" :: entry.1, entry.2), ["work"]⟩

end Files

end FramedShell.Rehearsal
