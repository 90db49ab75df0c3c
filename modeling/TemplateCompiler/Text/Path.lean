import TemplateCompiler.Text.Basic

/-!
# Slash-separated paths

Paths are texts whose components are separated by slashes.  `clean` gives the shortest path with
the same meaning; the other operations take a path apart or put one together.
-/

namespace TemplateCompiler

namespace Path

/-- The byte between the components of a path. -/
def separator : UInt8 := '/'.toUInt8

/-- The components of a path, empty ones included. -/
def components (p : Text) : List Text := Text.splitOnByte separator p

/-- Whether a path starts at the root. -/
def isRooted (p : Text) : Bool := p.head? == some separator

/-- Resolve the components of a path one by one.  `kept` holds the resolved components, latest
first; in a rooted path a parent step at the root stays there. -/
def resolve (rooted : Bool) (kept : List Text) : List Text → List Text
  | [] => kept.reverse
  | c :: rest =>
    if c.isEmpty || c == "." then resolve rooted kept rest
    else if c == ".." then
      match kept with
      | [] => if rooted then resolve rooted [] rest else resolve rooted [c] rest
      | k :: ks => if k == ".." then resolve rooted (c :: k :: ks) rest else resolve rooted ks rest
    else resolve rooted (c :: kept) rest

/-- The shortest path with the same meaning: no empty or current-directory components, and parent
steps only at the front of a relative path. -/
def clean (p : Text) : Text :=
  let body := Text.join [separator] (resolve (isRooted p) [] (components p))
  if isRooted p then separator :: body else if body.isEmpty then "." else body

/-- The last component of a path; trailing slashes do not count. -/
def base (p : Text) : Text :=
  if p.isEmpty then "."
  else
    let trimmed := Text.dropEndWhile p (· == separator)
    if trimmed.isEmpty then "/" else (components trimmed).getLastD []

/-- The part of a path up to and including its last slash. -/
def directoryPart (p : Text) : Text :=
  match p.lastIndexOfByte? separator with
  | some i => p.take (i + 1)
  | none => []

/-- The directory a path lies in. -/
def dir (p : Text) : Text := clean (directoryPart p)

/-- The extension of a path's last component, with its dot; empty if it has none. -/
def ext (p : Text) : Text :=
  let last := (components p).getLastD []
  match last.lastIndexOfByte? '.'.toUInt8 with
  | some i => last.drop i
  | none => []

/-- Components put together, empty ones left out; empty if all of them are. -/
def join (parts : List Text) : Text :=
  match parts.filter fun p => !p.isEmpty with
  | [] => []
  | kept => clean (Text.join [separator] kept)

/-- The components of a cleaned path that name something. -/
def steps (p : Text) : List Text :=
  (components p).filter fun (c : Text) => !c.isEmpty && c != "."

/-- Drop the components that two lists start with in common. -/
def dropCommon : List Text → List Text → List Text × List Text
  | a :: as, b :: bs => if a == b then dropCommon as bs else (a :: as, b :: bs)
  | as, bs => (as, bs)

/-- The path that leads from a directory to a target.  There is none between a rooted path and a
relative one, nor out of a directory whose name is not known. -/
def relativeTo? (directory target : Text) : Option Text :=
  let directory := clean directory
  let target := clean target
  if directory == target then some "."
  else if isRooted directory != isRooted target then none
  else
    let (up, down) := dropCommon (steps directory) (steps target)
    if up.head? == some ".." then none
    else some (Text.join [separator] (up.map (fun _ => Text.ofString "..") ++ down))

/-- A path as seen from a directory: a relative one lies in it. -/
def absolute (directory p : Text) : Text := if isRooted p then clean p else join [directory, p]

/-- A project-relative path in rooted form: backslashes are slashes and the path starts at the
project's root. -/
def rooted (p : Text) : Text :=
  clean (separator :: p.replaceByte '\\'.toUInt8 separator)

end Path

end TemplateCompiler
