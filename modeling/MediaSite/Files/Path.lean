import MediaSite.Text.Basic

namespace MediaSite

/-!
# Paths

A path is a text whose parts are separated by slashes.  It is kept as it was
written: joining and taking the parent work on the text, so that a path is
shown the way it was formed.  What a path means, its components, does not
depend on repeated slashes, on slashes at the end or on `.` parts, except for
a `.` at the very beginning.
-/

open scoped Text

/-- A path, as written. -/
structure Path where
  text : Text
  deriving DecidableEq

/-- One meaningful part of a path. -/
inductive Component where
  /-- The slash at the beginning of an absolute path. -/
  | root
  /-- A `.` at the beginning of a relative path. -/
  | here
  /-- A `..` part. -/
  | up
  | name (text : Text)
  deriving DecidableEq

namespace Path

/-- Paths may be given as texts. -/
scoped instance : Coe Text Path := ⟨Path.mk⟩

/-- Starts at the root of the file system. -/
def isAbsolute (path : Path) : Bool :=
  path.text.head? == some '/'

/-- The texts between slashes after the root, empty ones and dots included. -/
def segments (path : Path) : List Text :=
  (if path.isAbsolute then path.text.drop 1 else path.text).splitOn '/'

/-- Segments that stand for nothing where they are not the first. -/
def isIdle (segment : Text) : Bool :=
  segment.isEmpty || segment == ['.']

/-- The component of a segment that is not idle. -/
def componentOf (segment : Text) : Component :=
  if segment = ['.', '.'] then .up else .name segment

/-- The components of segments behind others. -/
def componentsOf (segments : List Text) : List Component :=
  (segments.filter (!isIdle ·)).map componentOf

/-- The components of a path. -/
def components (path : Path) : List Component :=
  if path.isAbsolute then .root :: componentsOf path.segments
  else
    match path.segments with
    | ['.'] :: rest => .here :: componentsOf rest
    | segments => componentsOf segments

/-- Means the same as another path. -/
def means (path other : Path) : Bool :=
  path.components == other.components

/-- The path with these segments after its root. -/
def ofSegments (absolute : Bool) (segments : List Text) : Path :=
  ⟨(if absolute then "/" else "") ++ Text.join ['/'] segments⟩

/-- `other` as seen from `base`: an absolute path stands for itself. -/
def join (base other : Path) : Path :=
  if other.isAbsolute || base.text.isEmpty then other
  else if base.text.getLast? == some '/' then ⟨base.text ++ other.text⟩
  else ⟨base.text ++ "/" ++ other.text⟩

/-- The name of what a path leads to, if the path ends in a name. -/
def fileName? (path : Path) : Option Text :=
  match path.components.getLast? with
  | some (.name text) => some text
  | _ => none

/-- What follows the last dot of a name that does not begin with it. -/
def extension? (path : Path) : Option Text := do
  let name ← path.fileName?
  let behind := (name.reverse.takeWhile (· != '.')).reverse
  if behind.length + 1 < name.length then some behind else none

/-- Drop idle segments at the end.  With `keepDot` a `.` in front of all
others is no idle segment. -/
def dropIdleEnd (keepDot : Bool) (segments : List Text) : List Text :=
  match (segments.reverse.dropWhile isIdle).reverse with
  | [] =>
    match segments with
    | ['.'] :: _ => if keepDot then [['.']] else []
    | _ => []
  | kept => kept

/-- The path without its last component, none for the root and the empty path. -/
def parent? (path : Path) : Option Path :=
  match dropIdleEnd (!path.isAbsolute) path.segments with
  | [] => none
  | segments =>
    some (ofSegments path.isAbsolute (dropIdleEnd (!path.isAbsolute) segments.dropLast))

/-- The segments after a number of components; a first `.` counts as one. -/
def dropComponents : Nat → List Text → List Text
  | 0, segments => segments
  | _, [] => []
  | count + 1, segment :: rest =>
    if isIdle segment then dropComponents (count + 1) rest else dropComponents count rest

/-- What is left of a path after the components of `base`, if it starts with
them.  Idle segments around the rest are dropped. -/
def below? (base path : Path) : Option Path :=
  if base.components.isPrefixOf path.components then
    match base.components.length with
    | 0 => some (ofSegments path.isAbsolute (dropIdleEnd (!path.isAbsolute) path.segments))
    | count + 1 =>
      let rest :=
        if path.isAbsolute then dropComponents count path.segments
        else
          match path.segments with
          | ['.'] :: rest => dropComponents count rest
          | segments => dropComponents (count + 1) segments
      some (ofSegments false (dropIdleEnd false (rest.dropWhile isIdle)))
  else none

/-- A path shown relative to `base` when it lies below it. -/
def displayFrom (base path : Path) : Text :=
  ((below? base path).getD path).text

end Path
end MediaSite
