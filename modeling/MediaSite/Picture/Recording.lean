import MediaSite.Picture.Transcode

namespace MediaSite

/-!
# A backend without pixels

The recording backend answers from a table of sizes and writes no file.  It
keeps the calls that it got, in order, each as it was made.  A picture is found
in the table by what its path means, however the path is written.
-/

/-- A call of a backend. -/
inductive BackendCall where
  | identify (path : Path)
  | resize (plan : ResizePlan)
  deriving DecidableEq

/-- What a recording backend answers. -/
structure RecordingTable where
  /-- Sizes of pictures; any other picture has 1000 by 1500 pixels. -/
  sizes : List (Path × Size) := []
  /-- Pictures whose size cannot be read. -/
  unreadable : List Path := []
  /-- Pictures that cannot be resized. -/
  unresizable : List Path := []

namespace RecordingTable

/-- The size of a picture. -/
def sizeOf (table : RecordingTable) (path : Path) : Size :=
  ((table.sizes.find? fun item => item.1.means path).map (·.2)).getD ⟨1000, 1500⟩

/-- Keep a call. -/
def record (call : BackendCall) : StateM (Workspace (List BackendCall)) Unit :=
  modify fun workspace => { workspace with side := workspace.side ++ [call] }

/-- The backend that answers from a table. -/
def backend (table : RecordingTable) : Backend (List BackendCall) where
  identify path := do
    record (.identify path)
    return if table.unreadable.any (·.means path) then .error .failed else .ok (table.sizeOf path)
  resize plan := do
    record (.resize plan)
    return if table.unresizable.any (·.means plan.source) then .error .failed else .ok ()

end RecordingTable
end MediaSite
