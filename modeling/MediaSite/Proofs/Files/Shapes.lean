import MediaSite.Proofs.Files.Writing

namespace MediaSite

/-!
# Trees of one shape

Where a path leads does not depend on what files hold.  So where there is room for everything,
operations that write other contents come to the same and leave trees of one shape: emptied,
they are equal.  Each operation is shown to go the same way in the emptied tree.
-/

open scoped Text

/-- An entry without what it holds. -/
def Entry.emptied : Entry → Entry
  | .file _ => .file (.text [])
  | other => other

@[simp]
theorem Entry.emptied_directory : Entry.directory.emptied = .directory := rfl

namespace FileTree

/-- A spot without what it holds. -/
def Spot.emptied : Spot → Spot
  | .taken location entry => .taken location entry.emptied
  | .free location => .free location

/-- A tree without what its files hold. -/
def emptied (tree : FileTree) : FileTree :=
  { tree with entries := tree.entries.map fun item => (item.1, item.2.emptied) }

variable {tree : FileTree} {location : Location} {entry : Entry} {path : Path} {α β : Type}

theorem get?_emptied (tree : FileTree) (location : Location) :
    tree.emptied.get? location = (tree.get? location).map Entry.emptied := by
  unfold get?
  split
  · rfl
  · exact lookup_map_snd _ _ _

theorem putEntry_emptied (location : Location) (entry : Entry) (entries : List (Location × Entry)) :
    (putEntry location entry entries).map (fun item => (item.1, item.2.emptied)) =
      putEntry location entry.emptied (entries.map fun item => (item.1, item.2.emptied)) := by
  induction entries with
  | nil => rfl
  | cons item rest inductionHypothesis =>
      rw [putEntry, List.map_cons, putEntry]
      split
      · rfl
      · rw [List.map_cons, inductionHypothesis]

theorem emptied_put (tree : FileTree) (location : Location) (entry : Entry) :
    (tree.put location entry).emptied = tree.emptied.put location entry.emptied := by
  rw [emptied, put, putEntry_emptied]
  rfl

/-! ## Resolving paths -/

theorem walk_emptied (followLast : Bool) (links : Nat) (here : Location) (segments : List Text) :
    walk tree.emptied followLast links here segments =
      (walk tree followLast links here segments).map Spot.emptied := by
  have same (location : Location) := get?_emptied tree location
  fun_induction walk tree followLast links here segments
  all_goals grind [walk, Spot.emptied, Entry.emptied, Except.map]

theorem resolve_emptied (followLast : Bool) (path : Path) :
    tree.emptied.resolve followLast path = (tree.resolve followLast path).map Spot.emptied := by
  unfold resolve
  split
  · rfl
  · split
    · rfl
    · split
      · rfl
      · exact walk_emptied followLast linkLimit [] path.segments

theorem find_emptied (path : Path) :
    tree.emptied.find path = (tree.find path).map fun found => (found.1, found.2.emptied) := by
  rw [find, find, resolve_emptied]
  rcases tree.resolve true path with problem | ⟨location, entry⟩ | location <;> rfl

theorem isDirectory_emptied (path : Path) :
    tree.emptied.isDirectory path = tree.isDirectory path := by
  rw [isDirectory, isDirectory, find_emptied]
  rcases tree.find path with problem | ⟨location, content | _ | target⟩ <;> rfl

theorem isFile_emptied (path : Path) : tree.emptied.isFile path = tree.isFile path := by
  rw [isFile, isFile, find_emptied]
  rcases tree.find path with problem | ⟨location, content | _ | target⟩ <;> rfl

/-! ## Operations -/

/-- What an operation comes to, and the shape of the tree that it leaves. -/
def outline (result : α × FileTree) : α × FileTree :=
  (result.1, result.2.emptied)

theorem makeDirectory_emptied (tree : FileTree) (path : Path) :
    makeDirectory path tree.emptied = outline (makeDirectory path tree) := by
  unfold makeDirectory create
  rw [resolve_emptied]
  rcases tree.resolve false path with problem | ⟨location, entry⟩ | location
  · rfl
  · rfl
  · exact congrArg (Prod.mk _) (emptied_put tree location .directory).symm

theorem makeLineage_emptied (paths : List Path) :
    makeLineage paths tree.emptied = outline (makeLineage paths tree) := by
  induction paths generalizing tree with
  | nil => rfl
  | cons path ancestors inductionHypothesis =>
      rw [makeLineage, makeLineage]
      split
      · rfl
      · have first := makeDirectory_emptied tree path
        rw [first]
        rcases makeDirectory path tree with ⟨problem | ⟨⟩, middle⟩
        · cases problem <;> simp only [outline, isDirectory_emptied]
          · rw [inductionHypothesis]
            rcases makeLineage ancestors middle with ⟨problem | ⟨⟩, later⟩
            · rfl
            · simp only [outline, makeDirectory_emptied]
              rcases makeDirectory path later with ⟨problem | ⟨⟩, last⟩
              · simp only [isDirectory_emptied]
                split <;> rfl
              · rfl
          all_goals split <;> rfl
        · rfl

theorem openAt_emptied (location : Location) :
    openAt location tree.emptied = outline (openAt location tree) := by
  rw [openAt_eq, openAt_eq, show tree.emptied.medium = tree.medium from rfl]
  split
  · rfl
  · rw [outline, emptied_put]
    rfl

theorem openFile_emptied (tree : FileTree) (path : Path) :
    openFile path tree.emptied = outline (openFile path tree) := by
  rw [openFile, openFile, resolve_emptied]
  rcases tree.resolve true path with problem | ⟨location, content | _ | target⟩ | location
  · rfl
  · exact openAt_emptied location
  · rfl
  · rfl
  · have same : (tree.emptied.put location (.file (.text []))).isFile path =
        (tree.put location (.file (.text []))).isFile path := by
      have shape := emptied_put tree location (.file (.text []))
      exact (congrArg (isFile · path) shape).symm.trans (isFile_emptied path)
    simp only [Except.map, Spot.emptied, same]
    split
    · exact openAt_emptied location
    · rfl

/-- Where there is room for everything, it does not matter what is written. -/
theorem write_emptied (roomy : tree.medium.full = []) (path : Path) (content : Content) :
    write path (.text []) tree.emptied = outline (write path content tree) := by
  have opening := openFile_emptied tree path
  rcases opened : openFile path tree with ⟨problem | location, done⟩
  · rw [opened] at opening
    rw [write, write, inTurn_error opening, inTurn_error opened]
    rfl
  · rw [opened] at opening
    rcases openFile_ok opened with ⟨_, rfl⟩
    have room (content : Content) : List.lookup (location, content) tree.medium.full = none := by
      rw [roomy]
      rfl
    have fills : write path content tree =
        (.ok (), (tree.put location (.file (.text []))).put location (.file content)) := by
      rw [write, inTurn_ok opened]
      exact fill_of_hasRoom (room content)
    have shape : write path (.text []) tree.emptied =
        (.ok (), (tree.put location (.file (.text []))).emptied.put location
          (.file (.text []))) := by
      rw [write, inTurn_ok opening]
      exact fill_of_hasRoom (room (.text []))
    rw [fills, shape, outline, emptied_put _ location (.file content)]
    rfl

end FileTree
end MediaSite
