import MediaSite.Proofs.Files.Changes

namespace MediaSite

/-!
# What writing and copying come to

To write to a file is to open it, which empties it or creates it, and then to fill it.
Opening can be refused, and then nothing has changed.  Filling can break off, and then the
file holds what got there.  So an operation that fails has either changed nothing or left
part of the content behind (`FileTree.write_cases`, `FileTree.copy_cases`).

A path leads to a file that was opened from then on (`FileTree.Opens.leads`).
-/

namespace FileTree

variable {tree done : FileTree} {path source target : Path} {location origin : Location}
  {content : Content} {problem : FileError}

/-! ## One operation after another -/

section InTurn

variable {α β γ : Type} {first : FileAction α} {next : α → FileAction β}

theorem inTurn_assoc (first : FileAction α) (next : α → FileAction β) (last : β → FileAction γ) :
    inTurn (inTurn first next) last = inTurn first fun value => inTurn (next value) last := by
  funext tree
  unfold inTurn
  rcases first tree with ⟨problem | value, middle⟩ <;> rfl

theorem inTurn_ok {value : α} (run : first tree = (.ok value, done)) :
    inTurn first next tree = next value done := by
  rw [inTurn, run]

theorem inTurn_error (run : first tree = (.error problem, done)) :
    inTurn first next tree = (.error problem, done) := by
  rw [inTurn, run]

theorem inTurn_eq_ok_iff {value : β} :
    inTurn first next tree = (.ok value, done) ↔
      ∃ found middle, first tree = (.ok found, middle) ∧ next found middle = (.ok value, done) := by
  unfold inTurn
  rcases first tree with ⟨problem | found, middle⟩
  · exact ⟨nofun, nofun⟩
  · constructor
    · exact fun run => ⟨found, middle, rfl, run⟩
    · rintro ⟨_, _, ⟨⟩, run⟩
      exact run

/-- What holds of every tree that an operation leaves holds of what several leave in turn. -/
theorem inTurn_preserves {P : FileTree → Prop} (start : P (first tree).2)
    (rest : ∀ value middle, first tree = (.ok value, middle) → P middle → P (next value middle).2) :
    P (inTurn first next tree).2 := by
  unfold inTurn
  rcases run : first tree with ⟨problem | value, middle⟩
  · rwa [run] at start
  · rw [run] at start
    exact rest value middle run start

end InTurn

/-! ## Opening -/

/-- A path leads to a location at which a file can be opened for writing. -/
structure Opens (tree : FileTree) (path : Path) (location : Location) : Prop where
  spot : tree.resolve true path = .ok (.free location) ∨
    ∃ old, tree.find path = .ok (location, .file old)
  unlocked : location ∉ tree.medium.locked
  leads : ∀ content, (tree.put location (.file content)).find path = .ok (location, .file content)

theorem ne_nil_of_file (stands : tree.get? location = some (.file content)) : location ≠ [] := by
  rintro rfl
  cases stands

theorem ne_nil_of_free (free : tree.get? location = none) : location ≠ [] := by
  rintro rfl
  cases free

theorem get?_of_resolve_free {followLast : Bool}
    (found : tree.resolve followLast path = .ok (.free location)) : tree.get? location = none := by
  rw [resolve_eq_walk found] at found
  exact get?_of_walk_free found

namespace Opens

theorem vacant (opens : Opens tree path location) :
    tree.get? location = none ∨ ∃ old, tree.get? location = some (.file old) :=
  opens.spot.imp get?_of_resolve_free fun ⟨old, found⟩ => ⟨old, get?_of_find_file found⟩

theorem nonempty (opens : Opens tree path location) : location ≠ [] := by
  rcases opens.vacant with free | ⟨old, stands⟩
  · exact ne_nil_of_free free
  · exact ne_nil_of_file stands

theorem changes (opens : Opens tree path location) (content : Content) :
    Changes tree (tree.put location (.file content)) [(location, content)] :=
  changes_put_file content opens.nonempty opens.vacant

theorem get?_put (opens : Opens tree path location) (content : Content) :
    (tree.put location (.file content)).get? location = some (.file content) := by
  rw [FileTree.get?_put opens.nonempty, if_pos rfl]

end Opens

/-- It is enough that the path leads there with some content. -/
theorem opens_of_find (spot : tree.resolve true path = .ok (.free location) ∨
      ∃ old, tree.find path = .ok (location, .file old))
    (nonempty : location ≠ []) (unlocked : location ∉ tree.medium.locked)
    (found : (tree.put location (.file content)).find path = .ok (location, .file content)) :
    Opens tree path location := by
  refine ⟨spot, unlocked, fun other => ?_⟩
  have stands : (tree.put location (.file content)).get? location = some (.file content) := by
    rw [get?_put nonempty, if_pos rfl]
  have changes := changes_put_file other nonempty (.inr ⟨content, stands⟩)
  have here : ((tree.put location (.file content)).put location (.file other)).get? location =
      some (.file other) := by
    rw [get?_put nonempty, if_pos rfl]
  have named := find_of_changes changes (.file here) found
  rwa [put_put] at named

theorem opens_of_file (found : tree.find path = .ok (location, .file content))
    (unlocked : location ∉ tree.medium.locked) : Opens tree path location := by
  have stands := get?_of_find_file found
  have nonempty := ne_nil_of_file stands
  have named : (tree.put location (.file content)).find path = .ok (location, .file content) := by
    refine find_of_changes (changes_put_file content nonempty (.inr ⟨content, stands⟩))
      (.file ?_) found
    rw [get?_put nonempty, if_pos rfl]
  exact opens_of_find (.inr ⟨content, found⟩) nonempty unlocked named

/-- A file put at a free name is all that the name can lead to. -/
theorem eq_of_walk_put_file {followLast : Bool} {links : Nat} {here : Location}
    {segments : List Text} {place : Location} {entry : Entry}
    (found : walk tree followLast links here segments = .ok (.free location))
    (named : walk (tree.put location (.file content)) followLast links here segments =
      .ok (.taken place entry)) : place = location ∧ entry = .file content := by
  have free := get?_of_walk_free found
  have grows : Grows tree (tree.put location (.file content)) := grows_put free
  have made : (tree.put location (.file content)).get? location = some (.file content) := by
    rw [get?_put (ne_nil_of_free free), if_pos rfl]
  fun_induction walk tree followLast links here segments <;> try cases found
  all_goals grind [walk, Grows]

theorem opens_of_free (found : tree.resolve true path = .ok (.free location))
    (isFile : (tree.put location (.file content)).isFile path = true)
    (unlocked : location ∉ tree.medium.locked) : Opens tree path location := by
  rcases isFile_eq_true_iff.mp isFile with ⟨place, held, named⟩
  have way := find_eq_ok_iff.mp named
  have onWalk := found
  rw [resolve_eq_walk found] at onWalk way
  rcases eq_of_walk_put_file onWalk way with ⟨rfl, same⟩
  exact opens_of_find (.inl found) (ne_nil_of_free (get?_of_walk_free onWalk)) unlocked
    (same ▸ named)

theorem openAt_eq (location : Location) (tree : FileTree) : openAt location tree =
    if location ∈ tree.medium.locked then (.error .permissionDenied, tree)
    else (.ok location, tree.put location (.file (.text []))) := by
  rw [openAt]
  exact if_congr List.contains_iff_mem rfl rfl

theorem openFile_ok (opened : openFile path tree = (.ok location, done)) :
    Opens tree path location ∧ done = tree.put location (.file (.text [])) := by
  have unlocked_of_openAt {place : Location}
      (opened : openAt place tree = (.ok location, done)) : place ∉ tree.medium.locked ∧
        place = location ∧ tree.put place (.file (.text [])) = done := by
    rw [openAt_eq] at opened
    split at opened
    · cases opened
    · rename_i unlocked
      cases opened
      exact ⟨unlocked, rfl, rfl⟩
  unfold openFile at opened
  split at opened
  · rename_i found
    rcases unlocked_of_openAt opened with ⟨unlocked, rfl, rfl⟩
    exact ⟨opens_of_file (find_eq_ok_iff.mpr found) unlocked, rfl⟩
  · cases opened
  · rename_i found
    split at opened
    · rename_i isFile
      rcases unlocked_of_openAt opened with ⟨unlocked, rfl, rfl⟩
      exact ⟨opens_of_free found isFile unlocked, rfl⟩
    · cases opened
  · cases opened

/-- What cannot be opened stays as it is, and if it is a file, nobody may write to it. -/
theorem openFile_error (failed : openFile path tree = (.error problem, done)) :
    done = tree ∧ ∀ location content, tree.find path = .ok (location, .file content) →
      problem = .permissionDenied ∧ location ∈ tree.medium.locked := by
  have locked_of_openAt {place : Location} (failed : openAt place tree = (.error problem, done)) :
      done = tree ∧ problem = .permissionDenied ∧ place ∈ tree.medium.locked := by
    rw [openAt_eq] at failed
    split at failed
    · rename_i locked
      cases failed
      exact ⟨rfl, rfl, locked⟩
    · cases failed
  have nothing {outcome : Except FileError Spot} (resolved : tree.resolve true path = outcome)
      (other : ∀ location content, outcome ≠ .ok (.taken location (.file content)))
      (location : Location) (content : Content) :
      tree.find path ≠ .ok (location, .file content) := by
    rw [Ne, find_eq_ok_iff, resolved]
    exact other location content
  unfold openFile at failed
  split at failed
  · rename_i place old found
    rcases locked_of_openAt failed with ⟨same, denied, locked⟩
    refine ⟨same, fun location content named => ?_⟩
    rw [find_eq_ok_iff, found] at named
    cases named
    exact ⟨denied, locked⟩
  · rename_i place entry noFile found
    cases failed
    exact ⟨rfl, fun location content named => absurd named
      (nothing found (by rintro _ _ ⟨⟩; exact noFile _ rfl) location content)⟩
  · rename_i found
    refine ⟨?_, fun location content named => absurd named (nothing found nofun location content)⟩
    split at failed
    · exact (locked_of_openAt failed).1
    · cases failed
      rfl
  · rename_i found
    cases failed
    exact ⟨rfl, fun location content named => absurd named (nothing found nofun location content)⟩

/-- A path that names a file opens it, unless nobody may write to it. -/
theorem openFile_of_file (found : tree.find path = .ok (location, .file content)) :
    openFile path tree = openAt location tree := by
  rw [find_eq_ok_iff] at found
  rw [openFile, found]

/-! ## Filling -/

/-- There is room for all of a content at a location. -/
def HasRoom (tree : FileTree) (location : Location) (content : Content) : Prop :=
  tree.medium.full.lookup (location, content) = none

theorem Changes.hasRoom_iff {before after : FileTree} {writes : List (Location × Content)}
    (changes : Changes before after writes) :
    after.HasRoom location content ↔ before.HasRoom location content := by
  rw [HasRoom, HasRoom, changes.full]

theorem fill_of_hasRoom (room : tree.HasRoom location content) :
    fill location content tree = (.ok (), tree.put location (.file content)) := by
  rw [fill, show tree.medium.full.lookup (location, content) = none from room]

/-- What is filled holds the content, or part of it if there is no room. -/
theorem fill_cases (location : Location) (content : Content) (tree : FileTree) :
    tree.HasRoom location content ∧
      fill location content tree = (.ok (), tree.put location (.file content)) ∨
    ¬ tree.HasRoom location content ∧
      ∃ part, fill location content tree = (.error .noSpace, tree.put location (.file part)) := by
  cases room : tree.medium.full.lookup (location, content) with
  | none => exact .inl ⟨room, fill_of_hasRoom room⟩
  | some part =>
      refine .inr ⟨fun free => ?_, part, by rw [fill, room]⟩
      cases room.symm.trans free

/-! ## Writing -/

/-- A write is refused and changes nothing; or its content, or part of it if there is no room,
stands where the path leads. -/
theorem write_cases (path : Path) (content : Content) (tree : FileTree) :
    (∃ problem, write path content tree = (.error problem, tree) ∧
      ∀ location old, tree.find path = .ok (location, .file old) →
        problem = .permissionDenied ∧ location ∈ tree.medium.locked) ∨
    ∃ location, Opens tree path location ∧
      (tree.HasRoom location content ∧
          write path content tree = (.ok (), tree.put location (.file content)) ∨
        ¬ tree.HasRoom location content ∧
          ∃ part, write path content tree = (.error .noSpace, tree.put location (.file part))) := by
  rcases opened : openFile path tree with ⟨problem | location, done⟩
  · rcases openFile_error opened with ⟨rfl, locked⟩
    exact .inl ⟨problem, inTurn_error opened, locked⟩
  · rcases openFile_ok opened with ⟨opens, rfl⟩
    refine .inr ⟨location, opens, ?_⟩
    have filling : write path content tree =
        fill location content (tree.put location (.file (.text []))) := inTurn_ok opened
    rw [filling]
    have result := fill_cases location content (tree.put location (.file (.text [])))
    simp only [put_put] at result
    exact result

theorem write_medium (path : Path) (content : Content) (tree : FileTree) :
    (write path content tree).2.medium = tree.medium := by
  rcases write_cases path content tree with
    ⟨_, refused, _⟩ | ⟨_, _, ⟨_, written⟩ | ⟨_, _, broken⟩⟩
  · rw [refused]
  · rw [written, put_medium]
  · rw [broken, put_medium]

/-! ## Copying -/

theorem lockLike_entries (tree : FileTree) (source location : Location) :
    (tree.lockLike source location).entries = tree.entries := by
  unfold lockLike
  split <;> rfl

@[simp]
theorem lockLike_get? (tree : FileTree) (source location place : Location) :
    (tree.lockLike source location).get? place = tree.get? place := by
  unfold lockLike
  split <;> rfl

theorem lockLike_put (tree : FileTree) (source location place : Location) (entry : Entry) :
    (tree.put place entry).lockLike source location =
      (tree.lockLike source location).put place entry := by
  unfold lockLike
  rw [put_medium]
  split <;> rfl

theorem lockLike_of_unlocked (unlocked : origin ∉ tree.medium.locked) (location : Location) :
    tree.lockLike origin location = tree :=
  if_neg fun locked => unlocked (List.contains_iff_mem.mp locked)

theorem Changes.lockLike {before after : FileTree} {writes : List (Location × Content)}
    (changes : Changes before after writes) (written : location ∈ writes.map Prod.fst)
    (source : Location) : Changes before (after.lockLike source location) writes := by
  unfold FileTree.lockLike
  split
  · exact changes.lock written
  · exact changes

/-- What comes from one location to another: a file that is opened is empty. -/
def Content.pouredFrom (content : Content) (source location : Location) : Content :=
  if source = location then .text [] else content

theorem pour_eq (nonempty : location ≠ []) (stands : tree.get? origin = some (.file content)) :
    pour origin location (tree.put location (.file (.text []))) =
      fill location (Content.pouredFrom content origin location)
        ((tree.lockLike origin location).put location (.file (.text []))) := by
  rw [pour, get?_put nonempty, lockLike_put, Content.pouredFrom]
  by_cases same : origin = location
  · rw [if_pos same, if_pos same]
  · rw [if_neg same, if_neg same, stands]

theorem Opens.changes_copied (opens : Opens tree path location) (origin : Location)
    (content : Content) :
    Changes tree ((tree.lockLike origin location).put location (.file content))
      [(location, content)] := by
  rw [← lockLike_put]
  exact (opens.changes content).lockLike List.mem_cons_self origin

theorem Opens.leads_copied (opens : Opens tree path location) (origin : Location)
    (content : Content) :
    ((tree.lockLike origin location).put location (.file content)).find path =
      .ok (location, .file content) := by
  rw [← lockLike_put]
  have stands := opens.get?_put content
  have same := changes_put_file content opens.nonempty (.inr ⟨content, stands⟩)
  rw [put_put] at same
  refine find_of_changes (same.lockLike List.mem_cons_self origin) (.file ?_) (opens.leads content)
  rw [lockLike_get?, stands]

/-- A copy is refused and changes nothing; or what the source holds, or part of it if there is
no room, stands where the target leads. -/
theorem copy_cases (source target : Path) (tree : FileTree) :
    (∃ problem, copy source target tree = (.error problem, tree)) ∨
    ∃ origin content location, tree.find source = .ok (origin, .file content) ∧
      Opens tree target location ∧
      (tree.HasRoom location (Content.pouredFrom content origin location) ∧
          copy source target tree = (.ok (), (tree.lockLike origin location).put location
            (.file (Content.pouredFrom content origin location))) ∨
        ¬ tree.HasRoom location (Content.pouredFrom content origin location) ∧
          ∃ part, copy source target tree =
            (.error .noSpace, (tree.lockLike origin location).put location (.file part))) := by
  rcases found : tree.find source with problem | ⟨origin, content | _ | link⟩
  · exact .inl ⟨problem, by rw [copy, found]⟩
  · rcases opened : openFile target tree with ⟨problem | location, done⟩
    · rcases openFile_error opened with ⟨rfl, _⟩
      refine .inl ⟨problem, ?_⟩
      rw [copy, found]
      exact inTurn_error opened
    · rcases openFile_ok opened with ⟨opens, rfl⟩
      refine .inr ⟨origin, content, location, rfl, opens, ?_⟩
      have filling : copy source target tree =
          pour origin location (tree.put location (.file (.text []))) := by
        rw [copy, found]
        exact inTurn_ok opened
      rw [filling, pour_eq opens.nonempty (get?_of_find_file found)]
      have result := fill_cases location (Content.pouredFrom content origin location)
        ((tree.lockLike origin location).put location (.file (.text [])))
      have changes := opens.changes_copied origin (.text [])
      rw [changes.hasRoom_iff] at result
      simp only [put_put] at result
      exact result
  · exact .inl ⟨.notRegular, by rw [copy, found]⟩
  · exact .inl ⟨.notRegular, by rw [copy, found]⟩

/-- Whatever it comes to, a copy writes nowhere but where its target leads. -/
theorem changes_copy (source target : Path) (tree : FileTree) :
    ∃ writes, Changes tree (copy source target tree).2 writes ∧
      ∀ item ∈ writes, (copy source target tree).2.find target = .ok (item.1, .file item.2) ∧
        Opens tree target item.1 := by
  rcases copy_cases source target tree with
    ⟨problem, refused⟩ | ⟨origin, content, location, _, opens, ⟨_, copied⟩ | ⟨_, part, broken⟩⟩
  · rw [refused]
    exact ⟨[], Changes.refl tree, List.forall_mem_nil _⟩
  · rw [copied]
    exact ⟨_, opens.changes_copied origin _,
      List.forall_mem_singleton.mpr ⟨opens.leads_copied origin _, opens⟩⟩
  · rw [broken]
    exact ⟨_, opens.changes_copied origin _,
      List.forall_mem_singleton.mpr ⟨opens.leads_copied origin _, opens⟩⟩

theorem copy_ok (copied : copy source target tree = (.ok (), done)) :
    ∃ origin content location, tree.find source = .ok (origin, .file content) ∧
      Opens tree target location ∧
      tree.HasRoom location (Content.pouredFrom content origin location) ∧
      done = (tree.lockLike origin location).put location
        (.file (Content.pouredFrom content origin location)) := by
  rcases copy_cases source target tree with
    ⟨problem, refused⟩ | ⟨origin, content, location, found, opens, ⟨room, written⟩ | ⟨_, _, broken⟩⟩
  · cases copied.symm.trans refused
  · cases copied.symm.trans written
    exact ⟨origin, content, location, found, opens, room, rfl⟩
  · cases copied.symm.trans broken

end FileTree
end MediaSite
