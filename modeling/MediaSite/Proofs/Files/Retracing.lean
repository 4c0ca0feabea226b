import MediaSite.Proofs.Files.Directories

namespace MediaSite

/-!
# Writing, copying and making directories again

Below a root that is a directory, in a regular tree, each of these operations can be
repeated: whether it succeeds, and why not, is the same again.  A path below the root may
have a directory missing on its way the first time and not the second; so it is required
that nothing is missing when a file is written, which holds when its directory has been
made.  And a file that is copied has to stand elsewhere.
-/

open scoped Text

theorem Path.names_ne_nil {names : List Text} (downward : Downward names) :
    Text.join ['/'] names ≠ [] := by
  intro empty
  have first : ([] : Text) ∈ names := by
    rw [← segments_names downward, empty]
    exact List.mem_cons_self
  cases (downward.proper [] first).1

theorem Downward.front {up : List Text} {last : Text} (downward : Downward (up ++ [last]))
    (some : up ≠ []) : Downward up :=
  ⟨some, (List.forall_mem_append.mp downward.proper).1,
    (List.forall_mem_append.mp downward.whole).1⟩

theorem Path.joinNames_concat (root : Path) {up : List Text} {last : Text}
    (downward : Downward (up ++ [last])) (some : up ≠ []) :
    (root.joinNames (up ++ [last])).text = (root.joinNames up).text ++ '/' :: last := by
  have above := downward.front some
  rw [joinNames, joinNames, ← join_append root (names_ne_nil above) (relative_names above),
    Text.join_of_append _ some (List.cons_ne_nil _ _), List.append_assoc,
    show Text.join ['/'] [last] = last from List.intercalate_singleton]
  rfl

namespace FileTree

variable {tree later : FileTree} {root path : Path} {location base : Location} {content : Content}
  {names : List Text} {links : Nat} {writes : List (Location × Content)}

/-! ## Paths below a root -/

theorem Grounded.below (grounded : tree.Grounded root base) (filled : root.text ≠ [])
    (downward : Downward names) : Below tree base (root.joinNames names) names := by
  have relativeNames := Path.relative_names downward
  rcases grounded.rooted with ⟨empty, _⟩ | found
  · exact absurd empty filled
  · have relative := (relative_of_find found).2
    have walked := find_eq_ok_iff.mp found
    rw [resolve_eq_walk walked] at walked
    refine ⟨Path.join_ne_nil root (Path.names_ne_nil downward),
      (Path.isAbsolute_join filled relativeNames).trans relative, ?_⟩
    rcases Path.segments_join filled relative relativeNames with ⟨front, joined, same | slash⟩
    · rw [same] at walked
      exact ⟨front, by rw [Path.joinNames, joined, Path.segments_names downward], walked⟩
    · rw [slash] at walked
      exact ⟨front, by rw [Path.joinNames, joined, Path.segments_names downward],
        walk_of_slash grounded.free walked⟩

/-! ## Making directories -/

theorem length_le_join {segments : List Text} (filled : ∀ name ∈ names, name ≠ [])
    (part : names.Sublist segments) : names.length ≤ (Text.join ['/'] segments).length := by
  induction segments generalizing names with
  | nil =>
      rw [List.sublist_nil.mp part]
      exact Nat.zero_le _
  | cons first rest inductionHypothesis =>
      have own : (Text.join ['/'] rest).length + min 1 first.length ≤
          (Text.join ['/'] (first :: rest)).length := by
        by_cases alone : rest = []
        · subst alone
          rw [Text.join, Text.join, List.intercalate_singleton, List.intercalate_nil,
            List.length_nil, Nat.zero_add]
          exact Nat.min_le_right _ _
        · rw [Text.join_cons_of_ne_nil _ _ alone, List.length_append, List.length_append,
            List.length_singleton]
          omega
      rcases List.sublist_cons_iff.mp part with inRest | ⟨names, rfl, inRest⟩
      · exact (inductionHypothesis filled inRest).trans (Nat.le_of_add_right_le own)
      · rcases List.forall_mem_cons.mp filled with ⟨here, later⟩
        have rest := inductionHypothesis later inRest
        have positive := List.length_pos_of_ne_nil here
        rw [List.length_cons]
        omega

theorem Below.makeDirectories {outcome : Except FileError Unit} {done : FileTree}
    (regular : tree.Regular) (below : Below tree base path names) (proper : Proper names)
    (run : makeDirectories path tree = (outcome, done)) :
    Ahead base tree done [] ∧ ∀ problem, outcome = .error problem → Stuck path problem done := by
  refine below.makeLineage regular proper ?_ run
  rw [← Path.join_segments below.relative]
  rcases below.leads with ⟨front, split, _⟩
  refine length_le_join (fun name member => ?_) (split ▸ List.sublist_append_right front names)
  rintro rfl
  cases (proper [] member).1

/-- Directories that were made are there, whatever happens to the files. -/
theorem makeDirectories_of_made {done : FileTree}
    (made : makeDirectories path tree = (.ok (), done))
    (changes : Changes done later writes) : makeDirectories path later = (.ok (), later) := by
  rcases lineage_eq_cons path.text.length path with ⟨ancestors, same⟩
  rw [FileTree.makeDirectories, same] at made ⊢
  apply makeLineage_of_isDirectory
  refine ((makeLineage_spec made).2 path ancestors rfl rfl).imp_right fun directory => ?_
  rcases isDirectory_eq_true_iff.mp directory with ⟨location, found⟩
  exact isDirectory_eq_true_iff.mpr ⟨location, changes.find_directory found⟩

/-- Below a root, making directories can be repeated. -/
theorem repeatable_makeDirectories (regular : tree.Regular) (below : Below tree base path names)
    (proper : Proper names) : Repeatable base (makeDirectories path) tree := by
  rcases run : makeDirectories path tree with ⟨outcome, done⟩
  rcases below.makeDirectories regular proper run with ⟨ahead, stuck⟩
  refine ⟨[], regular.makeDirectories path, ?_, List.forall_mem_nil _, fun later more onward => ?_⟩
  · rw [run]
    exact ahead
  · rw [run] at onward ⊢
    cases outcome with
    | ok _ => exact makeDirectories_of_made run onward.changes
    | error problem =>
        rcases lineage_eq_cons path.text.length path with ⟨ancestors, same⟩
        have free := ahead.changes.linkFree regular.free
        rw [FileTree.makeDirectories, same]
        exact ((stuck problem rfl).of_changes free onward.changes).makeLineage
          (onward.changes.linkFree free) below.filled ancestors

/-- So can be making the directory for a path below. -/
theorem repeatable_makeParent (regular : tree.Regular) {up : List Text} {last : Text}
    (below : Below tree base path (up ++ [last])) (proper : Proper (up ++ [last])) {parent : Path}
    (found : path.parent? = some parent) : Repeatable base (makeDirectories parent) tree := by
  rcases below.above proper regular.free found with ⟨empty, _⟩ | ⟨above, _⟩
  · refine .of_idle regular (.ok ()) fun later writes ahead => ?_
    rcases lineage_eq_cons parent.text.length parent with ⟨ancestors, same⟩
    rw [makeDirectories, same]
    exact makeLineage_of_isDirectory (.inl (List.isEmpty_iff.mpr empty))
  · exact repeatable_makeDirectories regular above (List.forall_mem_append.mp proper).1

/-- Where no directory can be made, the way to what is below leads to something. -/
theorem Stuck.resolve_behind {parent : Path} {problem : FileError}
    (stuck : Stuck parent problem tree)
    (free : tree.LinkFree) (accepted : path.Accepted) (start : parent.text <+: path.text)
    (filled : parent.text ≠ []) {last : Text} (split : path.segments = parent.segments ++ [last]) :
    tree.resolve true path ≠ .error .notFound := by
  rcases stuck.behind free accepted start filled split rfl with same | ⟨_, behind, _⟩
  · exact same.resolve_ne_missing
  · exact behind.resolve_ne_missing

/-- Nothing is missing on the way to a name at the root. -/
theorem Grounded.resolve_name (grounded : tree.Grounded root base) (filled : root.text ≠ [])
    {name : Text} (downward : Downward [name]) :
    tree.resolve true (root.joinNames [name]) ≠ .error .notFound := by
  intro missing
  have accepted := (grounded.below filled downward).accepted missing
  rw [resolve_of_accepted accepted, grounded.walk_joinNames downward] at missing
  exact walk_proper_ne_missing grounded.free (downward.proper name List.mem_cons_self) missing

/-- When it was tried to make the directory above, nothing is missing on the way to a path,
whether that succeeded or not. -/
theorem Grounded.resolve_behind (grounded : tree.Grounded root base) (regular : tree.Regular)
    (filled : root.text ≠ []) {up : List Text} {last : Text} (downward : Downward (up ++ [last]))
    (some : up ≠ []) :
    (makeDirectories (root.joinNames up) tree).2.resolve true (root.joinNames (up ++ [last])) ≠
      .error .notFound := by
  have above := downward.front some
  have lastProper := downward.proper last (List.mem_append_right up List.mem_cons_self)
  have text := Path.joinNames_concat root downward some
  have start : (root.joinNames up).text <+: (root.joinNames (up ++ [last])).text :=
    ⟨'/' :: last, text.symm⟩
  have belowUp := grounded.below filled above
  have split : (root.joinNames (up ++ [last])).segments = (root.joinNames up).segments ++ [last] := by
    have noSlash := downward.whole last (List.mem_append_right up List.mem_cons_self)
    rw [Path.segments_of_relative (grounded.below filled downward).relative, text,
      List.splitOn_append_cons_self, Path.segments_of_relative belowUp.relative,
      List.splitOn_eq_singleton noSlash]
  rcases run : makeDirectories (root.joinNames up) tree with ⟨outcome, done⟩
  rcases belowUp.makeDirectories regular above.proper run with ⟨ahead, stuck⟩
  have free := ahead.changes.linkFree regular.free
  intro missing
  have accepted := ((grounded.below filled downward).of_changes ahead.changes).accepted missing
  cases outcome with
  | ok _ =>
      rcases lineage_eq_cons (root.joinNames up).text.length (root.joinNames up) with
        ⟨ancestors, same⟩
      have directory := ((makeLineage_spec run).2 _ ancestors same rfl).resolve_left
        fun empty => belowUp.filled (List.isEmpty_iff.mp empty)
      exact resolve_behind_directory accepted free start belowUp.filled (List.forall_mem_nil _)
        split lastProper directory missing
  | error problem =>
      exact (stuck problem rfl).resolve_behind free accepted start belowUp.filled split missing

/-! ## Writing -/

/-- A file that is put at a free spot along names is found there. -/
theorem walk_put_file {followLast : Bool} (free : tree.LinkFree) (proper : Proper names)
    (found : walk tree followLast links base names = .ok (.free location)) :
    walk (tree.put location (.file content)) followLast links base names =
      .ok (.taken location (.file content)) := by
  have nothing := get?_of_walk_free found
  have nonempty : location ≠ [] := by
    rintro rfl
    cases nothing
  have place := walk_proper_free free proper found
  have grows : Grows tree (tree.put location (.file content)) := grows_put nothing
  induction names generalizing base with
  | nil =>
      rw [walk] at found
      cases found
  | cons name names inductionHypothesis =>
      rcases List.forall_mem_cons.mp proper with ⟨here, later⟩
      rw [walk, here.1, if_neg Bool.false_ne_true, if_neg here.2] at found ⊢
      split at found
      · cases found
      · rename_i short
        rw [if_neg short]
        split at found
        · split at found
          · cases found
            have last : names = [] := by
              cases names with
              | nil => rfl
              | cons second names =>
                  exact absurd (List.append_cancel_left place) (by simp)
            rw [get?_put nonempty, if_pos rfl, last]
            rfl
          · cases found
        · split at found <;> cases found
        · rename_i directory
          rw [grows _ _ directory]
          refine inductionHypothesis later found ?_
          rw [place, List.append_assoc]
          rfl
        · rename_i link
          exact absurd link (free _ _)

/-- A file below a root can be filled again. -/
theorem repeatable_fill (regular : tree.Regular) {old : Content}
    (stands : tree.get? location = some (.file old)) (below : base <+: location)
    (content : Content) : Repeatable base (fill location content) tree := by
  have filling (outcome : Except FileError Unit) (rest : Content)
      (same : ∀ later, later.medium = tree.medium →
        fill location content later = (outcome, later.put location (.file rest))) :
      Repeatable base (fill location content) tree := by
    refine ⟨[(location, rest)], ?_, ?_, List.forall_mem_singleton.mpr below,
      fun later more ahead => ?_⟩
    · rw [same tree rfl]
      exact regular.put_file stands rest
    · rw [same tree rfl]
      exact ⟨changes_put_file rest (ne_nil_of_file stands) (.inr ⟨old, stands⟩),
        outside_put below _, rfl⟩
    · rw [same tree rfl] at ahead ⊢
      exact same later ahead.medium
  cases room : tree.medium.full.lookup (location, content) with
  | none =>
      refine filling (.ok ()) content fun later medium => ?_
      rw [fill, medium, room]
  | some part =>
      refine filling (.error .noSpace) part fun later medium => ?_
      rw [fill, medium, room]

/-- Below a root, where nothing is missing on the way, a file can be opened again. -/
theorem repeatable_openFile (regular : tree.Regular) (grounded : tree.Grounded root base)
    (downward : Downward names)
    (found : tree.resolve true (root.joinNames names) ≠ .error .notFound) :
    Repeatable base (openFile (root.joinNames names)) tree := by
  have again {later : FileTree} (medium : later.medium = tree.medium) (location : Location) :
      openAt location later = if location ∈ tree.medium.locked then (.error .permissionDenied, later)
        else (.ok location, later.put location (.file (.text []))) := by
    rw [openAt_eq, medium]
  have opened {location : Location} (opens : Opens tree (root.joinNames names) location)
      (run : openFile (root.joinNames names) tree = openAt location tree) :
      Repeatable base (openFile (root.joinNames names)) tree := by
    have named := opens.leads (.text [])
    have changes := opens.changes (.text [])
    rcases (grounded.of_changes changes).find_joinNames downward named with ⟨rfl, _⟩
    have below := List.prefix_append base names
    rw [again rfl, if_neg opens.unlocked] at run
    refine ⟨[(base ++ names, .text [])], ?_, ?_, List.forall_mem_singleton.mpr below,
      fun later more onward => ?_⟩
    · rw [run]
      exact regular.put_opened opens (.text [])
    · rw [run]
      exact ⟨changes, outside_put below _, rfl⟩
    · rw [run] at onward ⊢
      rcases onward.changes.find_file named with ⟨new, there⟩
      rw [openFile_of_file there, again onward.medium, if_neg opens.unlocked]
      rfl
  cases resolved : tree.resolve true (root.joinNames names) with
  | error problem =>
      have lasting : problem ≠ .notFound := fun same => found (resolved.trans (congrArg _ same))
      refine .of_idle regular (.error problem) fun later writes ahead => ?_
      rw [openFile, resolve_error_of_changes regular.free ahead.changes lasting resolved]
  | ok spot =>
      rcases spot with ⟨location, old | _ | target⟩ | location
      · have named := find_eq_ok_iff.mpr resolved
        by_cases locked : location ∈ tree.medium.locked
        · refine .of_idle regular (.error .permissionDenied) fun later writes ahead => ?_
          rcases ahead.changes.find_file named with ⟨new, there⟩
          rw [openFile_of_file there, again ahead.medium, if_pos locked]
        · exact opened (opens_of_file named locked) (openFile_of_file named)
      · refine .of_idle regular (.error .isDirectory) fun later writes ahead => ?_
        rw [openFile,
          find_eq_ok_iff.mp (ahead.changes.find_directory (find_eq_ok_iff.mpr resolved))]
      · exact absurd resolved resolve_ne_link
      · have vacant := resolved
        rw [resolve_eq_walk resolved, grounded.walk_joinNames downward] at vacant
        have nothing := get?_of_walk_free vacant
        have unlocked : location ∉ tree.medium.locked := fun locked => by
          rcases regular.locked location locked with ⟨content, file⟩
          cases nothing.symm.trans file
        have isFile :
            (tree.put location (.file (.text []))).isFile (root.joinNames names) = true := by
          have put := grounded.of_changes
            (changes_put_file (.text []) (ne_nil_of_free nothing) (.inl nothing))
          rw [isFile_eq_true_iff]
          refine ⟨location, .text [], find_eq_ok_iff.mpr ?_⟩
          rw [resolve_eq_walk resolved, put.walk_joinNames downward]
          exact walk_put_file grounded.free downward.proper vacant
        have run : openFile (root.joinNames names) tree = openAt location tree := by
          rw [openFile, resolved]
          simp only [isFile, if_true]
        exact opened (opens_of_free resolved isFile unlocked) run

/-- What has been opened below a root stands there, empty. -/
theorem Grounded.opened {done : FileTree} (grounded : tree.Grounded root base)
    (downward : Downward names)
    (run : openFile (root.joinNames names) tree = (.ok location, done)) :
    location = base ++ names ∧ done = tree.put location (.file (.text [])) ∧
      done.get? location = some (.file (.text [])) := by
  rcases openFile_ok run with ⟨opens, rfl⟩
  have after := grounded.of_changes (opens.changes (.text []))
  exact ⟨(after.find_joinNames downward (opens.leads (.text []))).1, rfl, opens.get?_put _⟩

/-- So a file can be written again. -/
theorem repeatable_write (regular : tree.Regular) (grounded : tree.Grounded root base)
    (downward : Downward names) (content : Content)
    (found : tree.resolve true (root.joinNames names) ≠ .error .notFound) :
    Repeatable base (write (root.joinNames names) content) tree := by
  refine (repeatable_openFile regular grounded downward found).inTurn
    fun location done writes run kept ahead => ?_
  rcases grounded.opened downward run with ⟨rfl, _, stands⟩
  exact repeatable_fill kept stands (List.prefix_append base names) content

/-! ## Copying -/

/-- Names lead to what stands where they say, unless one is too long. -/
theorem Regular.walk_names (regular : tree.Regular) (proper : Proper names) {here : Location}
    (directory : tree.get? here = some .directory) (stands : tree.get? (here ++ names) ≠ none) :
    walk tree true links here names = .error .nameTooLong ∨
      ∃ entry, walk tree true links here names = .ok (.taken (here ++ names) entry) := by
  induction names generalizing here with
  | nil => exact .inr ⟨.directory, by rw [walk, List.append_nil]⟩
  | cons name names inductionHypothesis =>
      rcases List.forall_mem_cons.mp proper with ⟨own, later⟩
      have onward : here ++ name :: names = (here ++ [name]) ++ names := by
        rw [List.append_assoc]
        rfl
      rw [onward] at stands ⊢
      rw [walk, own.1, if_neg Bool.false_ne_true, if_neg own.2]
      split
      · exact .inl rfl
      · by_cases last : names = []
        · subst last
          rw [List.append_nil] at stands ⊢
          rcases Option.ne_none_iff_exists'.mp stands with ⟨content | _ | target, found⟩
          · rw [found]
            exact .inr ⟨_, rfl⟩
          · rw [found]
            exact .inr ⟨.directory, by rw [walk]⟩
          · exact absurd found (regular.free _ _)
        · have through := regular.directory_above last stands
          rw [through]
          exact inductionHypothesis later through stands

/-- The path of what stands in a regular tree leads there, or it is too long. -/
theorem Regular.find_names (regular : tree.Regular) (stands : tree.get? names ≠ none)
    (downward : Downward names) :
    tree.find ⟨Text.join ['/'] names⟩ ≠ .error .notFound ∧
      ∀ location content, tree.find ⟨Text.join ['/'] names⟩ = .ok (location, .file content) →
        location = names := by
  have relative := Path.relative_names downward
  have segments := Path.segments_names downward
  by_cases accepted : Path.Accepted ⟨Text.join ['/'] names⟩
  · have walked : walk tree true linkLimit [] names = .error .nameTooLong ∨
        ∃ entry, walk tree true linkLimit [] names = .ok (.taken names entry) :=
      regular.walk_names downward.proper rfl stands
    rw [find, resolve_of_accepted accepted, segments]
    rcases walked with long | ⟨entry, reached⟩
    · rw [long]
      exact ⟨by rintro ⟨⟩, by rintro _ _ ⟨⟩⟩
    · rw [reached]
      refine ⟨by rintro ⟨⟩, ?_⟩
      rintro location content ⟨⟩
      rfl
  · rcases resolve_of_refused accepted with ⟨problem, always, known⟩
    have filled := Path.names_ne_nil downward
    rw [find_of_error (always tree true)]
    exact ⟨fun same => known filled relative (Except.error.inj same), by rintro _ _ ⟨⟩⟩

/-- A file that stands elsewhere and may be written can be copied below a root again, where
nothing is missing on the way. -/
theorem repeatable_copy (regular : tree.Regular) (grounded : tree.Grounded root base)
    (downward : Downward names) {source : Path} (known : tree.find source ≠ .error .notFound)
    (apart : ∀ location content, tree.find source = .ok (location, .file content) →
      ¬ base <+: location ∧ location ∉ tree.medium.locked)
    (found : tree.resolve true (root.joinNames names) ≠ .error .notFound) :
    Repeatable base (copy source (root.joinNames names)) tree := by
  cases resolved : tree.resolve true source with
  | error problem =>
      have lasting : problem ≠ .notFound := fun same =>
        known ((find_of_error resolved).trans (congrArg _ same))
      refine .of_idle regular (.error problem) fun later writes ahead => ?_
      rw [copy, find_of_error (resolve_error_of_changes regular.free ahead.changes lasting resolved)]
  | ok spot =>
      rcases spot with ⟨origin, content | _ | target⟩ | location
      · have source_ := find_eq_ok_iff.mpr resolved
        rcases apart origin content source_ with ⟨outer, unlocked⟩
        -- After the target has been opened it is filled with what the source holds now.
        have filled : Repeatable base (inTurn (openFile (root.joinNames names))
            fun location => fill location content) tree :=
          repeatable_write regular grounded downward content found
        refine filled.congr fun later writes ahead => ?_
        rcases ahead.changes.find_file source_ with ⟨held, there⟩
        rw [copy, there]
        simp only [inTurn]
        rcases run : openFile (root.joinNames names) later with ⟨problem | location, done⟩
        · rfl
        · rcases (grounded.of_changes ahead.changes).opened downward run with ⟨rfl, rfl, _⟩
          -- The source is what it was, since nothing is written where it stands.
          have same : (later.put (base ++ names) (.file (.text []))).get? origin =
              some (.file content) := by
            rw [get?_of_outside (outside_put (List.prefix_append base names) _) outer,
              get?_of_outside ahead.outside outer, get?_of_find_file source_]
          have free : origin ∉ (later.put (base ++ names) (.file (.text []))).medium.locked := by
            rwa [put_medium, ahead.medium]
          simp only [pour, same, lockLike_of_unlocked free]
      · refine .of_idle regular (.error .notRegular) fun later writes ahead => ?_
        rw [copy, ahead.changes.find_directory (find_eq_ok_iff.mpr resolved)]
      · exact absurd resolved resolve_ne_link
      · rw [find, resolved] at known
        exact absurd rfl known

end FileTree
end MediaSite
