import MediaSite.Proofs.Files.Changes
import MediaSite.Proofs.Text.Search

namespace MediaSite

/-!
# Places below a directory

In a tree without links a path leads down and up as it is written.  So what a path
below some root names is known from the directory that the root names and the names
behind it: `FileTree.Rooted.walk_join` takes the way to the root, and
`FileTree.walk_names` goes on from there, through directories only.
-/

open scoped Text

namespace Path

/-! ## Segments -/

theorem segments_of_relative {path : Path} (relative : path.isAbsolute = false) :
    path.segments = path.text.splitOn '/' := by
  rw [segments, relative, if_neg Bool.false_ne_true]

/-- A path that is joined to another begins with its segments, but for a slash at its end. -/
theorem segments_join {root other : Path} (nonempty : root.text ≠ [])
    (relative : root.isAbsolute = false) (below : other.isAbsolute = false) :
    ∃ front, (root.join other).segments = front ++ other.segments ∧
      (root.segments = front ∨ root.segments = front ++ [[]]) := by
  have notEmpty : root.text.isEmpty = false := by
    rw [Bool.eq_false_iff, Ne, List.isEmpty_iff]
    exact nonempty
  have head {front back : Text} (filled : front ≠ []) :
      isAbsolute ⟨front ++ back⟩ = isAbsolute ⟨front⟩ := by
    rw [isAbsolute, List.head?_append_of_ne_nil _ filled, isAbsolute]
  have joined {front : Text} (filled : front ≠ []) (start : isAbsolute ⟨front⟩ = false) :
      segments ⟨front ++ '/' :: other.text⟩ = front.splitOn '/' ++ other.segments := by
    rw [segments_of_relative ((head filled).trans start), segments_of_relative below,
      List.splitOn_append_cons_self]
  unfold join
  rw [below, notEmpty, Bool.or_false, if_neg Bool.false_ne_true]
  by_cases slash : (root.text.getLast? == some '/') = true
  · rw [if_pos slash]
    rcases List.getLast?_eq_some_iff.mp (beq_iff_eq.mp slash) with ⟨front, split⟩
    have filled : front ≠ [] := by
      rintro rfl
      rw [isAbsolute, split] at relative
      cases relative
    have start : isAbsolute ⟨front⟩ = false := by
      have same : isAbsolute ⟨front ++ ['/']⟩ = isAbsolute ⟨front⟩ := head filled
      rwa [← same, ← split]
    refine ⟨front.splitOn '/', ?_, .inr ?_⟩
    · rw [split, List.append_assoc]
      exact joined filled start
    · rw [segments_of_relative relative, split, List.splitOn_append_cons_self]
      rfl
  · rw [if_neg slash, List.append_assoc]
    refine ⟨root.segments, ?_, .inl rfl⟩
    rw [segments_of_relative relative]
    exact joined nonempty relative

end Path

namespace FileTree

variable {tree before after : FileTree} {location base here : Location} {content : Content}
variable {followLast : Bool} {links : Nat}

/-- No link stands anywhere in this tree. -/
def LinkFree (tree : FileTree) : Prop :=
  ∀ location target, tree.get? location ≠ some (.link target)

theorem linkFree_of_entries (none : ∀ item ∈ tree.entries, ∀ target, item.2 ≠ .link target) :
    tree.LinkFree := by
  intro location target link
  unfold get? at link
  split at link
  · cases link
  · exact none _ (mem_of_lookup link) target rfl

theorem Changes.linkFree {writes : List (Location × Content)}
    (changes : Changes before after writes) (free : before.LinkFree) : after.LinkFree :=
  fun location target made => free location target ((changes.links location target).mp made)

/-! ## Walks without links -/

/-- A walk that begins with one to a directory goes on from there. -/
theorem walk_through (free : tree.LinkFree) {front : List Text}
    (found : walk tree true links here front = .ok (.taken base .directory)) (rest : List Text) :
    walk tree followLast links here (front ++ rest) = walk tree followLast links base rest := by
  fun_induction walk tree true links here front <;> try cases found
  all_goals grind [walk, LinkFree]

/-- A slash at the end makes no difference where there is a directory. -/
theorem walk_of_slash (free : tree.LinkFree) {front : List Text}
    (found : walk tree true links here (front ++ [[]]) = .ok (.taken base .directory)) :
    walk tree true links here front = .ok (.taken base .directory) := by
  fun_induction walk tree true links here front
  all_goals grind [walk, LinkFree, Path.isIdle]

/-! ## Roots -/

/-- The directory that paths joined to a root lead down from. -/
def Rooted (tree : FileTree) (root : Path) (base : Location) : Prop :=
  root.text = [] ∧ base = [] ∨ tree.find root = .ok (base, .directory)

theorem Rooted.of_changes {root : Path} {writes : List (Location × Content)}
    (rooted : before.Rooted root base) (changes : Changes before after writes) :
    after.Rooted root base :=
  rooted.imp_right changes.find_directory

/-- A directory that was made is a root. -/
theorem rooted_of_makeDirectories {root : Path} {done : FileTree}
    (made : makeDirectories root tree = (.ok (), done)) : ∃ base, done.Rooted root base := by
  rcases lineage_eq_cons root.text.length root with ⟨ancestors, same⟩
  rcases (makeLineage_spec made).2 root ancestors same rfl with empty | directory
  · exact ⟨[], .inl ⟨List.isEmpty_iff.mp empty, rfl⟩⟩
  · rcases isDirectory_eq_true_iff.mp directory with ⟨base, found⟩
    exact ⟨base, .inr found⟩

theorem relative_of_find {path : Path} {entry : Entry}
    (found : tree.find path = .ok (location, entry)) :
    path.text ≠ [] ∧ path.isAbsolute = false := by
  rw [find_eq_ok_iff] at found
  unfold resolve at found
  split at found
  · cases found
  · split at found
    · cases found
    · split at found
      · cases found
      · rename_i relative
        rw [Bool.or_eq_true, not_or, List.isEmpty_iff, Bool.not_eq_true] at relative
        exact relative

/-- What is joined to a root is walked from where the root leads. -/
theorem Rooted.walk_join {root other : Path} (rooted : tree.Rooted root base)
    (free : tree.LinkFree) (below : other.isAbsolute = false) :
    walk tree followLast linkLimit [] (root.join other).segments =
      walk tree followLast linkLimit base other.segments := by
  rcases rooted with ⟨empty, rfl⟩ | found
  · rw [Path.join, below, empty]
    rfl
  · rcases relative_of_find found with ⟨nonempty, relative⟩
    rw [find_eq_ok_iff] at found
    rw [resolve_eq_walk found] at found
    rcases Path.segments_join nonempty relative below with ⟨front, joined, same | slash⟩
    · rw [same] at found
      rw [joined, walk_through free found]
    · rw [slash] at found
      rw [joined, walk_through free (walk_of_slash free found)]

/-! ## Names -/

/-- Names of files and directories, not those that stand for a step up or for nothing. -/
def Proper (names : List Text) : Prop :=
  ∀ name ∈ names, Path.isIdle name = false ∧ name ≠ ['.', '.']

/-- A name leads to what stands there, and further on only through a directory. -/
theorem walk_name {name : Text} {rest : List Text} (free : tree.LinkFree)
    (proper : Path.isIdle name = false ∧ name ≠ ['.', '.'])
    (found : walk tree true links base (name :: rest) = .ok (.taken location (.file content))) :
    Text.byteLength name ≤ nameLimit ∧
      (rest = [] ∧ location = base ++ [name] ∨
        tree.get? (base ++ [name]) = some .directory ∧
          walk tree true links (base ++ [name]) rest = .ok (.taken location (.file content))) := by
  rw [walk, proper.1, if_neg Bool.false_ne_true, if_neg proper.2] at found
  split at found
  · cases found
  · rename_i short
    refine ⟨Nat.not_lt.mp short, ?_⟩
    split at found
    · split at found <;> cases found
    · split at found
      · rename_i empty
        cases found
        exact .inl ⟨List.isEmpty_iff.mp empty, rfl⟩
      · cases found
    · rename_i directory
      exact .inr ⟨directory, found⟩
    · rename_i link
      exact absurd link (free _ _)

/-- Names lead to a file through directories only, and down to where they say. -/
theorem walk_names {names : List Text} (free : tree.LinkFree) (proper : Proper names)
    (found : walk tree true links base names = .ok (.taken location (.file content))) :
    location = base ++ names ∧ ∀ front rest, names = front ++ rest → front ≠ [] → rest ≠ [] →
      tree.get? (base ++ front) = some .directory := by
  induction names generalizing base with
  | nil =>
      rw [walk] at found
      cases found
  | cons name names inductionHypothesis =>
      rcases List.forall_mem_cons.mp proper with ⟨here, later⟩
      rcases (walk_name free here found).2 with ⟨rfl, rfl⟩ | ⟨directory, further⟩
      · refine ⟨rfl, fun front rest split filled others => ?_⟩
        rcases List.singleton_eq_append_iff.mp split with ⟨empty, _⟩ | ⟨_, empty⟩
        · exact absurd empty filled
        · exact absurd empty others
      · rcases inductionHypothesis later further with ⟨rfl, between⟩
        refine ⟨by rw [List.append_assoc]; rfl, fun front rest split filled others => ?_⟩
        cases front with
        | nil => exact absurd rfl filled
        | cons first front =>
            rcases List.cons.inj split with ⟨rfl, behind⟩
            by_cases last : front = []
            · rw [last]
              exact directory
            · have inner := between front rest behind last others
              rwa [List.append_assoc] at inner

/-- The same names lead to a file of another tree if there are directories on the way. -/
theorem walk_names_again {names : List Text} (free : before.LinkFree) (proper : Proper names)
    (found : walk before true links base names = .ok (.taken location (.file content)))
    (between : ∀ front rest, names = front ++ rest → front ≠ [] → rest ≠ [] →
      after.get? (base ++ front) = some .directory)
    {new : Content} (stands : after.get? (base ++ names) = some (.file new)) :
    walk after true links base names = .ok (.taken (base ++ names) (.file new)) := by
  induction names generalizing base with
  | nil =>
      rw [walk] at found
      cases found
  | cons name names inductionHypothesis =>
      rcases List.forall_mem_cons.mp proper with ⟨here, later⟩
      rcases walk_name free here found with ⟨short, way⟩
      rw [walk, here.1, if_neg Bool.false_ne_true, if_neg here.2, if_neg (Nat.not_lt.mpr short)]
      rcases way with ⟨rfl, _⟩ | ⟨_, further⟩
      · rw [stands]
        rfl
      · by_cases last : names = []
        · subst last
          rw [walk] at further
          cases further
        · have directory := between [name] names rfl (List.cons_ne_nil _ _) last
          rw [directory]
          have inner := inductionHypothesis later further (fun front rest split filled others => by
            rw [List.append_assoc]
            exact between (name :: front) rest (congrArg _ split) (List.cons_ne_nil _ _) others)
            (by rwa [List.append_assoc])
          rwa [List.append_assoc] at inner

/-- What names lead to is where they say. -/
theorem walk_proper_taken {names : List Text} {entry : Entry} (free : tree.LinkFree)
    (proper : Proper names)
    (found : walk tree followLast links base names = .ok (.taken location entry)) :
    location = base ++ names := by
  induction names generalizing base with
  | nil =>
      rw [walk] at found
      cases found
      exact (List.append_nil _).symm
  | cons name names inductionHypothesis =>
      rcases List.forall_mem_cons.mp proper with ⟨here, later⟩
      rw [walk, here.1, if_neg Bool.false_ne_true, if_neg here.2] at found
      split at found
      · cases found
      · split at found
        · split at found <;> cases found
        · split at found
          · rename_i empty
            cases found
            rw [List.isEmpty_iff.mp empty]
          · cases found
        · rw [inductionHypothesis later found, List.append_assoc]
          rfl
        · rename_i link
          exact absurd link (free _ _)

end FileTree

/-! ## Paths of names -/

/-- Names that lead down from a directory, each in one piece. -/
structure Downward (names : List Text) : Prop where
  filled : names ≠ []
  proper : FileTree.Proper names
  whole : ∀ name ∈ names, '/' ∉ name

namespace Path

/-- The path of some names below a root. -/
def joinNames (root : Path) (names : List Text) : Path :=
  root.join ⟨Text.join ['/'] names⟩

variable {names : List Text}

theorem relative_names (downward : Downward names) :
    isAbsolute ⟨Text.join ['/'] names⟩ = false := by
  cases names with
  | nil => exact absurd rfl downward.filled
  | cons name names =>
      rcases List.forall_mem_cons.mp downward.proper with ⟨⟨notIdle, _⟩, _⟩
      cases name with
      | nil => cases notIdle
      | cons first name =>
          have head : (Text.join ['/'] ((first :: name) :: names)).head? = some first := by
            cases names <;> rfl
          rw [isAbsolute, head, beq_eq_false_iff_ne]
          intro slash
          apply (List.forall_mem_cons.mp downward.whole).1
          rw [Option.some.inj slash]
          exact List.mem_cons_self

theorem segments_names (downward : Downward names) :
    segments ⟨Text.join ['/'] names⟩ = names := by
  rw [segments_of_relative (relative_names downward)]
  exact List.splitOn_intercalate '/' downward.whole downward.filled

theorem join_ne_nil (root : Path) {other : Path} (filled : other.text ≠ []) :
    (root.join other).text ≠ [] := by
  rw [join]
  split
  · exact filled
  · split <;> exact List.append_ne_nil_of_right_ne_nil _ filled

/-- What is joined goes on where less is joined. -/
theorem join_append (root : Path) {front : Text} (filled : front ≠ [])
    (relative : isAbsolute ⟨front⟩ = false) (back : Text) :
    (root.join ⟨front ++ back⟩).text = (root.join ⟨front⟩).text ++ back := by
  have same : isAbsolute ⟨front ++ back⟩ = false := by
    rw [isAbsolute, List.head?_append_of_ne_nil _ filled]
    exact relative
  rw [join, join, relative, same]
  split
  · rfl
  · split
    · rw [List.append_assoc]
    · simp only [List.append_assoc]

theorem isAbsolute_join {root other : Path} (nonempty : root.text ≠ [])
    (below : other.isAbsolute = false) : (root.join other).isAbsolute = root.isAbsolute := by
  have notEmpty : root.text.isEmpty = false := by
    rw [Bool.eq_false_iff, Ne, List.isEmpty_iff]
    exact nonempty
  have head (back : Text) : isAbsolute ⟨root.text ++ back⟩ = root.isAbsolute := by
    rw [isAbsolute, List.head?_append_of_ne_nil _ nonempty, isAbsolute]
  rw [join, below, notEmpty, Bool.or_false, if_neg Bool.false_ne_true]
  split
  · exact head other.text
  · rw [List.append_assoc]
    exact head _

theorem segments_joinNames {root : Path} (downward : Downward names)
    (relative : (root.joinNames names).isAbsolute = false) :
    ∃ front, (root.joinNames names).segments = front ++ names := by
  have below := relative_names downward
  by_cases empty : root.text = []
  · refine ⟨[], ?_⟩
    rw [joinNames, join, below, empty, List.nil_append]
    exact segments_names downward
  · rw [joinNames, isAbsolute_join empty below] at relative
    rcases segments_join empty relative below with ⟨front, joined, _⟩
    rw [segments_names downward] at joined
    exact ⟨front, joined⟩

end Path

namespace FileTree

variable {tree before after : FileTree} {root : Path} {location base : Location}
variable {content : Content} {names : List Text}

/-- Without links, a walk leads to a file of the name it ends with. -/
theorem walk_concat (free : tree.LinkFree) {front : List Text} {name : Text}
    (proper : Path.isIdle name = false ∧ name ≠ ['.', '.']) {links : Nat} {here : Location}
    (found : walk tree true links here (front ++ [name]) = .ok (.taken location (.file content))) :
    ∃ above, location = above ++ [name] := by
  induction front generalizing here with
  | nil => exact ⟨here, (walk_names free (List.forall_mem_singleton.mpr proper) found).1⟩
  | cons segment front inductionHypothesis =>
      rw [List.cons_append, walk] at found
      split at found
      · exact inductionHypothesis found
      · split at found
        · split at found
          · cases found
          · exact inductionHypothesis found
        · split at found
          · cases found
          · split at found
            · split at found <;> cases found
            · split at found
              · rename_i empty
                cases (List.append_eq_nil_iff.mp (List.isEmpty_iff.mp empty)).2
              · cases found
            · exact inductionHypothesis found
            · rename_i link
              exact absurd link (free _ _)

/-- Without links, a path below a root leads to a file of the name it ends with. -/
theorem LinkFree.find_joinNames (free : tree.LinkFree) {name : Text} (downward : Downward [name])
    (found : tree.find (root.joinNames [name]) = .ok (location, .file content)) :
    ∃ above, location = above ++ [name] := by
  rcases Path.segments_joinNames downward (relative_of_find found).2 with ⟨front, segments⟩
  rw [find_eq_ok_iff] at found
  rw [resolve_eq_walk found, segments] at found
  exact walk_concat free (downward.proper name List.mem_cons_self) found

/-- A tree without links in which a root leads to a directory. -/
structure Grounded (tree : FileTree) (root : Path) (base : Location) : Prop where
  free : tree.LinkFree
  rooted : tree.Rooted root base

theorem Grounded.of_changes {writes : List (Location × Content)}
    (grounded : before.Grounded root base) (changes : Changes before after writes) :
    after.Grounded root base :=
  ⟨changes.linkFree grounded.free, grounded.rooted.of_changes changes⟩

namespace Grounded

theorem walk_joinNames (grounded : tree.Grounded root base) (downward : Downward names)
    {followLast : Bool} : walk tree followLast linkLimit [] (root.joinNames names).segments =
      walk tree followLast linkLimit base names := by
  rw [Path.joinNames, grounded.rooted.walk_join grounded.free (Path.relative_names downward),
    Path.segments_names downward]

/-- A file below the root is where its names say, behind directories. -/
theorem find_joinNames (grounded : tree.Grounded root base) (downward : Downward names)
    (found : tree.find (root.joinNames names) = .ok (location, .file content)) :
    location = base ++ names ∧ ∀ front rest, names = front ++ rest → front ≠ [] → rest ≠ [] →
      tree.get? (base ++ front) = some .directory := by
  rw [find_eq_ok_iff] at found
  rw [resolve_eq_walk found, grounded.walk_joinNames downward] at found
  exact walk_names grounded.free downward.proper found

theorem place_joinNames {entry : Entry} (grounded : tree.Grounded root base)
    (downward : Downward names)
    (found : tree.find (root.joinNames names) = .ok (location, entry)) :
    location = base ++ names := by
  rw [find_eq_ok_iff] at found
  rw [resolve_eq_walk found, grounded.walk_joinNames downward] at found
  exact walk_proper_taken grounded.free downward.proper found

/-- A path that names a file in one tree names one in another, if that has the file and
the directories on the way. -/
theorem find_joinNames_again (grounded : before.Grounded root base)
    (others : after.Grounded root base) (downward : Downward names)
    (found : before.find (root.joinNames names) = .ok (location, .file content))
    (between : ∀ front rest, names = front ++ rest → front ≠ [] → rest ≠ [] →
      after.get? (base ++ front) = some .directory)
    {new : Content} (stands : after.get? (base ++ names) = some (.file new)) :
    after.find (root.joinNames names) = .ok (base ++ names, .file new) := by
  rw [find_eq_ok_iff] at found ⊢
  have checked := resolve_eq_walk found
  rw [checked, grounded.walk_joinNames downward] at found
  rw [checked, others.walk_joinNames downward]
  exact walk_names_again grounded.free downward.proper found between stands

end Grounded

theorem LinkFree.find_names {entry : Entry} (free : tree.LinkFree) (downward : Downward names)
    (found : tree.find ⟨Text.join ['/'] names⟩ = .ok (location, entry)) : location = names := by
  rw [find_eq_ok_iff] at found
  rw [resolve_eq_walk found, Path.segments_names downward] at found
  exact walk_proper_taken free downward.proper found

/-! ## Directories on the way -/

/-- Making a directory leaves something where it leads. -/
theorem get?_makeDirectories {path : Path} (filled : path.text ≠ [])
    (leads : tree.resolve false path = .ok (.free location) ∨ ∃ entry,
      tree.resolve false path = .ok (.taken location entry) ∧ tree.get? location = some entry) :
    (makeDirectories path tree).2.get? location ≠ none := by
  have notEmpty : ¬ path.text.isEmpty = true := fun empty => filled (List.isEmpty_iff.mp empty)
  rcases lineage_eq_cons path.text.length path with ⟨ancestors, same⟩
  rw [makeDirectories, same, makeLineage, if_neg notEmpty, makeDirectory, create]
  rcases leads with free | ⟨entry, taken, stands⟩
  · have checked := resolve_eq_walk free
    rw [free]
    rw [checked] at free
    have nonempty : location ≠ [] := by
      rintro rfl
      cases get?_of_walk_free free
    simp only [get?_put nonempty, if_true]
    exact Option.some_ne_none _
  · rw [taken]
    simp only
    split <;> simp [stands]

/-- The beginning of a path that leads somewhere in one tree is walked in every tree. -/
theorem resolve_of_prefix {path shorter : Path} {entry : Entry}
    (found : tree.find path = .ok (location, entry)) (start : shorter.text <+: path.text)
    (filled : shorter.text ≠ []) (other : FileTree) (followLast : Bool) :
    other.resolve followLast shorter = walk other followLast linkLimit [] shorter.segments := by
  rcases start with ⟨back, whole⟩
  rw [find_eq_ok_iff] at found
  unfold resolve at found
  split at found
  · cases found
  · rename_i noZero
    split at found
    · cases found
    · rename_i short
      split at found
      · cases found
      · rename_i relative
        have shorterNoZero : ¬ shorter.text.contains '\x00' = true := by
          rw [List.contains_iff_mem] at noZero ⊢
          exact fun member => noZero (whole ▸ List.mem_append_left back member)
        have shorterShort : ¬ pathLimit < Text.byteLength shorter.text := by
          rw [← whole, Text.byteLength_append] at short
          omega
        have shorterRelative : ¬ (shorter.text.isEmpty || shorter.isAbsolute) = true := by
          rw [Path.isAbsolute, ← whole, List.head?_append_of_ne_nil _ filled] at relative
          rw [Bool.or_eq_true, not_or] at relative ⊢
          exact ⟨fun empty => filled (List.isEmpty_iff.mp empty), relative.2⟩
        rw [resolve, if_neg shorterNoZero, if_neg shorterShort, if_neg shorterRelative]

/-- When the directory for a file below the root was to be made, something is there. -/
theorem Grounded.get?_makeDirectories (grounded : tree.Grounded root base)
    (others : after.Grounded root base) {directory file : Text}
    (downward : Downward [directory, file])
    (found : after.find (root.joinNames [directory, file]) = .ok (location, .file content)) :
    (makeDirectories (root.join ⟨directory⟩) tree).2.get? (base ++ [directory]) ≠ none := by
  rcases List.forall_mem_cons.mp downward.proper with ⟨proper, _⟩
  have alone : Downward [directory] := ⟨List.cons_ne_nil _ _,
    List.forall_mem_singleton.mpr proper,
    List.forall_mem_singleton.mpr (List.forall_mem_cons.mp downward.whole).1⟩
  have nonempty : directory ≠ [] := by
    rintro rfl
    cases proper.1
  have same : root.join ⟨directory⟩ = root.joinNames [directory] := by
    rw [Path.joinNames, Text.join, List.intercalate_singleton]
  have relative : Path.isAbsolute ⟨directory⟩ = false := by
    have whole := Path.relative_names alone
    rwa [Text.join, List.intercalate_singleton] at whole
  have longer : (root.joinNames [directory, file]).text =
      (root.join ⟨directory⟩).text ++ '/' :: file := by
    rw [← Path.join_append root nonempty relative, Path.joinNames, Text.join,
      List.intercalate_cons_cons, List.intercalate_singleton, List.append_assoc]
    rfl
  have filled : (root.join ⟨directory⟩).text ≠ [] := Path.join_ne_nil root nonempty
  have checked := resolve_of_prefix found ⟨'/' :: file, longer.symm⟩ filled tree false
  rw [same, grounded.walk_joinNames alone, ← same] at checked
  have way := find_eq_ok_iff.mp found
  rw [resolve_eq_walk way, others.walk_joinNames downward] at way
  have short := (walk_name others.free proper way).1
  apply FileTree.get?_makeDirectories filled
  rw [checked, walk, proper.1, if_neg Bool.false_ne_true, if_neg proper.2,
    if_neg (Nat.not_lt.mpr short)]
  cases stands : tree.get? (base ++ [directory]) with
  | none => exact .inl rfl
  | some entry =>
      cases entry with
      | file content => exact .inr ⟨_, rfl, rfl⟩
      | directory => exact .inr ⟨_, by rw [walk], rfl⟩
      | link target => exact absurd stands (grounded.free _ _)

end FileTree
end MediaSite
