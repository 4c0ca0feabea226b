import MediaSite.Proofs.Files.Parents
import MediaSite.Proofs.Files.Repetition

namespace MediaSite

/-!
# Directories that cannot be made

Making a directory with those above it can fail half way, when some are made already.  In
a regular tree it then fails again, and nothing is made any more.

Below a directory that is there it fails for a reason that lasts (`FileTree.Stuck`,
`FileTree.Below.makeLineage`): a file is in the way, or a name is too long.  In general it
may fail for another reason the second time, but only in one way.  If the path goes up
again through a directory that was missing, it can reach a file when that is made.  The
directory above the one to make is that file then, which exists; and looked at again the
file is no directory that could hold one (`FileTree.makeDirectories_again_error`).
-/

open scoped Text

namespace FileTree

variable {tree before after done : FileTree} {location here base : Location} {content : Content}
  {path parent : Path} {problem : FileError} {names segments front : List Text} {links : Nat}
  {writes : List (Location × Content)}

/-! ## Walks through directories -/

theorem walk_idle {followLast : Bool} {idle : List Text} (quiet : Path.Idle idle)
    (rest : List Text) :
    walk tree followLast links here (idle ++ rest) = walk tree followLast links here rest := by
  induction idle with
  | nil => rfl
  | cons segment idle inductionHypothesis =>
      rcases List.forall_mem_cons.mp quiet with ⟨first, others⟩
      rw [List.cons_append, walk, if_pos first]
      exact inductionHypothesis others

theorem walk_ne_link {target : Path} :
    walk tree true links here segments ≠ .ok (.taken location (.link target)) := by
  intro found
  fun_induction walk tree true links here segments <;> grind

/-- Idle segments at the end make no difference where there is a directory. -/
theorem walk_before_idle (free : tree.LinkFree) {idle : List Text} (quiet : Path.Idle idle)
    (found : walk tree true links here (front ++ idle) = .ok (.taken base .directory)) :
    walk tree true links here front = .ok (.taken base .directory) := by
  rw [walk_append free] at found
  cases reached : walk tree true links here front with
  | error problem =>
      rw [reached] at found
      cases found
  | ok spot =>
      rw [reached] at found
      rcases spot with ⟨location, content | _ | target⟩ | location
      · rw [onward] at found
        · split at found <;> cases found
        · rintro ⟨⟩
      · have further : walk tree true links location (idle ++ []) =
            walk tree true links location [] := walk_idle quiet []
        rw [List.append_nil, walk] at further
        rw [onward, further] at found
        exact found
      · exact absurd reached walk_ne_link
      · rw [onward] at found
        split at found <;> cases found

theorem walk_proper_ne_missing {name : Text} (free : tree.LinkFree)
    (proper : Path.isIdle name = false ∧ name ≠ ['.', '.']) :
    walk tree true links here [name] ≠ .error .notFound := by
  rw [walk, proper.1, if_neg Bool.false_ne_true, if_neg proper.2]
  split
  · rintro ⟨⟩
  · split
    · rw [if_pos List.all_nil]
      rintro ⟨⟩
    · rw [if_pos List.isEmpty_nil]
      rintro ⟨⟩
    · rw [walk]
      rintro ⟨⟩
    · rename_i link
      exact absurd link (free _ _)

/-- Where a path goes through directories only without going up, a regular tree that has the
file at its end has the directories. -/
theorem Regular.walk_file (regular : tree.Regular) (free : done.LinkFree)
    (noUp : ['.', '.'] ∉ segments)
    (found : walk done true links here segments = .ok (.taken location (.file content)))
    {old : Content} (stands : tree.get? location = some (.file old)) :
    (∃ behind, behind ≠ [] ∧ location = here ++ behind) ∧
      walk tree true links here segments = .ok (.taken location (.file old)) := by
  induction segments generalizing here with
  | nil =>
      rw [walk] at found
      cases found
  | cons segment rest inductionHypothesis =>
      rcases not_or.mp (List.mem_cons.not.mp noUp) with ⟨notUp, noUpLater⟩
      rw [walk] at found ⊢
      split at found
      · rename_i idle
        rw [if_pos idle]
        exact inductionHypothesis noUpLater found
      · rename_i working
        rw [if_neg working, if_neg (Ne.symm notUp)]
        rw [if_neg (Ne.symm notUp)] at found
        split at found
        · cases found
        · rename_i short
          rw [if_neg short]
          split at found
          · split at found <;> cases found
          · split at found
            · rename_i last
              cases found
              rw [stands]
              exact ⟨⟨[segment], List.cons_ne_nil _ _, rfl⟩, if_pos last⟩
            · cases found
          · rcases inductionHypothesis noUpLater found with ⟨⟨behind, filled, rfl⟩, further⟩
            have directory : tree.get? (here ++ [segment]) = some .directory :=
              regular.directory_above filled (by rw [stands]; exact Option.some_ne_none _)
            rw [directory]
            refine ⟨⟨segment :: behind, List.cons_ne_nil _ _, ?_⟩, further⟩
            rw [List.append_assoc]
            rfl
          · rename_i link
            exact absurd link (free _ _)

/-! ## Making one directory -/

/-- No directory is here, for a reason that lasts. -/
def Stuck (path : Path) (problem : FileError) (tree : FileTree) : Prop :=
  (problem = .alreadyExists ∧ ∃ location content, tree.find path = .ok (location, .file content)) ∨
    problem ≠ .notFound ∧ tree.resolve true path = .error problem

theorem Stuck.of_changes (stuck : Stuck path problem before) (free : before.LinkFree)
    (changes : Changes before after writes) : Stuck path problem after := by
  rcases stuck with ⟨exists_, location, content, found⟩ | ⟨lasting, failed⟩
  · exact .inl ⟨exists_, location, changes.find_file found⟩
  · exact .inr ⟨lasting, resolve_error_of_changes free changes lasting failed⟩

theorem find_of_error (failed : tree.resolve true path = .error problem) :
    tree.find path = .error problem := by
  rw [find, failed]

theorem Stuck.isDirectory (stuck : Stuck path problem tree) : tree.isDirectory path = false := by
  rw [FileTree.isDirectory]
  rcases stuck with ⟨_, location, content, found⟩ | ⟨_, failed⟩
  · rw [found]
  · rw [find_of_error failed]

/-- Make a directory unless it is there. -/
def ensureDirectory (path : Path) : FileAction Unit := fun tree =>
  match makeDirectory path tree with
  | (.ok (), tree) => (.ok (), tree)
  | (.error error, tree) => if tree.isDirectory path then (.ok (), tree) else (.error error, tree)

/-- What there is to happen when a directory is made. -/
inductive Ensured (path : Path) (tree : FileTree) : Except FileError Unit × FileTree → Prop where
  | made {location : Location} (free : tree.resolve true path = .ok (.free location)) :
      Ensured path tree (.ok (), tree.put location .directory)
  | stands (directory : tree.isDirectory path = true) : Ensured path tree (.ok (), tree)
  | stuck {problem : FileError} (lasting : Stuck path problem tree) :
      Ensured path tree (.error problem, tree)
  | missing (failed : tree.resolve true path = .error .notFound) :
      Ensured path tree (.error .notFound, tree)

theorem resolve_following (free : tree.LinkFree) (followLast : Bool) (path : Path) :
    tree.resolve followLast path = tree.resolve true path := by
  by_cases accepted : path.Accepted
  · rw [resolve_of_accepted accepted, resolve_of_accepted accepted, walk_following free]
  · rcases resolve_of_refused accepted with ⟨problem, always, _⟩
    rw [always, always]

theorem resolve_ne_link {target : Path} :
    tree.resolve true path ≠ .ok (.taken location (.link target)) := by
  intro found
  rw [resolve_eq_walk found] at found
  exact walk_ne_link found

/-- A directory is made, or is there, or cannot be made in the tree as it is. -/
theorem ensured (free : tree.LinkFree) (path : Path) :
    Ensured path tree (ensureDirectory path tree) := by
  have noDirectory {problem : FileError} (failed : tree.resolve true path = .error problem) :
      tree.isDirectory path = false := by
    rw [isDirectory, find_of_error failed]
  unfold ensureDirectory makeDirectory create
  rw [resolve_following free]
  cases resolved : tree.resolve true path with
  | error problem =>
      simp only [noDirectory resolved, Bool.false_eq_true, if_false]
      by_cases lasting : problem = .notFound
      · subst lasting
        exact .missing resolved
      · exact .stuck (.inr ⟨lasting, resolved⟩)
  | ok spot =>
      cases spot with
      | free location => exact .made resolved
      | taken location entry =>
          have found := find_eq_ok_iff.mpr resolved
          cases entry with
          | directory =>
              have directory := isDirectory_eq_true_iff.mpr ⟨location, found⟩
              simp only [directory, if_true]
              exact .stands directory
          | file content =>
              have stuck : Stuck path .alreadyExists tree := .inl ⟨rfl, location, content, found⟩
              simp only [stuck.isDirectory, Bool.false_eq_true, if_false]
              exact .stuck stuck
          | link target => exact absurd resolved resolve_ne_link

/-! ## Making a lineage -/

/-- The directories above are made if, without them, the first cannot be. -/
theorem makeLineage_cons (free : tree.LinkFree) (filled : path.text ≠ []) (ancestors : List Path) :
    makeLineage (path :: ancestors) tree =
      if tree.resolve true path = .error .notFound then
        match makeLineage ancestors tree with
        | (.error problem, tree) => (.error problem, tree)
        | (.ok (), tree) => ensureDirectory path tree
      else ensureDirectory path tree := by
  have notEmpty : ¬ path.text.isEmpty = true := fun empty => filled (List.isEmpty_iff.mp empty)
  rw [makeLineage, if_neg notEmpty]
  by_cases missing : tree.resolve true path = .error .notFound
  · have failed : makeDirectory path tree = (.error .notFound, tree) := by
      rw [makeDirectory, create, resolve_following free, missing]
    rw [if_pos missing, failed]
    rfl
  · rw [if_neg missing, ensureDirectory]
    unfold makeDirectory create
    rw [resolve_following free]
    cases resolved : tree.resolve true path with
    | ok spot => cases spot <;> rfl
    | error problem =>
        rw [resolved] at missing
        cases problem <;> first | rfl | exact absurd rfl missing

theorem Stuck.resolve_ne_missing (stuck : Stuck path problem tree) :
    tree.resolve true path ≠ .error .notFound := by
  rcases stuck with ⟨_, location, content, found⟩ | ⟨lasting, failed⟩
  · rw [find_eq_ok_iff.mp found]
    nofun
  · rw [failed]
    exact fun same => lasting (Except.error.inj same)

theorem Stuck.ensureDirectory (stuck : Stuck path problem tree) (free : tree.LinkFree) :
    ensureDirectory path tree = (.error problem, tree) := by
  unfold FileTree.ensureDirectory makeDirectory create
  rw [resolve_following free]
  rcases stuck with ⟨rfl, location, content, found⟩ | ⟨lasting, failed⟩
  · have same : Stuck path .alreadyExists tree := .inl ⟨rfl, location, content, found⟩
    simp only [find_eq_ok_iff.mp found, same.isDirectory, Bool.false_eq_true, if_false]
  · have same : Stuck path problem tree := .inr ⟨lasting, failed⟩
    simp only [failed, same.isDirectory, Bool.false_eq_true, if_false]

/-- Where making a directory is stuck, nothing is made. -/
theorem Stuck.makeLineage (stuck : Stuck path problem tree) (free : tree.LinkFree)
    (filled : path.text ≠ []) (ancestors : List Path) :
    makeLineage (path :: ancestors) tree = (.error problem, tree) := by
  rw [makeLineage_cons free filled, if_neg stuck.resolve_ne_missing, stuck.ensureDirectory free]

/-- Where nothing is missing, directories are not made for a reason that lasts. -/
theorem stuck_of_makeLineage (free : tree.LinkFree) (filled : path.text ≠ [])
    (notMissing : tree.resolve true path ≠ .error .notFound) {ancestors : List Path}
    (run : makeLineage (path :: ancestors) tree = (.error problem, done)) :
    Stuck path problem tree := by
  have way := ensured free path
  rw [makeLineage_cons free filled, if_neg notMissing] at run
  rw [run] at way
  cases way with
  | stuck lasting => exact lasting
  | missing failed => exact absurd failed notMissing

/-- Behind a path where no directory can be made, none can be made either: a file that is in
the place of one is no directory. -/
theorem Stuck.behind (stuck : Stuck parent problem tree) (free : tree.LinkFree)
    (accepted : path.Accepted) (begins : parent.text <+: path.text) (filled : parent.text ≠ [])
    {rest : List Text} (split : path.segments = parent.segments ++ rest)
    (more : rest.isEmpty = false) :
    Stuck path problem tree ∨ problem = .alreadyExists ∧ Stuck path .notDirectory tree ∧
      ∃ location content, tree.resolve true parent = .ok (.taken location (.file content)) := by
  rcases stuck with ⟨exists_, location, content, found⟩ | ⟨lasting, failed⟩
  · have reached := find_eq_ok_iff.mp found
    refine .inr ⟨exists_, .inr ⟨by rintro ⟨⟩, ?_⟩, location, content, reached⟩
    rw [resolve_of_parent accepted free begins filled split, reached, onward, more,
      if_neg Bool.false_ne_true]
    rintro ⟨⟩
  · refine .inl (.inr ⟨lasting, ?_⟩)
    rw [resolve_of_parent accepted free begins filled split, failed]
    rfl

/-! ## Below a directory -/

/-- A path that leads down from a directory by names. -/
structure Below (tree : FileTree) (base : Location) (path : Path) (names : List Text) : Prop where
  filled : path.text ≠ []
  relative : path.isAbsolute = false
  leads : ∃ front, path.segments = front ++ names ∧
    walk tree true linkLimit [] front = .ok (.taken base .directory)

/-- Behind a directory nothing is missing on the way to one more name. -/
theorem resolve_behind_directory (accepted : path.Accepted) (free : tree.LinkFree)
    (start : parent.text <+: path.text) (filled : parent.text ≠ []) {between : List Text}
    (quiet : Path.Idle between) {last : Text}
    (split : path.segments = parent.segments ++ (between ++ [last]))
    (proper : Path.isIdle last = false ∧ last ≠ ['.', '.'])
    (directory : tree.isDirectory parent = true) : tree.resolve true path ≠ .error .notFound := by
  rcases isDirectory_eq_true_iff.mp directory with ⟨location, named⟩
  rw [resolve_of_parent accepted free start filled split, find_eq_ok_iff.mp named, onward,
    walk_idle quiet]
  exact walk_proper_ne_missing free proper

namespace Below

theorem of_changes (below : Below before base path names) (changes : Changes before after writes) :
    Below after base path names := by
  rcases below.leads with ⟨front, split, found⟩
  exact ⟨below.filled, below.relative, front, split, walk_of_changes changes .directory found⟩

theorem walk_segments (below : Below tree base path names) (free : tree.LinkFree) :
    walk tree true linkLimit [] path.segments = walk tree true linkLimit base names := by
  rcases below.leads with ⟨front, split, found⟩
  rw [split, walk_through free found]

/-- The path is walked along the names, or it is refused once and for all. -/
theorem accepted (below : Below tree base path names)
    (missing : tree.resolve true path = .error .notFound) : path.Accepted := by
  by_contra refused
  rcases resolve_of_refused refused with ⟨problem, always, known⟩
  rw [always] at missing
  exact known below.filled below.relative (Except.error.inj missing)

theorem exists_parent {up : List Text} {last : Text} (below : Below tree base path (up ++ [last]))
    (working : Path.isIdle last = false) : ∃ parent, path.parent? = some parent := by
  refine Path.exists_parent below.relative ?_ working
  rcases below.leads with ⟨front, split, _⟩
  rw [split]
  exact List.mem_append_right _ (List.mem_append_right _ List.mem_cons_self)

/-- The parent leads down as well, by one name less. -/
theorem above {up : List Text} {last : Text} (below : Below tree base path (up ++ [last]))
    (proper : Proper (up ++ [last])) (free : tree.LinkFree) (found : path.parent? = some parent) :
    parent.text = [] ∧ path.segments = [last] ∨
      Below tree base parent up ∧ parent.text <+: path.text ∧
        ∃ between, Path.Idle between ∧ path.segments = parent.segments ++ (between ++ [last]) := by
  rcases below.leads with ⟨front, whole, leads⟩
  rcases List.forall_mem_append.mp proper with ⟨properUp, properLast⟩
  have working (idle : Path.isIdle last = true) : False := by
    rw [(properLast last List.mem_cons_self).1] at idle
    cases idle
  rcases Path.parent_spec below.relative below.filled found with
    ⟨start, between, name, behind, split, quiet, idle, beginning⟩
  have same : (front ++ up) ++ [last] = (start ++ between) ++ name :: behind := by
    rw [List.append_assoc, ← whole, split, List.append_assoc]
  have ends : behind = [] ∧ front ++ up = start ++ between ∧ last = name := by
    rcases List.eq_nil_or_concat' behind with rfl | ⟨others, final, rfl⟩
    · rcases List.append_inj' same rfl with ⟨fronts, names⟩
      exact ⟨rfl, fronts, (List.cons.inj names).1⟩
    · rw [← List.cons_append, ← List.append_assoc] at same
      have final := (List.cons.inj (List.append_inj' same rfl).2).1
      exact (working (idle last (final ▸ List.mem_append_right _ List.mem_cons_self))).elim
  rcases ends with ⟨rfl, fronts, rfl⟩
  rcases beginning with ⟨empty, rfl, rfl⟩ | ⟨named, begins, filled, _⟩
  · exact .inl ⟨empty, split⟩
  · refine .inr ⟨⟨filled, ?_, ?_⟩, begins, between, quiet, by rw [named, split]⟩
    · rcases begins with ⟨rest, longer⟩
      have relative := below.relative
      rwa [Path.isAbsolute, ← longer, List.head?_append_of_ne_nil _ filled] at relative
    · rw [named]
      -- The idle segments behind the parent stand before the names or among them; but names
      -- are not idle.
      rcases List.eq_nil_or_concat' up with rfl | ⟨others, final, rfl⟩
      · refine ⟨start, (List.append_nil _).symm, ?_⟩
        rw [List.append_nil] at fronts
        rw [fronts] at leads
        exact walk_before_idle free quiet leads
      · rcases List.eq_nil_or_concat' between with rfl | ⟨idles, idle, rfl⟩
        · rw [List.append_nil] at fronts
          exact ⟨front, fronts.symm, leads⟩
        · rw [← List.append_assoc, ← List.append_assoc] at fronts
          have same := (List.cons.inj (List.append_inj' fronts rfl).2).1
          have working := (properUp final (List.mem_append_right _ List.mem_cons_self)).1
          rw [same, quiet idle (List.mem_append_right _ List.mem_cons_self)] at working
          cases working

end Below

/-- A free spot along names is where they say. -/
theorem walk_proper_free {followLast : Bool} (free : tree.LinkFree) (proper : Proper names)
    (found : walk tree followLast links base names = .ok (.free location)) :
    location = base ++ names := by
  induction names generalizing base with
  | nil =>
      rw [walk] at found
      cases found
  | cons name names inductionHypothesis =>
      rcases List.forall_mem_cons.mp proper with ⟨here, later⟩
      rw [walk, here.1, if_neg Bool.false_ne_true, if_neg here.2] at found
      split at found
      · cases found
      · split at found
        · split at found
          · rename_i empty
            cases found
            cases names with
            | nil => rfl
            | cons second names =>
                have named := (later second List.mem_cons_self).1
                have nothing := List.all_eq_true.mp empty second List.mem_cons_self
                rw [Path.isIdle, nothing, Bool.true_or] at named
                cases named
          · cases found
        · split at found <;> cases found
        · rw [inductionHypothesis later found, List.append_assoc]
          rfl
        · rename_i link
          exact absurd link (free _ _)

namespace Below

variable {outcome : Except FileError Unit}

theorem ensured (below : Below tree base path names) (proper : Proper names)
    (free : tree.LinkFree) (notMissing : tree.resolve true path ≠ .error .notFound)
    (run : ensureDirectory path tree = (outcome, done)) :
    Ahead base tree done [] ∧ ∀ problem, outcome = .error problem → Stuck path problem done := by
  have way := FileTree.ensured free path
  rw [run] at way
  cases way with
  | @made location vacant =>
      have walked := vacant
      rw [resolve_eq_walk vacant, below.walk_segments free] at walked
      have place := walk_proper_free free proper walked
      refine ⟨⟨changes_put_directory (get?_of_walk_free walked), outside_put ?_ _, rfl⟩, nofun⟩
      rw [place]
      exact List.prefix_append base names
  | stands => exact ⟨Ahead.refl base tree, nofun⟩
  | stuck lasting =>
      refine ⟨Ahead.refl base tree, ?_⟩
      rintro _ ⟨⟩
      exact lasting
  | missing failed => exact absurd failed notMissing

/-- Where the directory above cannot be made, the one below cannot. -/
theorem stuck_of_parent {up : List Text} {last : Text} (regular : tree.Regular)
    (below : Below tree base parent up) (proper : Proper up) (changes : Changes tree done [])
    (missing : tree.resolve true path = .error .notFound) (accepted : path.Accepted)
    (start : parent.text <+: path.text) {between : List Text}
    (split : path.segments = parent.segments ++ (between ++ [last]))
    (stuck : Stuck parent problem done) : Stuck path problem done := by
  have freeDone := changes.linkFree regular.free
  have more : (between ++ [last]).isEmpty = false := by
    rw [Bool.eq_false_iff, Ne, List.isEmpty_iff]
    exact List.append_ne_nil_of_right_ne_nil _ (List.cons_ne_nil _ _)
  rcases stuck.behind freeDone accepted start below.filled split more with
    same | ⟨_, _, location, content, walked⟩
  · exact same
  · -- The file was there before, so that nothing was missing on the way to it.
    have old := (changes.files location content).mp (get?_of_find_file (find_eq_ok_iff.mpr walked))
    rcases old with impossible | ⟨_, stands⟩
    · cases impossible
    · have resolved := resolve_eq_walk walked tree true
      rw [resolve_eq_walk walked, (below.of_changes changes).walk_segments freeDone] at walked
      have noUp : ['.', '.'] ∉ up := fun member => (proper _ member).2 rfl
      have reached := (regular.walk_file freeDone noUp walked stands).2
      rw [below.walk_segments regular.free, reached] at resolved
      rw [resolve_of_parent accepted regular.free start below.filled split, resolved, onward, more,
        if_neg Bool.false_ne_true] at missing
      · cases missing
      · rintro ⟨⟩

/-- Below a directory, directories are made one below the other, or it is for a lasting
reason that they are not. -/
theorem makeLineage (regular : tree.Regular) (below : Below tree base path names)
    (proper : Proper names) {count : Nat} (enough : names.length ≤ count)
    (run : makeLineage (lineage count path) tree = (outcome, done)) :
    Ahead base tree done [] ∧ ∀ problem, outcome = .error problem → Stuck path problem done := by
  induction count generalizing path names outcome done with
  | zero =>
      have nothing : names = [] := List.length_eq_zero_iff.mp (Nat.le_zero.mp enough)
      have notMissing : tree.resolve true path ≠ .error .notFound := by
        intro missing
        have walked := resolve_of_accepted (below.accepted missing) tree true
        rw [missing, below.walk_segments regular.free, nothing, walk] at walked
        cases walked
      rw [lineage, makeLineage_cons regular.free below.filled, if_neg notMissing] at run
      exact below.ensured proper regular.free notMissing run
  | succ count inductionHypothesis =>
      by_cases missing : tree.resolve true path = .error .notFound
      · have accepted := below.accepted missing
        have walked := resolve_of_accepted accepted tree true
        rw [missing, below.walk_segments regular.free] at walked
        rcases List.eq_nil_or_concat' names with rfl | ⟨up, last, rfl⟩
        · rw [walk] at walked
          cases walked
        · rcases List.forall_mem_append.mp proper with ⟨properUp, properLast⟩
          have lastProper := properLast last List.mem_cons_self
          rcases below.exists_parent lastProper.1 with ⟨parent, found⟩
          rcases below.above proper regular.free found with
            ⟨_, alone⟩ | ⟨above, start, between, quiet, split⟩
          · have single := resolve_of_accepted accepted tree true
            rw [missing, alone] at single
            exact absurd single.symm (walk_proper_ne_missing regular.free lastProper)
          · rw [List.length_append, List.length_singleton] at enough
            rw [lineage, found, makeLineage_cons regular.free below.filled, if_pos missing] at run
            rcases first : FileTree.makeLineage (lineage count parent) tree with ⟨problem | _, middle⟩
            · rw [first] at run
              cases run
              rcases inductionHypothesis above properUp (Nat.le_of_succ_le_succ enough) first with
                ⟨ahead, stuck⟩
              refine ⟨ahead, ?_⟩
              rintro _ ⟨⟩
              exact above.stuck_of_parent regular properUp ahead.changes missing accepted start split
                (stuck _ rfl)
            · rw [first] at run
              rcases inductionHypothesis above properUp (Nat.le_of_succ_le_succ enough) first with
                ⟨ahead, _⟩
              have freeMiddle := ahead.changes.linkFree regular.free
              rcases lineage_eq_cons count parent with ⟨ancestors, same⟩
              have directory := ((makeLineage_spec first).2 parent ancestors same rfl).resolve_left
                fun empty => above.filled (List.isEmpty_iff.mp empty)
              have notMissing := resolve_behind_directory accepted freeMiddle start above.filled quiet
                split lastProper directory
              rcases (below.of_changes ahead.changes).ensured proper freeMiddle notMissing run with
                ⟨further, stuck⟩
              exact ⟨ahead.trans further, stuck⟩
      · rcases lineage_eq_cons (count + 1) path with ⟨ancestors, same⟩
        rw [same, makeLineage_cons regular.free below.filled, if_neg missing] at run
        exact below.ensured proper regular.free missing run

/-- When its parent has been made, nothing is missing on the way to a path. -/
theorem resolve_of_made {up : List Text} {last : Text} (regular : tree.Regular)
    (below : Below tree base path (up ++ [last])) (proper : Proper (up ++ [last]))
    (found : path.parent? = some parent) (made : makeDirectories parent tree = (.ok (), done)) :
    done.resolve true path ≠ .error .notFound := by
  have changes := changes_makeDirectories parent tree
  rw [made] at changes
  have free := changes.linkFree regular.free
  have lastProper := proper last (List.mem_append_right up List.mem_cons_self)
  intro missing
  have accepted := (below.of_changes changes).accepted missing
  rcases below.above proper regular.free found with ⟨_, alone⟩ | ⟨above, start, between, quiet, split⟩
  · rw [resolve_of_accepted accepted, alone] at missing
    exact walk_proper_ne_missing free lastProper missing
  · rcases lineage_eq_cons parent.text.length parent with ⟨ancestors, same⟩
    have directory := ((makeLineage_spec made).2 parent ancestors same rfl).resolve_left
      fun empty => above.filled (List.isEmpty_iff.mp empty)
    exact resolve_behind_directory accepted free start above.filled quiet split lastProper directory
      missing

end Below

/-! ## Failing again -/

/-- What the second failure of an operation may be, given the first: the same, or a file in
the place of a directory that is no directory for what is below. -/
def FailsAs (path : Path) (first second : FileError) : Prop :=
  second = first ∨ first = .alreadyExists ∧ second = .notDirectory ∧ ['.', '.'] ∈ path.segments

theorem FailsAs.of_parent {first second : FileError} (fails : FailsAs parent first second)
    {rest : List Text} (split : path.segments = parent.segments ++ rest) :
    FailsAs path first second :=
  fails.imp_right fun ⟨exists_, file, up⟩ => ⟨exists_, file, split ▸ List.mem_append_left rest up⟩

theorem lineage_cases (count : Nat) (path : Path) :
    lineage count path = [path] ∨ ∃ smaller parent, count = smaller + 1 ∧
      path.parent? = some parent ∧ lineage count path = path :: lineage smaller parent := by
  cases count with
  | zero => exact .inl rfl
  | succ count =>
      rw [lineage]
      cases found : path.parent? with
      | none => exact .inl rfl
      | some parent => exact .inr ⟨count, parent, rfl, rfl, rfl⟩

theorem ensureDirectory_error (free : tree.LinkFree)
    (run : ensureDirectory path tree = (.error problem, done)) : done = tree := by
  have way := ensured free path
  rw [run] at way
  cases way <;> rfl

/-- A lineage that fails changes the tree only by the directories above the first. -/
theorem makeLineage_error_cases (free : tree.LinkFree) {ancestors : List Path}
    (run : makeLineage (path :: ancestors) tree = (.error problem, done)) :
    path.text ≠ [] ∧ (done = tree ∨ tree.resolve true path = .error .notFound ∧
      (makeLineage ancestors tree = (.error problem, done) ∨
        makeLineage ancestors tree = (.ok (), done) ∧
          ensureDirectory path done = (.error problem, done))) := by
  have filled : path.text ≠ [] := by
    intro empty
    rw [makeLineage_of_isDirectory (.inl (List.isEmpty_iff.mpr empty))] at run
    cases run
  refine ⟨filled, ?_⟩
  rw [makeLineage_cons free filled] at run
  split at run
  · rename_i missing
    rcases above : makeLineage ancestors tree with ⟨failed | _, middle⟩
    · rw [above] at run
      cases run
      exact .inr ⟨missing, .inl rfl⟩
    · rw [above] at run
      have changes := changes_makeLineage ancestors tree
      rw [above] at changes
      cases ensureDirectory_error (changes.linkFree free) run
      exact .inr ⟨missing, .inr ⟨rfl, run⟩⟩
  · exact .inl (ensureDirectory_error free run)

theorem ensureDirectory_of_refused (free : tree.LinkFree) (refused : ¬ path.Accepted) :
    ∃ problem, ensureDirectory path tree = (.error problem, tree) := by
  rcases resolve_of_refused refused with ⟨other, always, _⟩
  have way := ensured free path
  generalize ensureDirectory path tree = result at way
  cases way with
  | made vacant =>
      rw [always] at vacant
      cases vacant
  | stands directory =>
      rw [isDirectory, find_of_error (always tree true)] at directory
      cases directory
  | stuck lasting => exact ⟨_, rfl⟩
  | missing failed => exact ⟨_, rfl⟩

/-- No directory of an absolute path is ever made. -/
theorem makeLineage_of_absolute (free : tree.LinkFree) (absolute : path.isAbsolute = true)
    (count : Nat) : ∃ problem, makeLineage (lineage count path) tree = (.error problem, tree) := by
  have step {path : Path} (absolute : path.isAbsolute = true) {ancestors : List Path}
      (above : ∃ problem, makeLineage ancestors tree = (.error problem, tree)) :
      ∃ problem, makeLineage (path :: ancestors) tree = (.error problem, tree) := by
    have filled : path.text ≠ [] := by
      intro empty
      rw [Path.isAbsolute, empty] at absolute
      cases absolute
    rw [makeLineage_cons free filled]
    split
    · rcases above with ⟨problem, failed⟩
      rw [failed]
      exact ⟨problem, rfl⟩
    · apply ensureDirectory_of_refused free
      intro accepted
      rw [accepted.relative] at absolute
      cases absolute
  induction count generalizing path with
  | zero => exact step absolute ⟨_, rfl⟩
  | succ count inductionHypothesis =>
      rcases lineage_cases (count + 1) path with alone | ⟨_, parent, ⟨⟩, found, same⟩
      · rw [alone]
        exact step absolute ⟨_, rfl⟩
      · rw [same]
        exact step absolute (inductionHypothesis (Path.isAbsolute_parent absolute found))

/-- Something was missing on the way to a path, and now that more directories are there, the way
leads to a file.  So it goes up somewhere, since the file was there before. -/
theorem up_of_file_above (regular : tree.Regular) (changes : Changes tree done [])
    (accepted : path.Accepted) (begins : parent.text <+: path.text) (filled : parent.text ≠ [])
    {rest : List Text} (split : path.segments = parent.segments ++ rest)
    (more : rest.isEmpty = false) (missing : tree.resolve true path = .error .notFound)
    (reached : done.resolve true parent = .ok (.taken location (.file content))) :
    ['.', '.'] ∈ parent.segments := by
  by_contra noUp
  have stands := get?_of_find_file (find_eq_ok_iff.mpr reached)
  rcases (changes.files location content).mp stands with impossible | ⟨_, old⟩
  · cases impossible
  · have checked := resolve_eq_walk reached
    rw [checked] at reached
    have reachedBefore :=
      (regular.walk_file (changes.linkFree regular.free) noUp reached old).2
    rw [resolve_of_parent accepted regular.free begins filled split, checked, reachedBefore, onward,
      more, if_neg Bool.false_ne_true] at missing
    · cases missing
    · rintro ⟨⟩

/-- Where the directory above cannot be made again, neither can the one below.  For the first
time something was missing on the way to it. -/
theorem makeLineage_again_below (regular : tree.Regular) (changes : Changes tree done [])
    (relative : path.isAbsolute = false) (filled : path.text ≠ [])
    (found : path.parent? = some parent) (missing : tree.resolve true path = .error .notFound)
    {ancestors : List Path} {second : FileError}
    (again : makeLineage (parent :: ancestors) done = (.error second, done))
    (fails : FailsAs parent problem second) :
    ∃ second, makeLineage (path :: parent :: ancestors) done = (.error second, done) ∧
      FailsAs path problem second := by
  have free := changes.linkFree regular.free
  rcases Path.parent_spec relative filled found with
    ⟨start, between, name, behind, split, quiet, idle, ⟨empty, _⟩ | ⟨named, begins, some, _⟩⟩
  · rw [makeLineage_of_isDirectory (.inl (List.isEmpty_iff.mpr empty))] at again
    cases again
  · subst named
    have more : (between ++ name :: behind).isEmpty = false := by
      rw [Bool.eq_false_iff, Ne, List.isEmpty_iff]
      exact List.append_ne_nil_of_right_ne_nil _ (List.cons_ne_nil _ _)
    rw [makeLineage_cons free filled]
    by_cases missingStill : done.resolve true path = .error .notFound
    · rw [if_pos missingStill, again]
      exact ⟨second, rfl, fails.of_parent split⟩
    · have accepted : path.Accepted := by
        by_contra refused
        rcases resolve_of_refused refused with ⟨other, always, _⟩
        rw [always] at missing missingStill
        exact missingStill missing
      have notMissing : done.resolve true parent ≠ .error .notFound := by
        intro failed
        apply missingStill
        rw [resolve_of_parent accepted free begins some split, failed]
        rfl
      have stuck := stuck_of_makeLineage free some notMissing again
      rw [if_neg missingStill]
      rcases stuck.behind free accepted begins some split more with
        same | ⟨rfl, below, location, content, reached⟩
      · exact ⟨second, same.ensureDirectory free, fails.of_parent split⟩
      · refine ⟨_, below.ensureDirectory free, .inr ⟨?_, rfl, ?_⟩⟩
        · rcases fails with same | ⟨_, impossible, _⟩
          · exact same.symm
          · cases impossible
        · rw [split]
          exact List.mem_append_left _
            (up_of_file_above regular changes accepted begins some split more missing reached)

/-- A lineage that could not be made cannot be made in the tree that this left. -/
theorem makeDirectories_again_error (regular : tree.Regular)
    (run : makeDirectories path tree = (.error problem, done)) :
    ∃ second, makeDirectories path done = (.error second, done) ∧
      FailsAs path problem second := by
  have free := regular.free
  unfold makeDirectories at run ⊢
  generalize path.text.length = count at run ⊢
  induction count using Nat.strong_induction_on generalizing path problem done with
  | h count inductionHypothesis =>
      have same (left : done = tree) : ∃ second,
          makeLineage (lineage count path) done = (.error second, done) ∧
            FailsAs path problem second := by
        subst left
        exact ⟨problem, run, .inl rfl⟩
      rcases lineage_cases count path with alone | ⟨smaller, parent, rfl, found, lineage_⟩
      · rw [alone] at run
        rcases (makeLineage_error_cases free run).2 with left | ⟨_, ends | ⟨ends, _⟩⟩
        · exact same left
        · cases ends
          exact same rfl
        · cases ends
      · rw [lineage_] at run ⊢
        rcases makeLineage_error_cases free run with
          ⟨filled, left | ⟨missing, above | ⟨above, failed⟩⟩⟩
        · rw [← lineage_]
          exact same left
        · rcases inductionHypothesis smaller (Nat.lt_succ_self smaller) above with
            ⟨second, again, fails⟩
          have changes := changes_makeLineage (lineage smaller parent) tree
          rw [above] at changes
          by_cases relative : path.isAbsolute = false
          · rcases lineage_eq_cons smaller parent with ⟨ancestors, others⟩
            rw [others] at again ⊢
            exact makeLineage_again_below regular changes relative filled found missing again fails
          · rcases makeLineage_of_absolute free (Bool.not_eq_false _ ▸ relative) (smaller + 1) with
              ⟨other, unchanged⟩
            rw [lineage_, run] at unchanged
            rw [← lineage_]
            exact same (Prod.mk.inj unchanged).2
        · -- The directories above are there now, and the first fails as before.
          have changes := changes_makeLineage (lineage smaller parent) tree
          rw [above] at changes
          rcases lineage_eq_cons smaller parent with ⟨ancestors, others⟩
          have there : makeLineage (lineage smaller parent) done = (.ok (), done) := by
            rw [others] at above ⊢
            exact makeLineage_of_isDirectory ((makeLineage_spec above).2 parent ancestors rfl rfl)
          refine ⟨problem, ?_, .inl rfl⟩
          rw [makeLineage_cons (changes.linkFree free) filled, there]
          split <;> exact failed

end FileTree
end MediaSite
