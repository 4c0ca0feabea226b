import Mathlib.Data.List.DropRight
import MediaSite.Proofs.Files.Regular

namespace MediaSite

/-!
# Walks to a path and to its parent

A path goes on where its parent ends, by one more name (`Path.parent_spec`).  So in a tree
without links the walk to a path goes on from the spot to which the walk to its parent
leads (`FileTree.walk_append`).  Whether a path can be walked at all, does not depend on the
tree: it is `Path.Accepted` or not, and its parent is if it is.

Walks of two trees are compared as well.  What makes a walk fail for good, a file on its way
or a name that is too long, makes it fail when the tree has changed
(`FileTree.walk_error_of_changes`).
-/

open scoped Text

/-! ## Joining -/

theorem Text.join_cons_of_ne_nil (separator first : Text) {rest : List Text} (more : rest ≠ []) :
    join separator (first :: rest) = first ++ separator ++ join separator rest := by
  cases rest with
  | nil => exact absurd rfl more
  | cons second rest =>
      rw [join, List.intercalate_cons_cons]
      rfl

theorem Text.join_of_append (separator : Text) {front back : List Text} (filled : front ≠ [])
    (more : back ≠ []) :
    join separator (front ++ back) = join separator front ++ separator ++ join separator back := by
  induction front with
  | nil => exact absurd rfl filled
  | cons first front inductionHypothesis =>
      rw [List.cons_append, join_cons_of_ne_nil _ _ (List.append_ne_nil_of_right_ne_nil front more)]
      by_cases last : front = []
      · rw [last, List.nil_append, join, join, List.intercalate_singleton]
      · rw [inductionHypothesis last, join_cons_of_ne_nil _ _ last]
        simp only [List.append_assoc]

namespace Path

variable {path parent : Path} {front back segments : List Text}

/-! ## Idle ends -/

/-- Segments that all stand for nothing. -/
def Idle (segments : List Text) : Prop :=
  ∀ segment ∈ segments, isIdle segment = true

/-- Segments end in idle ones, behind one that is not, or they are idle altogether. -/
theorem dropIdleEnd_spec (segments : List Text) :
    (∃ front name behind, segments = front ++ name :: behind ∧ isIdle name = false ∧ Idle behind ∧
      dropIdleEnd true segments = front ++ [name]) ∨
    Idle segments ∧ (dropIdleEnd true segments = [] ∧ segments.head? ≠ some ['.'] ∨
      dropIdleEnd true segments = [['.']] ∧ ∃ rest, segments = ['.'] :: rest) := by
  have kept : (segments.reverse.dropWhile isIdle).reverse = segments.rdropWhile isIdle := rfl
  unfold dropIdleEnd
  rw [kept]
  cases last : segments.rdropWhile isIdle with
  | nil =>
      refine .inr ⟨List.rdropWhile_eq_nil_iff.mp last, ?_⟩
      by_cases dot : segments.head? = some ['.']
      · rcases List.head?_eq_some_iff.mp dot with ⟨rest, rfl⟩
        exact .inr ⟨rfl, rest, rfl⟩
      · refine .inl ⟨?_, dot⟩
        simp only
        split
        · exact absurd rfl dot
        · rfl
  | cons first rest =>
      have filled : segments.rdropWhile isIdle ≠ [] := by
        rw [last]
        exact List.cons_ne_nil _ _
      have split : segments.rdropWhile isIdle ++ segments.rtakeWhile isIdle = segments :=
        List.rdropWhile_append_rtakeWhile
      have working := List.rdropWhile_last_not isIdle segments filled
      refine .inl ⟨(segments.rdropWhile isIdle).dropLast,
        (segments.rdropWhile isIdle).getLast filled, segments.rtakeWhile isIdle, ?_,
        Bool.not_eq_true _ ▸ working, fun segment member => List.mem_rtakeWhile_imp member, ?_⟩
      · rw [← List.singleton_append, ← List.append_assoc, List.dropLast_concat_getLast, split]
      · rw [List.dropLast_concat_getLast, last]

/-! ## Relative paths -/

theorem join_segments (relative : path.isAbsolute = false) :
    Text.join ['/'] path.segments = path.text := by
  rw [segments_of_relative relative]
  exact List.intercalate_splitOn '/'

theorem head_segments_ne_nil (filled : path.text ≠ []) (relative : path.isAbsolute = false) :
    path.segments.head? ≠ some [] := by
  intro empty
  rcases List.head?_eq_some_iff.mp empty with ⟨rest, same⟩
  have text := join_segments relative
  rw [same] at text
  by_cases alone : rest = []
  · rw [alone, Text.join, List.intercalate_singleton] at text
    exact filled text.symm
  · rw [Text.join_cons_of_ne_nil _ _ alone] at text
    rw [isAbsolute, ← text] at relative
    cases relative

/-- The first segments of a relative path make up a path that it begins with. -/
theorem segments_ofSegments (relative : path.isAbsolute = false) (filled : path.text ≠ [])
    (split : path.segments = front ++ back) (some : front ≠ []) (more : back ≠ []) :
    (ofSegments false front).segments = front ∧ (ofSegments false front).text <+: path.text ∧
      (ofSegments false front).text ≠ [] := by
  have start : (ofSegments false front).text <+: path.text := by
    rw [← join_segments relative, split, Text.join_of_append _ some more, List.append_assoc]
    exact List.prefix_append _ _
  have nonempty : (ofSegments false front).text ≠ [] := by
    have head := head_segments_ne_nil filled relative
    rw [split, List.head?_append_of_ne_nil _ some] at head
    cases front with
    | nil => exact absurd rfl some
    | cons first rest =>
        have named : first ≠ [] := fun empty => head (congrArg Option.some empty)
        rw [ofSegments]
        by_cases alone : rest = []
        · rw [alone, Text.join, List.intercalate_singleton]
          exact named
        · rw [Text.join_cons_of_ne_nil _ _ alone, List.append_assoc]
          exact List.append_ne_nil_of_left_ne_nil named _
  have same : (ofSegments false front).isAbsolute = false := by
    rcases start with ⟨rest, whole⟩
    rw [isAbsolute, ← whole, List.head?_append_of_ne_nil _ nonempty] at relative
    exact relative
  refine ⟨?_, start, nonempty⟩
  rw [segments_of_relative same]
  refine List.splitOn_intercalate '/' (fun segment member => ?_) some
  exact slash_not_mem_segment (split ▸ List.mem_append_left back member)

/-- A relative path consists of its parent, of one more segment, and of idle ones.  Where the
parent is empty, there is nothing before that segment. -/
theorem parent_spec (relative : path.isAbsolute = false) (filled : path.text ≠ [])
    (found : path.parent? = some parent) :
    ∃ start between name behind, path.segments = start ++ (between ++ name :: behind) ∧
      Idle between ∧ Idle behind ∧
      (parent.text = [] ∧ start = [] ∧ between = [] ∨
        parent.segments = start ∧ parent.text <+: path.text ∧ parent.text ≠ [] ∧
          isIdle name = false) := by
  rw [parent?, relative, Bool.not_false] at found
  rcases dropIdleEnd_spec path.segments with
    ⟨front, name, behind, split, working, idle, kept⟩ | ⟨idle, ⟨kept, _⟩ | ⟨kept, rest, split⟩⟩
  · have others : front ++ [name] ≠ [] := List.append_ne_nil_of_right_ne_nil _ (List.cons_ne_nil _ _)
    rw [kept] at found
    split at found
    · rename_i empty
      exact absurd empty others
    · cases found
      rw [List.dropLast_concat]
      rcases dropIdleEnd_spec front with
        ⟨start, last, between, inner, _, quiet, shorter⟩ |
          ⟨quiet, ⟨shorter, noDot⟩ | ⟨shorter, between, inner⟩⟩
      · rw [shorter]
        have whole : path.segments = (start ++ [last]) ++ (between ++ name :: behind) := by
          rw [split, inner]
          simp only [List.append_assoc, List.cons_append, List.nil_append]
        rcases segments_ofSegments relative filled whole
          (List.append_ne_nil_of_right_ne_nil _ (List.cons_ne_nil _ _))
          (List.append_ne_nil_of_right_ne_nil _ (List.cons_ne_nil _ _)) with ⟨same, begins, some⟩
        exact ⟨_, between, name, behind, whole, quiet, idle, .inr ⟨same, begins, some, working⟩⟩
      · have nothing : front = [] := by
          cases front with
          | nil => rfl
          | cons first rest =>
              have head := head_segments_ne_nil filled relative
              rw [split] at head
              have firstIdle := quiet first List.mem_cons_self
              rw [isIdle, Bool.or_eq_true, List.isEmpty_iff, beq_iff_eq] at firstIdle
              rcases firstIdle with rfl | rfl
              · exact absurd rfl head
              · exact absurd rfl noDot
        rw [shorter]
        subst nothing
        exact ⟨[], [], name, behind, split, List.forall_mem_nil _, idle, .inl ⟨rfl, rfl, rfl⟩⟩
      · rw [shorter]
        have whole : path.segments = [['.']] ++ (between ++ name :: behind) := by
          rw [split, inner]
          rfl
        rcases segments_ofSegments relative filled whole (List.cons_ne_nil _ _)
          (List.append_ne_nil_of_right_ne_nil _ (List.cons_ne_nil _ _)) with ⟨same, begins, some⟩
        refine ⟨_, between, name, behind, whole, fun segment member => ?_, idle,
          .inr ⟨same, begins, some, working⟩⟩
        exact quiet segment (inner ▸ List.mem_cons_of_mem _ member)
  · rw [kept] at found
    cases found
  · rw [kept] at found
    cases found
    exact ⟨[], [], ['.'], rest, split, List.forall_mem_nil _,
      fun segment member => idle segment (split ▸ List.mem_cons_of_mem _ member),
      .inl ⟨rfl, rfl, rfl⟩⟩

theorem isAbsolute_parent (absolute : path.isAbsolute = true) (found : path.parent? = some parent) :
    parent.isAbsolute = true := by
  rw [parent?, absolute] at found
  split at found
  · cases found
  · cases found
    rfl

/-- A path with a segment that stands for something has a parent. -/
theorem exists_parent (relative : path.isAbsolute = false) {segment : Text}
    (member : segment ∈ path.segments) (working : isIdle segment = false) :
    ∃ parent, path.parent? = some parent := by
  rw [parent?, relative, Bool.not_false]
  rcases dropIdleEnd_spec path.segments with ⟨front, name, behind, _, _, _, kept⟩ | ⟨idle, _⟩
  · rw [kept]
    cases front <;> exact ⟨_, rfl⟩
  · rw [idle segment member] at working
    cases working

/-! ## Paths that can be walked -/

/-- Can be walked from the top of a tree: neither empty nor absolute, short enough, and
without a zero. -/
structure Accepted (path : Path) : Prop where
  noZero : '\x00' ∉ path.text
  short : Text.byteLength path.text ≤ FileTree.pathLimit
  filled : path.text ≠ []
  relative : path.isAbsolute = false

/-- So can every path that it begins with. -/
theorem Accepted.of_prefix {shorter : Path} (accepted : path.Accepted)
    (start : shorter.text <+: path.text) (filled : shorter.text ≠ []) : shorter.Accepted := by
  rcases start with ⟨back, whole⟩
  refine ⟨fun zero => accepted.noZero ?_, ?_, filled, ?_⟩
  · rw [← whole]
    exact List.mem_append_left back zero
  · have short := accepted.short
    rw [← whole, Text.byteLength_append] at short
    omega
  · have relative := accepted.relative
    rwa [isAbsolute, ← whole, List.head?_append_of_ne_nil _ filled] at relative

end Path

namespace FileTree

variable {tree before after : FileTree} {location here base : Location} {content : Content}
  {followLast : Bool} {links : Nat} {writes : List (Location × Content)} {path : Path}
  {segments : List Text} {problem : FileError}

theorem resolve_of_accepted (accepted : path.Accepted) (tree : FileTree) (followLast : Bool) :
    tree.resolve followLast path = walk tree followLast linkLimit [] path.segments := by
  have filled : path.text.isEmpty = false := by
    rw [Bool.eq_false_iff, Ne, List.isEmpty_iff]
    exact accepted.filled
  rw [resolve, if_neg (by rw [List.contains_iff_mem]; exact accepted.noZero),
    if_neg (Nat.not_lt.mpr accepted.short), filled, accepted.relative, Bool.or_false,
    if_neg Bool.false_ne_true]

/-- Other paths lead nowhere in any tree; if it is not for being empty or absolute, they are
refused before anything is looked for. -/
theorem resolve_of_refused (refused : ¬ path.Accepted) :
    ∃ problem, (∀ (tree : FileTree) followLast, tree.resolve followLast path = .error problem) ∧
      (path.text ≠ [] → path.isAbsolute = false → problem ≠ .notFound) := by
  by_cases zero : path.text.contains '\x00' = true
  · exact ⟨.zeroInName, fun _ _ => if_pos zero, fun _ _ => nofun⟩
  · by_cases long : pathLimit < Text.byteLength path.text
    · exact ⟨.nameTooLong, fun _ _ => by rw [resolve, if_neg zero, if_pos long], fun _ _ => nofun⟩
    · by_cases nowhere : (path.text.isEmpty || path.isAbsolute) = true
      · refine ⟨.notFound, fun _ _ => by rw [resolve, if_neg zero, if_neg long, if_pos nowhere], ?_⟩
        intro filled relative
        rw [relative, Bool.or_false, List.isEmpty_iff] at nowhere
        exact absurd nowhere filled
      · rw [Bool.or_eq_true, not_or, List.isEmpty_iff, Bool.not_eq_true] at nowhere
        rw [List.contains_iff_mem] at zero
        exact absurd ⟨zero, Nat.not_lt.mp long, nowhere.1, nowhere.2⟩ refused

/-! ## Walks that go on -/

/-- Where a walk goes on from the spot to which its first segments lead. -/
def onward (tree : FileTree) (followLast : Bool) (links : Nat) (rest : List Text) :
    Except FileError Spot → Except FileError Spot
  | .ok (.taken location .directory) => walk tree followLast links location rest
  | .ok (.taken location entry) =>
    if rest.isEmpty then .ok (.taken location entry) else .error .notDirectory
  | .ok (.free location) =>
    if rest.all List.isEmpty then .ok (.free location) else .error .notFound
  | .error problem => .error problem

theorem walk_append (free : tree.LinkFree) (front rest : List Text) :
    walk tree followLast links here (front ++ rest) =
      onward tree followLast links rest (walk tree followLast links here front) := by
  fun_induction walk tree followLast links here front
  all_goals grind [walk, LinkFree, onward, List.isEmpty_iff, List.append_eq_nil_iff]

/-- A path leads on from where its parent leads. -/
theorem resolve_of_parent {parent : Path} (accepted : path.Accepted) (free : tree.LinkFree)
    (start : parent.text <+: path.text) (filled : parent.text ≠ []) {rest : List Text}
    (split : path.segments = parent.segments ++ rest) :
    tree.resolve followLast path =
      onward tree followLast linkLimit rest (tree.resolve followLast parent) := by
  rw [resolve_of_accepted accepted, resolve_of_accepted (accepted.of_prefix start filled), split,
    walk_append free]

theorem walk_following (free : tree.LinkFree) (segments : List Text) :
    walk tree followLast links here segments = walk tree true links here segments := by
  fun_induction walk tree followLast links here segments
  all_goals grind [walk, LinkFree]

/-! ## Walks that fail -/

/-- A walk that fails because of what is there fails for that reason ever after. -/
theorem walk_error_of_changes (free : before.LinkFree) (changes : Changes before after writes)
    (found : problem ≠ .notFound)
    (failed : walk before followLast links here segments = .error problem) :
    walk after followLast links here segments = .error problem := by
  have directories := changes.directories
  have files (location : Location) (content : Content)
      (stands : before.get? location = some (.file content)) := changes.file_of_file stands
  fun_induction walk before followLast links here segments <;> try cases failed
  all_goals grind [walk, LinkFree]

/-- A walk on which nothing is missing misses nothing later. -/
theorem walk_not_missing_of_changes (free : before.LinkFree)
    (changes : Changes before after writes)
    (found : walk before followLast links here segments ≠ .error .notFound) :
    walk after followLast links here segments ≠ .error .notFound := by
  have freeAfter := changes.linkFree free
  have directories := changes.directories
  have files (location : Location) (content : Content)
      (stands : before.get? location = some (.file content)) := changes.file_of_file stands
  fun_induction walk before followLast links here segments
  all_goals grind [walk, LinkFree, walk_of_empty]

theorem resolve_error_of_changes (free : before.LinkFree) (changes : Changes before after writes)
    (found : problem ≠ .notFound) (failed : before.resolve followLast path = .error problem) :
    after.resolve followLast path = .error problem := by
  by_cases accepted : path.Accepted
  · rw [resolve_of_accepted accepted] at failed ⊢
    exact walk_error_of_changes free changes found failed
  · rcases resolve_of_refused accepted with ⟨other, always, _⟩
    rw [always] at failed ⊢
    exact failed

theorem resolve_not_missing_of_changes (free : before.LinkFree)
    (changes : Changes before after writes)
    (found : before.resolve followLast path ≠ .error .notFound) :
    after.resolve followLast path ≠ .error .notFound := by
  by_cases accepted : path.Accepted
  · rw [resolve_of_accepted accepted] at found ⊢
    exact walk_not_missing_of_changes free changes found
  · rcases resolve_of_refused accepted with ⟨other, always, _⟩
    rw [always] at found ⊢
    exact found

end FileTree
end MediaSite
