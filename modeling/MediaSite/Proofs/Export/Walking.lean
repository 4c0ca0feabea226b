import Mathlib.Data.List.Nodup
import MediaSite.Proofs.Files.Retracing
import MediaSite.Proofs.Library.Arrangement
import MediaSite.Site.Pack

namespace MediaSite

/-!
# Walking through a pack

A pack is copied while it is walked through, and what has been copied may stand in the pack
itself.  So what a walk comes to is not known before it begins.

Whatever comes of a walk, it is made of copies of single entries: what each of them keeps is
kept (`Pack.copyBelow_preserves`).  A walk that comes to its end is a `Pack.Walk`, which says
what it came to and in which tree.  It has copied just these entries one after the other
(`Pack.Walk.copyEntries`), has come to none of them twice, and has left out nothing that stood
in the pack from the beginning (`Pack.Walk.complete`).
-/

open scoped Text

namespace FileTree

variable {tree : FileTree} {location : Location} {name : Text}

/-! ## Reading directories -/

theorem mem_names_iff : name ∈ tree.names location ↔ tree.get? (location ++ [name]) ≠ none := by
  have filled := List.append_ne_nil_of_right_ne_nil location (List.cons_ne_nil name [])
  rw [lookup_of_get? filled, Ne, lookup_eq_none_iff, not_not, names, mem_ascending,
    List.mem_filterMap, List.mem_map]
  refine exists_congr fun item => and_congr_right fun _ => ?_
  rw [eq_comm (b := location ++ [name]), ← List.isPrefixOf?_eq_some_iff_append_eq]
  split
  · rename_i found
    rw [found]
    exact ⟨fun same => by cases same; rfl, fun same => by cases same; rfl⟩
  · rename_i other
    exact ⟨nofun, fun found => absurd found (other name)⟩

/-- Everything that stands in a directory when it is opened is read. -/
theorem mem_reading (stands : tree.get? (location ++ [name]) ≠ none) :
    name ∈ tree.reading location := by
  have listed := mem_names_iff.mpr stands
  rw [reading, List.mem_append, List.mem_filter]
  by_cases ordered : name ∈ ((tree.medium.order.lookup location).getD []).foldr List.insert []
  · exact .inl ordered
  · refine .inr ⟨listed, ?_⟩
    rw [Bool.not_eq_true', Bool.eq_false_iff, Ne, List.contains_iff_mem]
    exact ordered

theorem nodup_reading (tree : FileTree) (location : Location) :
    (tree.reading location).Nodup := by
  refine List.Nodup.append ?_ ((nodup_ascending _).filter _) ?_
  · generalize (tree.medium.order.lookup location).getD [] = order
    induction order with
    | nil => exact List.nodup_nil
    | cons name order inductionHypothesis => exact inductionHypothesis.insert
  · intro name ordered others
    rw [List.mem_filter, Bool.not_eq_true', Bool.eq_false_iff, Ne, List.contains_iff_mem] at others
    exact others.2 ordered

end FileTree

namespace Pack

open FileTree

variable {tree middle done : FileTree} {root base above relative : Location} {output : Path}
  {left : Option Location} {entry : Entry} {names : List Text}
  {walked entries : List (Location × Entry)}

/-! ## One entry -/

/-- Is copied when it is come to: a file, and not one of the pack's own. -/
theorem isCopied_iff : isCopied (relative, entry) = true ↔
    entry ≠ .directory ∧ isAsset relative = true := by
  rw [isCopied, Bool.and_eq_true, bne_iff_ne]

/-- The directory that is made for what is copied to a place. -/
def home (output : Path) (relative : Location) : Path :=
  (output.joinNames relative).parent?.getD (output.joinNames relative)

theorem copyEntry_of_copied (copied : isCopied (relative, entry) = true) :
    copyEntry root output relative entry = inTurn (makeDirectories (home output relative))
      fun _ => copy (pathOf (root ++ relative)) (output.joinNames relative) := by
  rcases isCopied_iff.mp copied with ⟨noDirectory, asset⟩
  rw [copyEntry, if_pos asset]
  · rfl
  · exact noDirectory

theorem copyEntry_of_own (noDirectory : entry ≠ .directory) (own : ¬ isAsset relative = true) :
    copyEntry root output relative entry = FileTree.done () := by
  rw [copyEntry, if_neg own]
  exact noDirectory

/-- What all operations keep is kept by copying an entry. -/
theorem copyEntry_preserves {P : FileTree → Prop} (kept : Kept P) (start : P tree) :
    P (copyEntry root output relative entry tree).2 := by
  by_cases copies : isCopied (relative, entry) = true
  · rw [copyEntry_of_copied copies]
    exact inTurn_preserves (kept.makeDirectories _ _ start) fun _ _ _ => kept.copy _ _ _
  · by_cases directory : entry = .directory
    · subst directory
      exact kept.makeDirectories _ _ start
    · rw [copyEntry_of_own directory fun asset => copies (isCopied_iff.mpr ⟨directory, asset⟩)]
      exact start

/-- Copying an entry writes nowhere but where the target of an asset leads. -/
theorem changes_copyEntry (root : Location) (output : Path) (relative : Location) (entry : Entry)
    (tree : FileTree) :
    ∃ writes, Changes tree (copyEntry root output relative entry tree).2 writes ∧
      ∀ item ∈ writes, isCopied (relative, entry) = true ∧
        (copyEntry root output relative entry tree).2.find (output.joinNames relative) =
          .ok (item.1, .file item.2) := by
  by_cases directory : entry = .directory
  · subst directory
    exact ⟨[], changes_makeDirectories _ tree, List.forall_mem_nil _⟩
  · by_cases asset : isAsset relative = true
    · have copied : isCopied (relative, entry) = true := isCopied_iff.mpr ⟨directory, asset⟩
      rw [copyEntry_of_copied copied]
      have made := changes_makeDirectories (home output relative) tree
      rw [inTurn]
      split
      · rename_i run
        rw [run] at made
        exact ⟨[], made, List.forall_mem_nil _⟩
      · rename_i run
        rw [run] at made
        rcases changes_copy (pathOf (root ++ relative)) (output.joinNames relative) _ with
          ⟨writes, changes, there⟩
        exact ⟨writes, made.trans changes, fun item member => ⟨copied, (there item member).1⟩⟩
    · rw [copyEntry_of_own directory asset]
      exact ⟨[], Changes.refl tree, List.forall_mem_nil _⟩

theorem changes_of_not_copied {outcome : Except FileError Unit}
    (notCopied : ¬ isCopied (relative, entry) = true)
    (run : copyEntry root output relative entry tree = (outcome, done)) :
    Changes tree done [] := by
  rcases changes_copyEntry root output relative entry tree with ⟨writes, changes, each⟩
  rw [run] at changes
  have nothing : writes = [] := List.eq_nil_iff_forall_not_mem.mpr fun item member =>
    notCopied (each item member).1
  rwa [nothing] at changes

/-- What has been copied stands where its target leads. -/
theorem copyEntry_ok (copied : isCopied (relative, entry) = true)
    (run : copyEntry root output relative entry tree = (.ok (), done)) :
    ∃ location content, done.find (output.joinNames relative) = .ok (location, .file content) ∧
      Changes tree done [(location, content)] := by
  rw [copyEntry_of_copied copied, inTurn_eq_ok_iff] at run
  rcases run with ⟨_, ready, first, second⟩
  have made := changes_makeDirectories (home output relative) tree
  rw [first] at made
  rcases copy_ok second with ⟨origin, content, location, _, opens, _, rfl⟩
  exact ⟨location, _, opens.leads_copied origin _, made.trans (opens.changes_copied origin _)⟩

/-! ## What is left out -/

/-- Lies in an output directory that stands inside of the pack. -/
def InOutput (root base relative : Location) : Prop :=
  (root <+: base ∧ base ≠ root) ∧ base <+: root ++ relative

theorem inOutput_iff (apart : ¬ base <+: root) :
    InOutput root base relative ↔ base <+: root ++ relative := by
  refine and_iff_right_of_imp fun inside => ⟨?_, fun same => apart (same ▸ List.prefix_rfl)⟩
  exact (List.prefix_or_prefix_of_prefix (List.prefix_append root relative) inside).resolve_right
    apart

/-- Nothing lies in an output directory that the pack itself stands in. -/
theorem not_inOutput_of_above (inside relative : Location) :
    ¬ InOutput (base ++ inside) base relative := by
  rintro ⟨⟨above, different⟩, _⟩
  exact different (above.eq_of_length_le (List.prefix_append base inside).length_le).symm

theorem not_inOutput_nil : ¬ InOutput root base [] := by
  rintro ⟨⟨inside, different⟩, above⟩
  rw [List.append_nil] at above
  exact different (above.eq_of_length_le inside.length_le)

/-- The first that lies in the output directory is that directory. -/
theorem eq_of_inOutput {name : Text} (outside : ¬ InOutput root base above)
    (inOutput : InOutput root base (above ++ [name])) : base = root ++ (above ++ [name]) := by
  rcases inOutput with ⟨inside, below⟩
  rw [← List.append_assoc, List.prefix_concat_iff] at below
  rcases below with same | before
  · rw [same, List.append_assoc]
  · exact absurd ⟨inside, before⟩ outside

/-! ## Walks -/

/-- A place in a pack that a walk comes to. -/
structure Place (root : Location) (left : Option Location) (tree : FileTree) (relative : Location)
    (entry : Entry) : Prop where
  filled : relative ≠ []
  stands : tree.get? (root ++ relative) = some entry
  outside : ∀ base ∈ left, ¬ InOutput root base relative

theorem place_of_name {name : Text} (outside : ∀ base ∈ left, ¬ InOutput root base above)
    (visited : left ≠ some (root ++ (above ++ [name])))
    (stands : tree.get? (root ++ (above ++ [name])) = some entry) :
    Place root left tree (above ++ [name]) entry where
  filled := List.append_ne_nil_of_right_ne_nil above (List.cons_ne_nil name [])
  stands := stands
  outside := by
    rintro base isLeft inOutput
    rw [eq_of_inOutput (outside base isLeft) inOutput] at isLeft
    exact visited isLeft

section Preserves

variable {P : FileTree → Prop} (step : ∀ tree relative entry, P tree →
  Place root left tree relative entry → P (copyEntry root output relative entry tree).2)

include step

theorem copyNames_preserves
    {enter : Location → List Text → FileAction (List (Location × Entry))}
    (entering : ∀ above names tree, (∀ base ∈ left, ¬ InOutput root base above) → P tree →
      P (enter above names tree).2)
    (outside : ∀ base ∈ left, ¬ InOutput root base above) (start : P tree) :
    P (copyNames root output left enter above names tree).2 := by
  induction names generalizing tree with
  | nil => exact start
  | cons name names inductionHypothesis =>
      rw [copyNames]
      simp only
      split
      · exact inductionHypothesis start
      · rename_i visited
        split
        · exact inductionHypothesis start
        · rename_i entry stands
          have place := place_of_name outside visited stands
          refine inTurn_preserves (step tree _ entry start place) fun _ copied _ kept => ?_
          refine inTurn_preserves ?_ fun inside behind _ keptInside => ?_
          · split
            · exact entering _ _ _ place.outside kept
            · exact kept
          · exact inTurn_preserves (inductionHypothesis keptInside) fun _ _ _ last => last

/-- What copying an entry keeps is kept by a walk, whatever comes of it. -/
theorem copyBelow_preserves (names : List Text) (levels : Nat)
    (outside : ∀ base ∈ left, ¬ InOutput root base above) (start : P tree) :
    P (copyBelow root output left levels above names tree).2 := by
  induction levels generalizing above names tree with
  | zero => exact start
  | succ levels inductionHypothesis =>
      exact copyNames_preserves step (fun _ names _ => inductionHypothesis names) outside start

end Preserves

/-- A walk that came to its end: what it came to, and the trees before and after. -/
inductive Walk (root : Location) (output : Path) (left : Option Location) :
    (above : Location) → (names : List Text) → FileTree → List (Location × Entry) → FileTree → Prop
  | nil {above : Location} {tree : FileTree} : Walk root output left above [] tree [] tree
  | pass {above : Location} {name : Text} {names : List Text} {tree done : FileTree}
      {walked : List (Location × Entry)}
      (passed : left = some (root ++ (above ++ [name])) ∨
        tree.get? (root ++ (above ++ [name])) = none)
      (rest : Walk root output left above names tree walked done) :
      Walk root output left above (name :: names) tree walked done
  | file {above : Location} {name : Text} {names : List Text} {tree middle done : FileTree}
      {entry : Entry} {walked : List (Location × Entry)}
      (visited : left ≠ some (root ++ (above ++ [name])))
      (stands : tree.get? (root ++ (above ++ [name])) = some entry)
      (noDirectory : entry ≠ .directory)
      (copied : copyEntry root output (above ++ [name]) entry tree = (.ok (), middle))
      (rest : Walk root output left above names middle walked done) :
      Walk root output left above (name :: names) tree ((above ++ [name], entry) :: walked) done
  | directory {above : Location} {name : Text} {names : List Text}
      {tree opened middle done : FileTree} {inside walked : List (Location × Entry)}
      (visited : left ≠ some (root ++ (above ++ [name])))
      (stands : tree.get? (root ++ (above ++ [name])) = some .directory)
      (copied : copyEntry root output (above ++ [name]) .directory tree = (.ok (), opened))
      (inner : Walk root output left (above ++ [name])
        (tree.reading (root ++ (above ++ [name]))) opened inside middle)
      (rest : Walk root output left above names middle walked done) :
      Walk root output left above (name :: names) tree
        ((above ++ [name], .directory) :: inside ++ walked) done

theorem walk_of_copyNames {enter : Location → List Text → FileAction (List (Location × Entry))}
    (entering : ∀ {above names tree walked done}, enter above names tree = (.ok walked, done) →
      Walk root output left above names tree walked done)
    (run : copyNames root output left enter above names tree = (.ok walked, done)) :
    Walk root output left above names tree walked done := by
  induction names generalizing tree walked with
  | nil =>
      cases run
      exact .nil
  | cons name names inductionHypothesis =>
      rw [copyNames] at run
      simp only at run
      split at run
      · rename_i same
        exact .pass (.inl same) (inductionHypothesis run)
      · rename_i visited
        split at run
        · rename_i nothing
          exact .pass (.inr nothing) (inductionHypothesis run)
        · rename_i entry stands
          simp only [inTurn_eq_ok_iff] at run
          rcases run with ⟨_, copied, own, inside, middle, inner, others, last, rest, same⟩
          cases same
          split at inner
          · rename_i directory
            subst directory
            exact .directory visited stands own (entering inner) (inductionHypothesis rest)
          · rename_i noDirectory
            cases inner
            exact .file visited stands noDirectory own (inductionHypothesis rest)

theorem walk_of_copyBelow {levels : Nat}
    (run : copyBelow root output left levels above names tree = (.ok walked, done)) :
    Walk root output left above names tree walked done := by
  induction levels generalizing above names tree walked done with
  | zero => cases run
  | succ levels inductionHypothesis => exact walk_of_copyNames inductionHypothesis run

/-- Conversely, with more levels than any of its places has names a walk comes to its end. -/
theorem copyBelow_of_walk (walk : Walk root output left above names tree walked done) {levels : Nat}
    (near : ∀ item ∈ walked, item.1.length ≤ above.length + levels) :
    copyBelow root output left (levels + 1) above names tree = (.ok walked, done) := by
  induction walk generalizing levels with
  | nil => rfl
  | @pass above name names tree done walked passed _ inductionHypothesis =>
      have rest : copyNames root output left (copyBelow root output left levels) above names tree =
        (.ok walked, done) := inductionHypothesis near
      rw [copyBelow, copyNames]
      rcases passed with same | nothing
      · simp only [if_pos same, rest]
      · simp only [nothing, rest, ite_self]
  | @file above name names tree middle done entry walked visited stands noDirectory copied _
      inductionHypothesis =>
      have rest : copyNames root output left (copyBelow root output left levels) above names middle =
        (.ok walked, done) := inductionHypothesis (List.forall_mem_cons.mp near).2
      rw [copyBelow, copyNames]
      simp only [if_neg visited, stands, if_neg noDirectory, inTurn_ok copied]
      simp only [inTurn, FileTree.done, rest, List.cons_append, List.nil_append]
  | @directory above name names tree opened middle done inside walked visited stands copied _ _
      innerCopied restCopied =>
      rw [List.forall_mem_append, List.forall_mem_cons] at near
      have rest : copyNames root output left (copyBelow root output left levels) above names middle =
        (.ok walked, done) := restCopied near.2
      have longer : (above ++ [name]).length = above.length + 1 := by
        rw [List.length_append, List.length_singleton]
      -- The place of the directory itself says that there is a level below it.
      cases levels with
      | zero =>
          have here := near.1.1
          rw [longer] at here
          exact absurd here (Nat.not_succ_le_self _)
      | succ levels =>
          have within : ∀ item ∈ inside, item.1.length ≤ (above ++ [name]).length + levels := by
            rw [longer, Nat.add_right_comm]
            exact near.1.2
          have inner := innerCopied within
          rw [copyBelow, copyNames]
          simp only [if_neg visited, stands, if_true, inTurn_ok copied, inTurn_ok inner]
          simp only [inTurn, FileTree.done, rest]

/-! ## What a walk comes to -/

/-- Copy entries one after the other. -/
def copyEntries (root : Location) (output : Path) : List (Location × Entry) → FileAction Unit
  | [] => FileTree.done ()
  | (relative, entry) :: rest =>
    inTurn (copyEntry root output relative entry) fun _ => copyEntries root output rest

theorem copyEntries_append (front back : List (Location × Entry)) :
    copyEntries root output (front ++ back) =
      inTurn (copyEntries root output front) fun _ => copyEntries root output back := by
  induction front with
  | nil => rfl
  | cons item front inductionHypothesis =>
      rw [List.cons_append, copyEntries, copyEntries, inTurn_assoc, inductionHypothesis]

namespace Walk

/-- A walk has copied what it came to, in this order. -/
theorem copyEntries (walk : Walk root output left above names tree walked done) :
    Pack.copyEntries root output walked tree = (.ok (), done) := by
  induction walk with
  | nil => rfl
  | pass _ _ inductionHypothesis => exact inductionHypothesis
  | file _ _ _ copied _ inductionHypothesis =>
      rw [Pack.copyEntries, inTurn_ok copied, inductionHypothesis]
  | directory _ _ copied _ _ inner rest =>
      rw [List.cons_append, Pack.copyEntries, inTurn_ok copied, copyEntries_append,
        inTurn_ok inner, rest]

/-- What is kept when a copy succeeds is kept by a walk that comes to its end. -/
theorem preserves {P : FileTree → Prop}
    (step : ∀ before after relative entry, P before → Place root left before relative entry →
      copyEntry root output relative entry before = (.ok (), after) → P after)
    (walk : Walk root output left above names tree walked done)
    (outside : ∀ base ∈ left, ¬ InOutput root base above) (start : P tree) : P done := by
  induction walk with
  | nil => exact start
  | pass _ _ inductionHypothesis => exact inductionHypothesis outside start
  | file visited stands _ copied _ inductionHypothesis =>
      have place := place_of_name outside visited stands
      exact inductionHypothesis outside (step _ _ _ _ start place copied)
  | directory visited stands copied _ _ inner rest =>
      have place := place_of_name outside visited stands
      exact rest outside (inner place.outside (step _ _ _ _ start place copied))

theorem changes (walk : Walk root output left above names tree walked done) :
    ∃ writes, Changes tree done writes := by
  have step {tree middle : FileTree} {relative : Location} {entry : Entry}
      {outcome : Except FileError Unit}
      (copied : copyEntry root output relative entry tree = (outcome, middle)) :
      ∃ writes, Changes tree middle writes := by
    rcases changes_copyEntry root output relative entry tree with ⟨writes, changes, _⟩
    rw [copied] at changes
    exact ⟨writes, changes⟩
  induction walk with
  | nil => exact ⟨[], Changes.refl _⟩
  | pass _ _ inductionHypothesis => exact inductionHypothesis
  | file _ _ _ copied _ inductionHypothesis =>
      rcases step copied with ⟨_, own⟩
      rcases inductionHypothesis with ⟨_, rest⟩
      exact ⟨_, own.trans rest⟩
  | directory _ _ copied _ _ inner rest =>
      rcases step copied with ⟨_, own⟩
      rcases inner with ⟨_, inner⟩
      rcases rest with ⟨_, rest⟩
      exact ⟨_, (own.trans inner).trans rest⟩

/-- What a walk comes to is below one of the names. -/
theorem below_name (walk : Walk root output left above names tree walked done)
    {item : Location × Entry} (member : item ∈ walked) :
    ∃ name ∈ names, ∃ rest, item.1 = above ++ name :: rest := by
  induction walk with
  | nil => cases member
  | pass _ _ inductionHypothesis =>
      rcases inductionHypothesis member with ⟨name, inNames, below⟩
      exact ⟨name, List.mem_cons_of_mem _ inNames, below⟩
  | file _ _ _ _ _ inductionHypothesis =>
      rcases List.mem_cons.mp member with rfl | later
      · exact ⟨_, List.mem_cons_self, [], rfl⟩
      · rcases inductionHypothesis later with ⟨name, inNames, below⟩
        exact ⟨name, List.mem_cons_of_mem _ inNames, below⟩
  | directory _ _ _ _ _ inner rest =>
      rcases List.mem_append.mp member with here | later
      · rcases List.mem_cons.mp here with rfl | inside
        · exact ⟨_, List.mem_cons_self, [], rfl⟩
        · rcases inner inside with ⟨name, _, behind, below⟩
          exact ⟨_, List.mem_cons_self, name :: behind, by rw [below, List.append_assoc]; rfl⟩
      · rcases rest later with ⟨name, inNames, below⟩
        exact ⟨name, List.mem_cons_of_mem _ inNames, below⟩

/-- Nothing is come to twice. -/
theorem nodup (walk : Walk root output left above names tree walked done) (distinct : names.Nodup) :
    (walked.map Prod.fst).Nodup := by
  -- What is below one name is not below another.
  have apart {above : Location} {name : Text} {names : List Text} {tree done : FileTree}
      {walked : List (Location × Entry)} (absent : name ∉ names)
      (walk : Walk root output left above names tree walked done) (rest : Location) :
      above ++ name :: rest ∉ walked.map Prod.fst := by
    intro member
    rcases List.mem_map.mp member with ⟨item, inWalked, same⟩
    rcases walk.below_name inWalked with ⟨other, inNames, behind, below⟩
    rw [below] at same
    rw [(List.cons.inj (List.append_cancel_left same)).1] at inNames
    exact absent inNames
  induction walk with
  | nil => exact List.nodup_nil
  | pass _ _ inductionHypothesis => exact inductionHypothesis (List.nodup_cons.mp distinct).2
  | file _ _ _ _ rest inductionHypothesis =>
      rcases List.nodup_cons.mp distinct with ⟨absent, others⟩
      exact List.nodup_cons.mpr ⟨apart absent rest [], inductionHypothesis others⟩
  | @directory above name names tree opened middle done inside walked _ _ _ inner rest innerNodup
      restNodup =>
      rcases List.nodup_cons.mp distinct with ⟨absent, others⟩
      rw [List.map_append, List.map_cons, List.cons_append, List.nodup_cons, List.mem_append, not_or]
      refine ⟨⟨fun member => ?_, apart absent rest []⟩, ?_⟩
      · rcases List.mem_map.mp member with ⟨item, inInside, same⟩
        rcases inner.below_name inInside with ⟨other, _, behind, below⟩
        rw [same] at below
        exact List.cons_ne_nil _ _ (List.append_right_eq_self.mp below.symm)
      · refine (innerNodup (nodup_reading _ _)).append (restNodup others) ?_
        intro place inInside inWalked
        rcases List.mem_map.mp inInside with ⟨item, member, rfl⟩
        rcases inner.below_name member with ⟨other, _, behind, below⟩
        rw [below, List.append_assoc] at inWalked
        exact apart absent rest _ inWalked

/-- An entry is come to after others have been copied, and stands in the pack then. -/
theorem place (walk : Walk root output left above names tree walked done)
    (outside : ∀ base ∈ left, ¬ InOutput root base above) {item : Location × Entry}
    (member : item ∈ walked) :
    ∃ front back middle, walked = front ++ item :: back ∧
      Pack.copyEntries root output front tree = (.ok (), middle) ∧
      Place root left middle item.1 item.2 := by
  induction walk with
  | nil => cases member
  | pass _ _ inductionHypothesis => exact inductionHypothesis outside member
  | @file above name names tree middle done entry walked visited stands _ copied _
      inductionHypothesis =>
      rcases List.mem_cons.mp member with rfl | later
      · exact ⟨[], walked, tree, rfl, rfl, place_of_name outside visited stands⟩
      · rcases inductionHypothesis outside later with ⟨front, back, between, rfl, before, there⟩
        refine ⟨_ :: front, back, between, rfl, ?_, there⟩
        rw [Pack.copyEntries, inTurn_ok copied, before]
  | @directory above name names tree opened middle done inside walked visited stands copied inner _
      innerPlace restPlace =>
      have here := place_of_name outside visited stands
      rcases List.mem_append.mp member with first | later
      · rcases List.mem_cons.mp first with rfl | inInside
        · exact ⟨[], inside ++ walked, tree, rfl, rfl, here⟩
        · rcases innerPlace here.outside inInside with ⟨front, back, between, rfl, before, there⟩
          refine ⟨(above ++ [name], .directory) :: front, back ++ walked, between, ?_, ?_, there⟩
          · simp only [List.cons_append, List.append_assoc]
          · rw [Pack.copyEntries, inTurn_ok copied, before]
      · rcases restPlace outside later with ⟨front, back, between, rfl, before, there⟩
        refine ⟨(above ++ [name], .directory) :: inside ++ front, back, between, ?_, ?_, there⟩
        · rw [List.append_assoc]
        · rw [List.cons_append, Pack.copyEntries, inTurn_ok copied, copyEntries_append,
            inTurn_ok inner.copyEntries, before]

variable {start : FileTree} {name : Text} {rest : Location}

/-- On the way to what stands further down, there is a directory. -/
theorem directory_on_way (regular : start.Regular) (filled : rest ≠ [])
    (stood : start.get? (root ++ (above ++ name :: rest)) = some entry) :
    start.get? (root ++ (above ++ [name])) = some .directory := by
  refine regular.directory_above filled ?_
  rw [List.append_assoc, List.append_assoc, List.singleton_append, stood]
  exact Option.some_ne_none _

theorem get?_on_way (regular : start.Regular)
    (stood : start.get? (root ++ (above ++ name :: rest)) = some entry) :
    start.get? (root ++ (above ++ [name])) ≠ none := by
  by_cases filled : rest = []
  · subst filled
    rw [stood]
    exact Option.some_ne_none _
  · rw [directory_on_way regular filled stood]
    exact Option.some_ne_none _

/-- Whatever stood in the pack from the beginning is come to, unless it lies in the output
directory. -/
theorem complete (regular : start.Regular) {writes : List (Location × Content)}
    (changes : Changes start tree writes)
    (walk : Walk root output left above names tree walked done) (member : name ∈ names)
    (stood : start.get? (root ++ (above ++ name :: rest)) = some entry)
    (outside : ∀ base ∈ left, ¬ InOutput root base (above ++ name :: rest)) :
    ∃ found, (above ++ name :: rest, found) ∈ walked ∧ (found = .directory ↔ entry = .directory) := by
  induction walk generalizing writes name rest with
  | nil => cases member
  | @pass above name' names tree done walked passed _ inductionHypothesis =>
      rcases List.mem_cons.mp member with rfl | later
      · -- What stood there still does, and what is left out is the output directory.
        rcases passed with isLeft | nothing
        · refine absurd ⟨⟨List.prefix_append _ _, ?_⟩, ?_⟩ (outside _ isLeft)
          · exact fun same => List.append_ne_nil_of_right_ne_nil above (List.cons_ne_nil _ _)
              (List.append_right_eq_self.mp same)
          · exact ⟨rest, by rw [List.append_assoc, List.append_assoc, List.singleton_append]⟩
        · exact absurd nothing (changes.get?_ne_none (get?_on_way regular stood))
      · exact inductionHypothesis changes later stood outside
  | @file above name' names tree middle done found walked visited stands noDirectory copied _
      inductionHypothesis =>
      rcases List.mem_cons.mp member with rfl | later
      · by_cases filled : rest = []
        · subst filled
          refine ⟨found, List.mem_cons_self, iff_of_false noDirectory ?_⟩
          rintro rfl
          rw [changes.directories _ stood] at stands
          exact noDirectory (Option.some.inj stands).symm
        · rw [changes.directories _ (directory_on_way regular filled stood)] at stands
          exact absurd (Option.some.inj stands).symm noDirectory
      · rcases changes_copyEntry root output (above ++ [name']) found tree with ⟨_, own, _⟩
        rw [copied] at own
        rcases inductionHypothesis (changes.trans own) later stood outside with
          ⟨other, inWalked, same⟩
        exact ⟨other, List.mem_cons_of_mem _ inWalked, same⟩
  | @directory above name' names tree opened middle done inside walked visited stands copied inner _
      innerComplete restComplete =>
      rcases changes_copyEntry root output (above ++ [name']) .directory tree with ⟨_, own, _⟩
      rw [copied] at own
      rcases List.mem_cons.mp member with rfl | later
      · cases rest with
        | nil =>
            refine ⟨.directory, List.mem_append_left _ List.mem_cons_self, iff_of_true rfl ?_⟩
            have before := changes.directory_before stands (get?_on_way regular stood)
            exact Option.some.inj (stood.symm.trans before)
        | cons next rest =>
            have further : above ++ name :: next :: rest = (above ++ [name]) ++ next :: rest := by
              rw [List.append_assoc, List.singleton_append]
            rw [further] at stood outside ⊢
            have read : next ∈ tree.reading (root ++ (above ++ [name])) := by
              refine mem_reading (changes.get?_ne_none ?_)
              rw [List.append_assoc]
              exact get?_on_way regular stood
            rcases innerComplete (changes.trans own) read stood outside with ⟨other, inInside, same⟩
            exact ⟨other, List.mem_append_left _ (List.mem_cons_of_mem _ inInside), same⟩
      · rcases inner.changes with ⟨_, within⟩
        rcases restComplete ((changes.trans own).trans within) later stood outside with
          ⟨other, inWalked, same⟩
        exact ⟨other, List.mem_append_right _ inWalked, same⟩

end Walk

end Pack
end MediaSite
