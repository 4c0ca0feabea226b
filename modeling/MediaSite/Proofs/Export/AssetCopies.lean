import MediaSite.Proofs.Export.Assets

namespace MediaSite

/-!
# Copying entries one after the other

An entry of a pack goes to the same names below the output directory: a directory is made
there, and a file is copied there, unless it is one of the pack's own.  So copying writes only
at the places of assets (`Pack.changes_copyEntries`), also when it fails half way.  When a walk
has come to its end, each asset that it came to has had its turn (`Pack.exists_turn`), and what
was copied then is what the source held then; only a file that is copied onto itself is emptied
(`FileTree.Grounded.copy_names`).

In which relation the output directory stands to the pack does not matter here.
-/

open scoped Text

namespace FileTree

variable {tree done : FileTree} {output : Path} {root base : Location} {names : List Text}

/-- A file is copied from its names to those below a root. -/
theorem Grounded.copy_names (grounded : tree.Grounded output base) (downward : Downward names)
    (whole : Downward (root ++ names))
    (copied : copy ⟨Text.join ['/'] (root ++ names)⟩ (output.joinNames names) tree =
      (.ok (), done)) :
    ∃ content, tree.find ⟨Text.join ['/'] (root ++ names)⟩ = .ok (root ++ names, .file content) ∧
      Opens tree (output.joinNames names) (base ++ names) ∧
      tree.HasRoom (base ++ names) (Content.pouredFrom content (root ++ names) (base ++ names)) ∧
      done = (tree.lockLike (root ++ names) (base ++ names)).put (base ++ names)
        (.file (Content.pouredFrom content (root ++ names) (base ++ names))) := by
  rcases copy_ok copied with ⟨origin, content, location, source, opens, room, rfl⟩
  cases grounded.free.find_names whole source
  have after := grounded.of_changes (opens.changes (.text []))
  cases after.place_joinNames downward (opens.leads (.text []))
  exact ⟨content, source, opens, room, rfl⟩

/-- Copying to names below a root leaves alone what stands elsewhere. -/
theorem Grounded.outside_copy (grounded : tree.Grounded output base) (downward : Downward names)
    {source : Path} :
    (copy source (output.joinNames names) tree).2.outside base = tree.outside base := by
  have put {location : Location} (opens : Opens tree (output.joinNames names) location)
      (origin : Location) (content : Content) :
      ((tree.lockLike origin location).put location (.file content)).outside base =
        tree.outside base := by
    have there := (grounded.of_changes (opens.changes content)).place_joinNames downward
      (opens.leads content)
    rw [there, outside_put (List.prefix_append base names), outside, outside, lockLike_entries]
  rcases copy_cases source (output.joinNames names) tree with
    ⟨problem, refused⟩ | ⟨origin, content, location, _, opens, ⟨_, copies⟩ | ⟨_, part, broken⟩⟩
  · rw [refused]
  · rw [copies]
    exact put opens origin _
  · rw [broken]
    exact put opens origin part

end FileTree

namespace Pack

open FileTree

variable {tree middle after done : FileTree} {output : Path} {root base above relative : Location}
  {left : Option Location} {entry : Entry} {names : List Text}
  {entries walked front back : List (Location × Entry)}

/-! ## Where something is written -/

/-- Whether it succeeds or not, copying an asset writes only at its place, and copying anything
else writes nothing. -/
theorem writes_copyEntry (root : Location) (entry : Entry) (grounded : tree.Grounded output base)
    (downward : Downward relative) :
    ∃ writes, Changes tree (copyEntry root output relative entry tree).2 writes ∧
      ∀ write ∈ writes, isCopied (relative, entry) = true ∧ write.1 = base ++ relative := by
  rcases changes_copyEntry root output relative entry tree with ⟨writes, changes, each⟩
  refine ⟨writes, changes, fun write member => ⟨(each write member).1, ?_⟩⟩
  exact (grounded.of_changes changes).place_joinNames downward (each write member).2

theorem changes_copyEntries (root : Location) (grounded : tree.Grounded output base)
    (downward : ∀ item ∈ entries, Downward item.1) :
    ∃ writes, Changes tree (copyEntries root output entries tree).2 writes ∧
      ∀ write ∈ writes, ∃ item ∈ entries, isCopied item = true ∧ write.1 = base ++ item.1 := by
  induction entries generalizing tree with
  | nil => exact ⟨[], Changes.refl tree, List.forall_mem_nil _⟩
  | cons item rest inductionHypothesis =>
      rcases item with ⟨relative, entry⟩
      rcases List.forall_mem_cons.mp downward with ⟨here, later⟩
      rcases writes_copyEntry root entry grounded here with
        ⟨own, changes, places⟩
      rw [copyEntries, inTurn]
      split
      · rename_i run
        rw [run] at changes
        exact ⟨own, changes, fun write member => ⟨_, List.mem_cons_self, places write member⟩⟩
      · rename_i run
        rw [run] at changes
        rcases inductionHypothesis (grounded.of_changes changes) later with ⟨more, further, others⟩
        refine ⟨own ++ more, changes.trans further, List.forall_mem_append.mpr ⟨?_, ?_⟩⟩
        · exact fun write member => ⟨_, List.mem_cons_self, places write member⟩
        · intro write member
          rcases others write member with ⟨other, inRest, where_⟩
          exact ⟨other, List.mem_cons_of_mem _ inRest, where_⟩

theorem regular_copyEntry (root : Location) (output : Path) (relative : Location) (entry : Entry)
    (regular : tree.Regular) : (copyEntry root output relative entry tree).2.Regular :=
  copyEntry_preserves kept_regular regular

theorem regular_copyEntries (root : Location) (output : Path) (entries : List (Location × Entry))
    (regular : tree.Regular) : (copyEntries root output entries tree).2.Regular := by
  induction entries generalizing tree with
  | nil => exact regular
  | cons item rest inductionHypothesis =>
      exact inTurn_preserves (regular_copyEntry _ _ _ _ regular) fun _ _ _ kept =>
        inductionHypothesis kept

/-- Copying an entry below a directory leaves alone what stands elsewhere. -/
theorem outside_copyEntry (root : Location) (entry : Entry) (filled : output.text ≠ [])
    (regular : tree.Regular) (grounded : tree.Grounded output base) (downward : Downward relative) :
    (copyEntry root output relative entry tree).2.outside base = tree.outside base := by
  have made {path : Path} (repeatable : Repeatable base (makeDirectories path) tree) :
      (makeDirectories path tree).2.outside base = tree.outside base := by
    rcases repeatable.ahead with ⟨_, ahead⟩
    exact ahead.outside
  by_cases copied : isCopied (relative, entry) = true
  · rw [copyEntry_of_copied copied]
    have making := changes_makeDirectories (home output relative) tree
    refine inTurn_preserves (P := fun after => after.outside base = tree.outside base)
      (made (repeatable_home filled regular grounded downward)) fun _ middle run same => ?_
    rw [run] at making
    exact ((grounded.of_changes making).outside_copy downward).trans same
  · by_cases directory : entry = .directory
    · subst directory
      exact made (repeatable_makeDirectories regular (grounded.below filled downward) downward.proper)
    · rw [copyEntry_of_own directory fun asset => copied (isCopied_iff.mpr ⟨directory, asset⟩)]
      rfl

theorem outside_copyEntries (root : Location) (filled : output.text ≠ [])
    (regular : tree.Regular) (grounded : tree.Grounded output base)
    (downward : ∀ item ∈ entries, Downward item.1) :
    (copyEntries root output entries tree).2.outside base = tree.outside base := by
  induction entries generalizing tree with
  | nil => rfl
  | cons item rest inductionHypothesis =>
      rcases item with ⟨relative, entry⟩
      rcases List.forall_mem_cons.mp downward with ⟨here, later⟩
      have same := outside_copyEntry root entry filled regular grounded here
      have kept := regular_copyEntry root output relative entry regular
      rcases writes_copyEntry root entry grounded here with ⟨_, changes, _⟩
      refine inTurn_preserves (P := fun after => after.outside base = tree.outside base) same
        fun _ middle run _ => ?_
      rw [run] at same kept changes
      exact (inductionHypothesis kept (grounded.of_changes changes) later).trans same

/-! ## What a walk comes to -/

/-- What a walk through a regular tree comes to has names that can be written in a path. -/
theorem Walk.downward (regular : tree.Regular)
    (walk : Walk root output left above names tree walked done)
    (outside : ∀ base ∈ left, ¬ InOutput root base above) :
    ∀ item ∈ walked, Downward item.1 ∧ Downward (root ++ item.1) := by
  intro item member
  rcases walk.place outside member with ⟨front, _, middle, _, run, place⟩
  have kept := regular_copyEntries root output front regular
  rw [run] at kept
  refine downward_of_stands kept place.filled ?_
  rw [place.stands]
  exact Option.some_ne_none _

/-- A walk through the whole of a pack comes to all that stands in it from the beginning, unless
it lies in the output directory. -/
theorem Walk.complete_root (regular : tree.Regular)
    (walk : Walk root output left [] (tree.reading root) tree walked done)
    (filled : relative ≠ []) (stood : tree.get? (root ++ relative) = some entry)
    (outside : ∀ base ∈ left, ¬ InOutput root base relative) :
    ∃ found, (relative, found) ∈ walked ∧ (found = .directory ↔ entry = .directory) := by
  cases relative with
  | nil => exact absurd rfl filled
  | cons name rest =>
      have something : tree.get? (root ++ ([] ++ [name])) ≠ none := get?_on_way regular stood
      exact walk.complete regular (Changes.refl tree) (mem_reading something) stood outside

/-- What stands outside of the output directory is left alone by a walk, whatever comes of it. -/
theorem outside_copyBelow (names : List Text) (filled : output.text ≠ [])
    (regular : tree.Regular) (grounded : tree.Grounded output base) (levels : Nat)
    (outside : ∀ base ∈ left, ¬ InOutput root base above) :
    (copyBelow root output left levels above names tree).2.outside base = tree.outside base := by
  let Kept (after : FileTree) : Prop :=
    after.Regular ∧ after.Grounded output base ∧ after.outside base = tree.outside base
  have step (before : FileTree) (relative : Location) (entry : Entry) (kept : Kept before)
      (place : Place root left before relative entry) :
      Kept (copyEntry root output relative entry before).2 := by
    rcases kept with ⟨regular, grounded, same⟩
    have something : before.get? (root ++ relative) ≠ none := by
      rw [place.stands]
      exact Option.some_ne_none _
    have downward := (downward_of_stands regular place.filled something).1
    rcases changes_copyEntry root output relative entry before with ⟨_, changes, _⟩
    exact ⟨regular_copyEntry _ _ _ _ regular, grounded.of_changes changes,
      (outside_copyEntry root entry filled regular grounded downward).trans same⟩
  exact (copyBelow_preserves step names levels outside ⟨regular, grounded, rfl⟩).2.2

/-! ## Each asset in turn -/

/-- The turn of an asset, with the trees before and after and what is written earlier and later. -/
structure Turn (tree done : FileTree) (output : Path) (root base relative : Location)
    (middle after : FileTree) (earlier later : List (Location × Content)) : Prop where
  before : Changes tree middle earlier
  housed : makeDirectories (home output relative) middle = (.ok (), middle)
  copied : copy (pathOf (root ++ relative)) (output.joinNames relative) middle = (.ok (), after)
  behind : Changes after done later
  below : ∀ write ∈ earlier, base <+: write.1
  /-- No place is written both earlier and later, and none that is written later is this one. -/
  once : ∀ location, location ∈ earlier.map Prod.fst ∨ location = base ++ relative →
    location ∉ later.map Prod.fst

/-- When all goes well each entry is copied between those in front of it and those behind. -/
theorem exists_between (grounded : tree.Grounded output base)
    (downward : ∀ item ∈ entries, Downward item.1)
    (run : copyEntries root output entries tree = (.ok (), done))
    (member : (relative, entry) ∈ entries) :
    ∃ front back before after earlier later, entries = front ++ (relative, entry) :: back ∧
      Changes tree before earlier ∧ copyEntry root output relative entry before = (.ok (), after) ∧
      Changes after done later ∧ (∀ write ∈ earlier, ∃ item ∈ front, write.1 = base ++ item.1) ∧
      ∀ write ∈ later, ∃ item ∈ back, write.1 = base ++ item.1 := by
  rcases List.append_of_mem member with ⟨front, back, rfl⟩
  rcases List.forall_mem_append.mp downward with ⟨downwardFront, others⟩
  rw [copyEntries_append, inTurn_eq_ok_iff] at run
  rcases run with ⟨_, before, first, rest⟩
  rw [copyEntries, inTurn_eq_ok_iff] at rest
  rcases rest with ⟨_, after, own, last⟩
  rcases changes_copyEntries root grounded downwardFront with ⟨earlier, changesFront, placesFront⟩
  rw [first] at changesFront
  rcases changes_copyEntry root output relative entry before with ⟨_, changesOwn, _⟩
  rw [own] at changesOwn
  have onward := (grounded.of_changes changesFront).of_changes changesOwn
  rcases changes_copyEntries root onward (List.forall_mem_cons.mp others).2 with
    ⟨later, changesBack, placesBack⟩
  rw [last] at changesBack
  refine ⟨front, back, before, after, earlier, later, rfl, changesFront, own, changesBack,
    fun write inEarlier => ?_, fun write inLater => ?_⟩
  · rcases placesFront write inEarlier with ⟨item, inFront, _, there⟩
    exact ⟨item, inFront, there⟩
  · rcases placesBack write inLater with ⟨item, inBack, _, there⟩
    exact ⟨item, inBack, there⟩

/-- When all goes well each asset has its turn. -/
theorem exists_turn (grounded : tree.Grounded output base)
    (downward : ∀ item ∈ entries, Downward item.1) (distinct : (entries.map Prod.fst).Nodup)
    (run : copyEntries root output entries tree = (.ok (), done))
    (member : (relative, entry) ∈ entries) (copied : isCopied (relative, entry) = true) :
    ∃ middle after earlier later,
      Turn tree done output root base relative middle after earlier later := by
  rcases exists_between grounded downward run member with
    ⟨front, back, before, after, earlier, later, rfl, changesFront, own, changesBack,
      placesFront, placesBack⟩
  rw [copyEntry_of_copied copied, inTurn_eq_ok_iff] at own
  rcases own with ⟨_, middle, made, copies⟩
  have changesMade := changes_makeDirectories (home output relative) before
  rw [show makeDirectories (home output relative) before = _ from made] at changesMade
  have reached := changesFront.trans changesMade
  rw [List.append_nil] at reached
  refine ⟨middle, after, earlier, later, reached, makeDirectories_of_made made (Changes.refl middle),
    copies, changesBack, fun write inEarlier => ?_, fun location early written => ?_⟩
  · rcases placesFront write inEarlier with ⟨other, _, there⟩
    rw [there]
    exact List.prefix_append _ _
  · -- Entries of the front and the back are different, and so are their places.
    rw [List.map_append, List.map_cons, List.nodup_append] at distinct
    rcases distinct with ⟨_, tail, apart⟩
    rcases List.mem_map.mp written with ⟨write, inLater, rfl⟩
    rcases placesBack write inLater with ⟨other, inBack, there⟩
    rw [there] at early
    have inOthers := List.mem_map_of_mem (f := Prod.fst) inBack
    rcases early with inEarlier | same
    · rcases List.mem_map.mp inEarlier with ⟨write, inWrites, same⟩
      rcases placesFront write inWrites with ⟨first, inFront, place⟩
      rw [place] at same
      exact apart _ (List.mem_map_of_mem inFront) _ (List.mem_cons_of_mem _ inOthers)
        (List.append_cancel_left same)
    · rw [List.append_cancel_left same] at inOthers
      exact (List.nodup_cons.mp tail).1 inOthers

/-- What the source held at its turn is what the target holds in the end. -/
theorem Turn.carried {earlier later : List (Location × Content)}
    (turn : Turn tree done output root base relative middle after earlier later)
    (grounded : tree.Grounded output base) (downward : Downward relative)
    (whole : Downward (root ++ relative)) :
    ∃ content, middle.get? (root ++ relative) = some (.file content) ∧
      done.find (output.joinNames relative) = .ok (base ++ relative,
        .file (Content.pouredFrom content (root ++ relative) (base ++ relative))) := by
  rcases (grounded.of_changes turn.before).copy_names downward whole turn.copied with
    ⟨content, source, opens, _, rfl⟩
  refine ⟨content, get?_of_find_file source, ?_⟩
  have target := opens.leads_copied (root ++ relative)
    (Content.pouredFrom content (root ++ relative) (base ++ relative))
  refine find_of_changes turn.behind (.file ?_) target
  exact (turn.behind.file_iff (turn.once _ (.inr rfl))).mpr (get?_of_find_file target)

/-- When all goes well each directory is there in the end. -/
theorem find_directory (grounded : tree.Grounded output base) (filled : output.text ≠ [])
    (downward : ∀ item ∈ entries, Downward item.1)
    (run : copyEntries root output entries tree = (.ok (), done))
    (member : (relative, Entry.directory) ∈ entries) :
    done.find (output.joinNames relative) = .ok (base ++ relative, .directory) := by
  rcases exists_between grounded downward run member with
    ⟨front, back, before, made, _, _, rfl, changesFront, own, changesBack, _⟩
  have here := downward _ member
  have making : makeDirectories (output.joinNames relative) before = (.ok (), made) := own
  have changesMade := changes_makeDirectories (output.joinNames relative) before
  rw [making] at changesMade
  have onward := (grounded.of_changes changesFront).of_changes changesMade
  rcases lineage_eq_cons (output.joinNames relative).text.length (output.joinNames relative) with
    ⟨ancestors, same⟩
  have directory := ((makeLineage_spec making).2 _ ancestors same rfl).resolve_left fun empty =>
    (grounded.below filled here).filled (List.isEmpty_iff.mp empty)
  rcases isDirectory_eq_true_iff.mp directory with ⟨location, found⟩
  rw [onward.place_joinNames here found] at found
  exact changesBack.find_directory found

end Pack
end MediaSite
