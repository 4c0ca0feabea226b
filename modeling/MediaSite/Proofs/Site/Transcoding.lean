import MediaSite.Proofs.Site.ArtworkCalls

namespace MediaSite

/-!
# Pictures that keep to their box

The size of scaled artwork comes from floating point numbers, but nothing about it rests on
them: the edge that is not that of the box is brought into the box after it has been rounded.
So the scales, their order and the rounding are taken as they come (`Scaling`), and a size lies
in its box and reaches an edge of it whatever they are (`Size.fills_fitBy`).

A transcode asks for the size of its source and carries out the plan for it.  Which calls this
leads to is known from what the backend answers (`Backend.callsFor`), and so is the answer
(`Backend.answer_carryOut`); all else is read off these two.
-/

open BackendCall

/-! ## Sizes -/

/-- How edges are scaled: what a scale is, which of two scales is the smaller one, and which whole
number of pixels a scaled edge has.  Nothing is asked of any of them. -/
structure Scaling where
  Scale : Type
  scale : (edge bound : Nat) → Scale
  isLe : Scale → Scale → Bool
  scaled : (edge : Nat) → Scale → Nat

/-- Scales as doubles, where a half is rounded up. -/
def Scaling.double : Scaling where
  Scale := Float
  scale := edgeScale
  isLe first second := first ≤ second
  scaled := scaledEdge

namespace Size

variable {source bounds : Size}

/-- The size of a picture in a box, with edges scaled in any way. -/
def fitBy (scaling : Scaling) (source bounds : Size) : Size :=
  if source.width = 0 || source.height = 0 then ⟨max 1 bounds.width, max 1 bounds.height⟩
  else
    let byWidth := scaling.scale source.width bounds.width
    let byHeight := scaling.scale source.height bounds.height
    if scaling.isLe byWidth byHeight then
      ⟨max 1 bounds.width, clampEdge (scaling.scaled source.height byWidth) bounds.height⟩
    else
      ⟨clampEdge (scaling.scaled source.width byHeight) bounds.width, max 1 bounds.height⟩

theorem fit_eq_fitBy (source bounds : Size) : source.fit bounds = source.fitBy .double bounds := by
  rw [fit, fitBy]
  simp only [Scaling.double, decide_eq_true_eq]

/-- A size has pixels, lies in a box and reaches one of its edges. -/
structure Fills (size bounds : Size) : Prop where
  width : 1 ≤ size.width ∧ size.width ≤ bounds.width
  height : 1 ≤ size.height ∧ size.height ≤ bounds.height
  reaches : size.width = bounds.width ∨ size.height = bounds.height

theorem clampEdge_within (edge : Nat) {bound : Nat} (proper : 1 ≤ bound) :
    1 ≤ clampEdge edge bound ∧ clampEdge edge bound ≤ bound := by
  rw [clampEdge]
  omega

/-- However edges are scaled, a picture fills its box. -/
theorem fills_fitBy (scaling : Scaling) (source : Size)
    (proper : 1 ≤ bounds.width ∧ 1 ≤ bounds.height) : (source.fitBy scaling bounds).Fills bounds := by
  rcases proper with ⟨wide, high⟩
  rw [fitBy, Nat.max_eq_right wide, Nat.max_eq_right high]
  split
  · exact ⟨⟨wide, Nat.le_refl _⟩, ⟨high, Nat.le_refl _⟩, .inl rfl⟩
  · dsimp only
    split
    · exact ⟨⟨wide, Nat.le_refl _⟩, clampEdge_within _ high, .inl rfl⟩
    · exact ⟨clampEdge_within _ wide, ⟨high, Nat.le_refl _⟩, .inr rfl⟩

end Size

/-! ## Plans -/

namespace ResizePlan

variable {plan : ResizePlan}

/-- The plan for a source, by its size, with edges scaled in any way. -/
def makeBy (scaling : Scaling) (source output : Path) (bounds : Size) (format : OutputFormat)
    (size : Size) : ResizePlan :=
  { source, output, size := size.fitBy scaling bounds, format }

theorem isAllowed_eq_true_iff :
    plan.isAllowed = true ↔ plan.size.width ≤ 4096 ∧ plan.size.height ≤ 4096 := by
  rw [isAllowed, Bool.and_eq_true, decide_eq_true_eq, decide_eq_true_eq, edgeLimit]

theorem isAllowed_eq_false_iff :
    plan.isAllowed = false ↔ 4096 < plan.size.width ∨ 4096 < plan.size.height := by
  rw [Bool.eq_false_iff, ne_eq, isAllowed_eq_true_iff]
  omega

end ResizePlan

namespace Backend

variable {σ : Type} (backend : Backend σ) (source : Path) (plan : Size → ResizePlan)
  (workspace : Workspace σ)

/-- Ask for the size of a source and carry out the plan for it, if it is allowed. -/
def carryOut : Except ImageError Size × Workspace σ :=
  match backend.identify source workspace with
  | (.error problem, done) => (.error problem, done)
  | (.ok size, done) =>
    if (plan size).isAllowed then
      match backend.resize (plan size) done with
      | (.error problem, done) => (.error problem, done)
      | (.ok (), done) => (.ok (plan size).size, done)
    else (.error (.tooLarge (plan size).size), done)

/-- What the backend answers when it is asked for the size. -/
def found : Except ImageError Size :=
  (backend.identify source workspace).1

/-- What the backend answers when it is told to carry out the plan for a size. -/
def made (size : Size) : Except ImageError Unit :=
  (backend.resize (plan size) (backend.identify source workspace).2).1

/-- The calls that carrying out a plan leads to, each with whether it succeeded. -/
def callsFor : List (BackendCall × Bool) :=
  (.identify source, (backend.found source workspace).isOk) ::
    match backend.found source workspace with
    | .error _ => []
    | .ok size =>
      if (plan size).isAllowed then
        [(.resize (plan size), (backend.made source plan workspace size).isOk)]
      else []

theorem answer_carryOut : (backend.carryOut source plan workspace).1 =
    (backend.found source workspace).bind fun size =>
      if (plan size).isAllowed then
        (backend.made source plan workspace size).map fun _ => (plan size).size
      else .error (.tooLarge (plan size).size) := by
  rw [carryOut, found]
  unfold made
  rcases backend.identify source workspace with ⟨answer, middle⟩
  cases answer with
  | error problem => rfl
  | ok size =>
      simp only [Except.bind]
      split
      · rcases backend.resize (plan size) middle with ⟨answer, done⟩
        cases answer <;> rfl
      · rfl

/-- A size is answered exactly if the plan is allowed and was carried out. -/
theorem answer_eq_ok_iff {done : Size} : (backend.carryOut source plan workspace).1 = .ok done ↔
    ∃ size, backend.found source workspace = .ok size ∧ (plan size).isAllowed = true ∧
      backend.made source plan workspace size = .ok () ∧ done = (plan size).size := by
  rw [answer_carryOut]
  constructor
  · intro answered
    cases found : backend.found source workspace with
    | error problem =>
        rw [found] at answered
        cases answered
    | ok size =>
        rw [found] at answered
        simp only [Except.bind] at answered
        split at answered
        · rename_i allowed
          cases made : backend.made source plan workspace size with
          | error problem =>
              rw [made] at answered
              cases answered
          | ok _ =>
              rw [made] at answered
              exact ⟨size, rfl, allowed, made, (Except.ok.inj answered).symm⟩
        · cases answered
  · rintro ⟨size, found, allowed, made, rfl⟩
    rw [found]
    simp only [Except.bind, if_pos allowed, made]
    rfl

/-- Watching the backend changes nothing, and notes the calls. -/
theorem carryOut_watched (log : List (BackendCall × Bool)) :
    backend.watched.carryOut source plan ⟨workspace.files, (workspace.side, log)⟩ =
      ((backend.carryOut source plan workspace).1,
        ⟨(backend.carryOut source plan workspace).2.files,
          ((backend.carryOut source plan workspace).2.side,
            log ++ backend.callsFor source plan workspace)⟩) := by
  unfold carryOut callsFor found made
  simp only [watched]
  rcases backend.identify source workspace with ⟨answer, middle⟩
  cases answer with
  | error problem => rfl
  | ok size =>
      simp only
      split
      · rcases backend.resize (plan size) middle with ⟨answer, done⟩
        cases answer <;> simp only [List.append_assoc, List.singleton_append]
      · rfl

theorem mem_callsFor_iff {tried : ResizePlan} {succeeded : Bool} :
    (.resize tried, succeeded) ∈ backend.callsFor source plan workspace ↔
      ∃ size, backend.found source workspace = .ok size ∧ tried = plan size ∧
        (plan size).isAllowed = true ∧
        succeeded = (backend.made source plan workspace size).isOk := by
  rw [callsFor]
  cases backend.found source workspace with
  | error problem => simp
  | ok size =>
      by_cases allowed : (plan size).isAllowed = true
      · simp [allowed]
      · simp [allowed]

theorem countP_callsFor : (backend.callsFor source plan workspace).countP isIdentify = 1 ∧
    (backend.callsFor source plan workspace).countP isResize ≤ 1 := by
  rw [callsFor]
  cases backend.found source workspace with
  | error problem => exact ⟨rfl, Nat.zero_le 1⟩
  | ok size =>
      by_cases allowed : (plan size).isAllowed = true
      · simp only [if_pos allowed]
        exact ⟨rfl, Nat.le_refl 1⟩
      · simp only [if_neg allowed]
        exact ⟨rfl, Nat.zero_le 1⟩

/-! ## Calls and answers -/

/-- What a plan comes to on a watched backend that has noted `log` before, with the calls that it
leads to and the answer. -/
structure CarriesOut (log calls : List (BackendCall × Bool)) (answer : Except ImageError Size) :
    Prop where
  /-- The calls are what the backend notes, and to note them changes nothing. -/
  noted : backend.watched.carryOut source plan ⟨workspace.files, (workspace.side, log)⟩ =
    (answer, ⟨(backend.carryOut source plan workspace).2.files,
      ((backend.carryOut source plan workspace).2.side, log ++ calls)⟩)
  unwatched : (backend.carryOut source plan workspace).1 = answer
  identifiedOnce : calls.countP isIdentify = 1
  identifiedFirst : calls.head? = some (.identify source, (backend.found source workspace).isOk)
  resizedOnce : calls.countP isResize ≤ 1
  /-- Only what was planned is carried out, and only within the limit. -/
  resized : ∀ tried succeeded, (.resize tried, succeeded) ∈ calls →
    ∃ size, backend.found source workspace = .ok size ∧ tried = plan size ∧
      tried.size.width ≤ 4096 ∧ tried.size.height ≤ 4096
  /-- Beyond the limit the planned size is refused, and nothing is resized. -/
  refused : ∀ size, backend.found source workspace = .ok size →
    4096 < (plan size).size.width ∨ 4096 < (plan size).size.height →
    answer = .error (.tooLarge (plan size).size) ∧ calls.countP isResize = 0
  /-- Errors of the backend are the answer. -/
  unreadable : ∀ problem, backend.found source workspace = .error problem →
    answer = .error problem
  unwritable : ∀ size succeeded problem, backend.found source workspace = .ok size →
    (.resize (plan size), succeeded) ∈ calls →
    backend.made source plan workspace size = .error problem → answer = .error problem
  /-- The answer is a size exactly if the plan was carried out, and then it is the planned one. -/
  written : ∀ done, answer = .ok done ↔ ∃ size, backend.found source workspace = .ok size ∧
    (.resize (plan size), true) ∈ calls ∧ done = (plan size).size

theorem carriesOut (log : List (BackendCall × Bool)) :
    backend.CarriesOut source plan workspace log (backend.callsFor source plan workspace)
      (backend.carryOut source plan workspace).1 := by
  have answer := backend.answer_carryOut source plan workspace
  constructor
  case noted => exact backend.carryOut_watched source plan workspace log
  case unwatched => rfl
  case identifiedOnce => exact (backend.countP_callsFor source plan workspace).1
  case identifiedFirst => rfl
  case resizedOnce => exact (backend.countP_callsFor source plan workspace).2
  case resized =>
    intro tried succeeded member
    rcases (backend.mem_callsFor_iff source plan workspace).mp member with
      ⟨size, found, rfl, allowed, _⟩
    exact ⟨size, found, rfl, ResizePlan.isAllowed_eq_true_iff.mp allowed⟩
  case refused =>
    intro size found large
    have tooLarge := ResizePlan.isAllowed_eq_false_iff.mpr large
    constructor
    · rw [answer, found]
      simp only [Except.bind, tooLarge, Bool.false_eq_true, if_false]
    · rw [callsFor, found]
      simp only [tooLarge, Bool.false_eq_true, if_false]
      rfl
  case unreadable =>
    intro problem found
    rw [answer, found]
    rfl
  case unwritable =>
    intro size succeeded problem found member failed
    rcases (backend.mem_callsFor_iff source plan workspace).mp member with
      ⟨same, foundAgain, _, allowed, _⟩
    rcases Except.ok.inj (found.symm.trans foundAgain) with rfl
    rw [answer, found]
    simp only [Except.bind, if_pos allowed, failed]
    rfl
  case written =>
    intro done
    rw [answer_eq_ok_iff]
    refine exists_congr fun size => ⟨?_, ?_⟩
    · rintro ⟨found, allowed, made, rfl⟩
      exact ⟨found, (backend.mem_callsFor_iff source plan workspace).mpr
        ⟨size, found, rfl, allowed, by rw [made]; rfl⟩, rfl⟩
    · rintro ⟨found, member, rfl⟩
      rcases (backend.mem_callsFor_iff source plan workspace).mp member with
        ⟨same, foundAgain, _, allowed, succeeded⟩
      rcases Except.ok.inj (found.symm.trans foundAgain) with rfl
      refine ⟨found, allowed, ?_, rfl⟩
      cases made : backend.made source plan workspace size with
      | error problem =>
          rw [made] at succeeded
          cases succeeded
      | ok _ => rfl

end Backend

theorem transcode_eq_carryOut {σ : Type} (backend : Backend σ) (source output : Path)
    (bounds : Size) (format : OutputFormat) :
    transcode backend source output bounds format =
      backend.carryOut source (ResizePlan.makeBy .double source output bounds format) := by
  funext workspace
  rw [transcode_eq, Backend.carryOut]
  simp only [ResizePlan.make, ResizePlan.makeBy, Size.fit_eq_fitBy]
  rfl

/-- A transcode asks once for the size of its source, and resizes once at most, to a size that
fills the box and is within the limit.  What is planned beyond the limit is refused with the
planned size, errors of the backend are the answer, and an answer without error is the planned
size.  All this holds in whichever way edges are scaled. -/
theorem transcode_within_box {σ : Type} (backend : Backend σ) (source output : Path)
    (format : OutputFormat) {bounds : Size} (proper : 1 ≤ bounds.width ∧ 1 ≤ bounds.height) :
    transcode backend source output bounds format =
      backend.carryOut source (ResizePlan.makeBy .double source output bounds format) ∧
    ∀ scaling : Scaling,
      (∀ size, (ResizePlan.makeBy scaling source output bounds format size).size.Fills bounds) ∧
      ∀ (workspace : Workspace σ) (log : List (BackendCall × Bool)), ∃ calls answer,
        backend.CarriesOut source (ResizePlan.makeBy scaling source output bounds format) workspace
          log calls answer :=
  ⟨transcode_eq_carryOut backend source output bounds format, fun scaling =>
    ⟨fun size => Size.fills_fitBy scaling size proper, fun workspace log =>
      ⟨_, _, backend.carriesOut source _ workspace log⟩⟩⟩

/-- Scales as fractions, where edges are rounded down. -/
def Scaling.fraction : Scaling where
  Scale := Nat × Nat
  scale edge bound := (bound, edge)
  isLe first second := first.1 * second.2 ≤ second.1 * first.2
  scaled edge scale := edge * scale.1 / scale.2

/-- A box beyond the limit, which a picture of 1000 by 1500 pixels fills at 5000 by 7500. -/
def wideBox : Size :=
  ⟨5000, 9000⟩

/-- Pictures of 1000 by 1500 pixels, and no calls so far. -/
def unasked : Workspace (List BackendCall) :=
  ⟨.empty, []⟩

theorem transcode_within_wideBox :
    (1 ≤ wideBox.width ∧ 1 ≤ wideBox.height) ∧
    (Size.fitBy .fraction ⟨1000, 1500⟩ wideBox).Fills wideBox ∧
    ((RecordingTable.backend {}).carryOut ⟨[]⟩
      (ResizePlan.makeBy .fraction ⟨[]⟩ ⟨[]⟩ wideBox .png) unasked).1 =
        .error (.tooLarge ⟨5000, 7500⟩) := by
  have proper : 1 ≤ wideBox.width ∧ 1 ≤ wideBox.height := by decide
  rcases transcode_within_box (RecordingTable.backend {}) ⟨[]⟩ ⟨[]⟩ .png proper with ⟨_, scaled⟩
  rcases scaled .fraction with ⟨fills, carried⟩
  rcases carried unasked [] with ⟨calls, answer, carriesOut⟩
  refine ⟨proper, fills ⟨1000, 1500⟩, ?_⟩
  rw [carriesOut.unwatched]
  exact (carriesOut.refused ⟨1000, 1500⟩ rfl (.inl (by decide))).1

end MediaSite
