import MediaSite.Site.Page

namespace MediaSite

/-!
# What a resolver is asked

Each distinct token of a text is resolved once, in the order of first appearance:
`Page.fillImages_eq_mapM` puts this as an equation between actions.

A logged resolver keeps what it is asked, with its answers.  `Asks` says of an
action that it does the same with a logged resolver as with the resolver itself,
and which requests it adds to the log.  Like the actions themselves it is put
together from its parts.
-/

open scoped Text

/-! ## Actions on a state -/

section Actions

variable {σ α β : Type}

theorem bind_apply (action : StateM σ α) (next : α → StateM σ β) (state : σ) :
    (action >>= next) state = next (action state).1 (action state).2 := rfl

theorem pure_apply (value : α) (state : σ) : (pure value : StateM σ α) state = (value, state) := rfl

theorem get_apply (state : σ) : (get : StateM σ σ) state = (state, state) := rfl

theorem set_apply (later state : σ) : (set later : StateM σ PUnit) state = (⟨⟩, later) := rfl

theorem modify_apply (change : σ → σ) (state : σ) :
    (modify change : StateM σ PUnit) state = (⟨⟩, change state) := rfl

end Actions

/-! ## Distinct tokens -/

namespace ImageToken

/-- The tokens whose text is not that of an earlier one. -/
def distinct : List ImageToken → List ImageToken
  | [] => []
  | token :: rest => token :: (distinct rest).filter fun other => token.text != other.text

/-- The request that a token makes for an entity. -/
def request (entity : Entity) (token : ImageToken) : ImageRequest :=
  ⟨entity, token.role, token.width, token.height⟩

/-- Written differently from all of these. -/
def isNew (tokens : List ImageToken) (token : ImageToken) : Bool :=
  tokens.all fun earlier => earlier.text != token.text

theorem mem_of_mem_distinct {token : ImageToken} {tokens : List ImageToken}
    (member : token ∈ distinct tokens) : token ∈ tokens := by
  induction tokens with
  | nil => cases member
  | cons first tokens inductionHypothesis =>
      rcases List.mem_cons.mp member with rfl | later
      · exact List.mem_cons_self
      · exact List.mem_cons_of_mem first (inductionHypothesis (List.mem_filter.mp later).1)

/-- Each text of a token is that of a distinct one. -/
theorem mem_texts_distinct {token : ImageToken} {tokens : List ImageToken}
    (member : token ∈ tokens) : token.text ∈ (distinct tokens).map text := by
  induction tokens with
  | nil => cases member
  | cons first tokens inductionHypothesis =>
      rw [distinct, List.map_cons]
      by_cases same : first.text = token.text
      · rw [same]
        exact List.mem_cons_self
      · have inRest : token ∈ tokens := (List.mem_cons.mp member).resolve_left fun equal =>
          same (equal ▸ rfl)
        rcases List.mem_map.mp (inductionHypothesis inRest) with ⟨other, inDistinct, equal⟩
        apply List.mem_cons_of_mem
        rw [← equal] at same ⊢
        exact List.mem_map_of_mem (List.mem_filter.mpr ⟨inDistinct, bne_iff_ne.mpr same⟩)

theorem nodup_texts_distinct (tokens : List ImageToken) :
    ((distinct tokens).map text).Nodup := by
  induction tokens with
  | nil => exact List.nodup_nil
  | cons token tokens inductionHypothesis =>
      rw [distinct, List.map_cons, List.nodup_cons]
      constructor
      · intro member
        rcases List.mem_map.mp member with ⟨other, inRest, same⟩
        exact bne_iff_ne.mp (List.mem_filter.mp inRest).2 same.symm
      · exact inductionHypothesis.sublist (List.filter_sublist.map text)

theorem isNew_distinct_cons (first : ImageToken) (rest : List ImageToken) (token : ImageToken) :
    isNew (distinct (first :: rest)) token =
      (first.text != token.text && isNew (distinct rest) token) := by
  rw [isNew, distinct, List.all_cons, List.all_filter]
  by_cases same : first.text = token.text
  · simp [same]
  · congr 1
    apply List.all_congr rfl
    intro other
    by_cases equal : other.text = token.text
    · simp [equal, same]
    · simp [equal]

theorem distinct_append (first second : List ImageToken) :
    distinct (first ++ second) =
      distinct first ++ (distinct second).filter (isNew (distinct first)) := by
  induction first with
  | nil =>
      have all : ∀ token ∈ distinct second, isNew [] token = true := fun _ _ => rfl
      exact (List.filter_eq_self.mpr all).symm
  | cons token first inductionHypothesis =>
      rw [List.cons_append, distinct, inductionHypothesis, List.filter_append, List.filter_filter,
        distinct, List.cons_append]
      congr 2
      apply List.filter_congr
      intro other _
      exact (isNew_distinct_cons token first other).symm

theorem distinct_append_self (tokens : List ImageToken) :
    (distinct tokens).filter (isNew (distinct tokens)) = [] := by
  apply List.filter_eq_nil_iff.mpr
  intro token member new
  have different := List.all_eq_true.mp new token member
  exact bne_iff_ne.mp different rfl

/-- Tokens that come again are not new. -/
theorem distinct_flatten_replicate (tokens : List ImageToken) (count : Nat) :
    distinct (List.replicate count tokens).flatten =
      if count = 0 then [] else distinct tokens := by
  induction count with
  | zero => rfl
  | succ count inductionHypothesis =>
      rw [List.replicate_succ, List.flatten_cons, distinct_append, inductionHypothesis,
        if_neg (Nat.succ_ne_zero count)]
      split
      · exact List.append_nil _
      · rw [distinct_append_self, List.append_nil]

/-- Between other tokens only the distinct ones matter. -/
theorem distinct_congr {tokens others : List ImageToken} (same : distinct tokens = distinct others)
    (before after : List ImageToken) :
    distinct (before ++ tokens ++ after) = distinct (before ++ others ++ after) := by
  rw [distinct_append (before ++ tokens), distinct_append (before ++ others),
    distinct_append before, distinct_append before, same]

end ImageToken

/-! ## The images of a text -/

namespace Page

variable {σ : Type}

/-- Ask for the picture of a token; what comes back is what the token is replaced by. -/
def ask (resolve : Resolver σ) (entity : Entity) (depth : PageDepth) (token : ImageToken) :
    StateM σ (Text × Text) := do
  let path ← resolve (token.request entity)
  return (token.text, depth.linkStart ++ path)

theorem resolveTokens_eq_mapM (resolve : Resolver σ) (entity : Entity) (depth : PageDepth)
    (found : List (Text × Text)) (tokens : List ImageToken) :
    resolveTokens resolve entity depth found tokens =
      (((ImageToken.distinct tokens).filter fun token => !found.any (·.1 == token.text)).mapM
        (ask resolve entity depth) >>= fun resolved => pure (found ++ resolved)) := by
  induction tokens generalizing found with
  | nil => simp [resolveTokens, ImageToken.distinct]
  | cons token tokens inductionHypothesis =>
      rw [resolveTokens, ImageToken.distinct]
      cases known : found.any (·.1 == token.text) with
      | true =>
          rw [if_pos rfl, List.filter_cons_of_neg (by rw [known]; decide), inductionHypothesis,
            List.filter_filter]
          congr 2
          apply List.filter_congr
          intro other _
          by_cases same : token.text = other.text
          · rw [← same, known]
            rfl
          · simp [same]
      | false =>
          rw [if_neg (by decide), List.filter_cons_of_pos (by rw [known]; rfl), List.mapM_cons,
            List.filter_filter]
          have others (path : Text) : ((ImageToken.distinct tokens).filter fun other =>
              !(found ++ [(token.text, path)]).any (·.1 == other.text)) =
              (ImageToken.distinct tokens).filter fun other =>
                (!found.any (·.1 == other.text)) && token.text != other.text := by
            apply List.filter_congr
            intro other _
            rw [List.any_append, Bool.not_or, List.any_cons, List.any_nil, Bool.or_false]
            rfl
          simp only [inductionHypothesis, others, ask, ImageToken.request, bind_assoc, pure_bind,
            List.append_assoc, List.singleton_append]

/-- Each distinct token is resolved once, in the order of first appearance. -/
theorem fillImages_eq_mapM [TableOrders] (resolve : Resolver σ) {entity : Entity}
    (pictured : entity.kind ≠ .season) (depth : PageDepth) (text : Text) :
    fillImages resolve entity depth text =
      ((ImageToken.distinct (ImageToken.all text)).mapM (ask resolve entity depth) >>=
        fun found => pure
          (replaceEach ((TableOrders.order entity.kind entity.id).list found) text)) := by
  have all : ((ImageToken.distinct (ImageToken.all text)).filter fun token =>
      !([] : List (Text × Text)).any (·.1 == token.text)) =
        ImageToken.distinct (ImageToken.all text) := List.filter_eq_self.mpr fun _ _ => rfl
  have whole : fillImages resolve entity depth text =
      (resolveTokens resolve entity depth [] (ImageToken.all text) >>= fun found =>
        pure (replaceEach ((TableOrders.order entity.kind entity.id).list found) text)) := by
    cases entity with
    | season item number => exact absurd rfl pictured
    | movie record => rfl
    | tvShow item => rfl
    | episode item record => rfl
    | concert record => rfl
  rw [whole, resolveTokens_eq_mapM, all]
  simp only [bind_assoc, pure_bind, List.nil_append]

end Page

/-! ## Logs -/

namespace Resolver

variable {σ : Type}

/-- The same resolver, noting each request with its answer. -/
def logged (resolve : Resolver σ) : Resolver (σ × List (ImageRequest × Text)) :=
  fun request state =>
    let (answer, done) := resolve request state.1
    (answer, (done, state.2 ++ [(request, answer)]))

/-- From good states a resolver gives good answers and goes on to good states. -/
def Keeps (resolve : Resolver σ) (invariant : σ → Prop) (good : ImageRequest → Text → Prop) :
    Prop :=
  ∀ request state, invariant state →
    good request (resolve request state).1 ∧ invariant (resolve request state).2

end Resolver

namespace Page

variable {σ α β : Type}

/-- Tokens of different texts are asked for one after the other, and a logged resolver
notes just that. -/
theorem mapM_ask_logged {resolve : Resolver σ} {invariant : σ → Prop}
    {good : ImageRequest → Text → Prop} (keeps : resolve.Keeps invariant good) (entity : Entity)
    (depth : PageDepth) {tokens : List ImageToken} (distinct : (tokens.map ImageToken.text).Nodup)
    (state : σ) (holds : invariant state) :
    ∃ (answer : Text → Text) (done : σ),
      tokens.mapM (ask resolve entity depth) state =
        (tokens.map fun token => (token.text, depth.linkStart ++ answer token.text), done) ∧
      (∀ log, tokens.mapM (ask resolve.logged entity depth) (state, log) =
        (tokens.map fun token => (token.text, depth.linkStart ++ answer token.text),
          (done, log ++ tokens.map fun token => (token.request entity, answer token.text)))) ∧
      ∀ token ∈ tokens, good (token.request entity) (answer token.text) := by
  induction tokens generalizing state with
  | nil =>
      refine ⟨fun _ => [], state, rfl, fun log => ?_, List.forall_mem_nil _⟩
      rw [List.map_nil, List.map_nil, List.append_nil]
      rfl
  | cons token tokens inductionHypothesis =>
      rcases made : resolve (token.request entity) state with ⟨path, middle⟩
      rcases keeps (token.request entity) state holds with ⟨pathGood, stillHolds⟩
      rw [made] at pathGood stillHolds
      rcases List.nodup_cons.mp distinct with ⟨fresh, restDistinct⟩
      rcases inductionHypothesis restDistinct middle stillHolds with
        ⟨answer, done, run, logged, restGood⟩
      -- The text of the first token is none of the others, so its answer can be put in.
      obtain ⟨updated, here, others⟩ : ∃ updated : Text → Text, updated token.text = path ∧
          ∀ other ∈ tokens, updated other.text = answer other.text := by
        refine ⟨fun text => if text = token.text then path else answer text, if_pos rfl, ?_⟩
        intro other member
        apply if_neg
        intro same
        exact fresh (same ▸ List.mem_map_of_mem member)
      have replacements : (token :: tokens).map
          (fun token => (token.text, depth.linkStart ++ updated token.text)) =
            (token.text, depth.linkStart ++ path) ::
              tokens.map fun token => (token.text, depth.linkStart ++ answer token.text) := by
        rw [List.map_cons, here]
        exact congrArg _ (List.map_congr_left fun other member => by rw [others other member])
      have entries : (token :: tokens).map
          (fun token => (token.request entity, updated token.text)) =
            (token.request entity, path) ::
              tokens.map fun token => (token.request entity, answer token.text) := by
        rw [List.map_cons, here]
        exact congrArg _ (List.map_congr_left fun other member => by rw [others other member])
      refine ⟨updated, done, ?_, fun log => ?_,
        List.forall_mem_cons.mpr ⟨here.symm ▸ pathGood, fun other member => ?_⟩⟩
      · rw [replacements, List.mapM_cons]
        simp only [bind_apply, pure_apply, ask, made, run]
      · rw [replacements, entries, List.mapM_cons]
        have after := logged (log ++ [(token.request entity, path)])
        rw [List.append_assoc, List.singleton_append] at after
        simp only [bind_apply, pure_apply, ask, Resolver.logged, made, after]
      · rw [others other member]
        exact restGood other member

/-- `noted` does the same as `action` and adds these requests to the log; what is
returned is good. -/
def Asks (action : StateM σ α) (noted : StateM (σ × List (ImageRequest × Text)) α)
    (requests : List ImageRequest) (good : α → Prop) : Prop :=
  ∀ state log, ∃ entries : List (ImageRequest × Text),
    noted (state, log) = ((action state).1, ((action state).2, log ++ entries)) ∧
      entries.map Prod.fst = requests ∧ good (action state).1

namespace Asks

variable {action : StateM σ α} {noted : StateM (σ × List (ImageRequest × Text)) α}
variable {requests more : List ImageRequest} {good : α → Prop} {better : β → Prop}

theorem pure {value : α} (holds : good value) :
    Asks (pure value : StateM σ α) (pure value) [] good :=
  fun state log => ⟨[], by rw [List.append_nil]; rfl, rfl, holds⟩

theorem bind (asks : Asks action noted requests good) {next : α → StateM σ β}
    {nextNoted : α → StateM (σ × List (ImageRequest × Text)) β}
    (nextAsks : ∀ value, good value → Asks (next value) (nextNoted value) more better) :
    Asks (action >>= next) (noted >>= nextNoted) (requests ++ more) better := by
  intro state log
  rcases asks state log with ⟨entries, run, made, holds⟩
  rcases nextAsks _ holds (action state).2 (log ++ entries) with
    ⟨later, runLater, madeLater, result⟩
  refine ⟨entries ++ later, ?_, ?_, result⟩
  · rw [List.append_assoc] at runLater
    simp only [bind_apply, run]
    exact runLater
  · rw [List.map_append, made, madeLater]

theorem map (asks : Asks action noted requests good) {result : α → β}
    (holds : ∀ value, good value → better (result value)) :
    Asks (action >>= fun value => Pure.pure (result value))
      (noted >>= fun value => Pure.pure (result value)) requests better := by
  rw [← List.append_nil requests]
  exact asks.bind fun value valueGood => Asks.pure (holds value valueGood)

/-- The requests of a list of actions come one after the other. -/
theorem mapM {γ : Type} {items : List γ} {step : γ → StateM σ α}
    {stepNoted : γ → StateM (σ × List (ImageRequest × Text)) α}
    {stepRequests : γ → List ImageRequest}
    (asks : ∀ item, Asks (step item) (stepNoted item) (stepRequests item) good) :
    Asks (items.mapM step) (items.mapM stepNoted) (items.flatMap stepRequests)
      fun results => results.length = items.length ∧ ∀ result ∈ results, good result := by
  induction items with
  | nil => exact Asks.pure ⟨rfl, List.forall_mem_nil _⟩
  | cons item items inductionHypothesis =>
      rw [List.mapM_cons, List.mapM_cons, List.flatMap_cons]
      apply (asks item).bind
      intro result resultGood
      apply inductionHypothesis.map
      rintro results ⟨sameLength, resultsGood⟩
      exact ⟨congrArg Nat.succ sameLength, List.forall_mem_cons.mpr ⟨resultGood, resultsGood⟩⟩

end Asks
end Page
end MediaSite
