import MediaSite.Proofs.Site.Rendering
import MediaSite.Proofs.Site.Requests

namespace MediaSite

/-!
# Rendering with two resolvers

A page depends on its resolver through the answers only.  If two resolvers give the
same answers, and lead from related states to related states, then so do the pages
that are drawn with them.  There is one rule for each way to put actions together,
and `Page.lockstep_draw` follows the page through these.

What the states have to do with each other is left open: the second may be the first
without a log, or of no interest at all.
-/

open scoped Text

namespace Page

variable {σ τ α β γ : Type} {related : σ → τ → Prop}

/-- From related states both actions return the same, and end in related states. -/
def Lockstep (related : σ → τ → Prop) (action : StateM σ α) (other : StateM τ α) : Prop :=
  ∀ state second, related state second →
    (action state).1 = (other second).1 ∧ related (action state).2 (other second).2

namespace Lockstep

variable {action : StateM σ α} {other : StateM τ α}

theorem pure (value : α) : Lockstep related (pure value) (pure value) :=
  fun _ _ holds => ⟨rfl, holds⟩

theorem bind (steps : Lockstep related action other) {next : α → StateM σ β}
    {otherNext : α → StateM τ β} (rest : ∀ value, Lockstep related (next value) (otherNext value)) :
    Lockstep related (action >>= next) (other >>= otherNext) := by
  intro state second holds
  rcases steps state second holds with ⟨same, stillHolds⟩
  have after := rest (action state).1 _ _ stillHolds
  change (next (action state).1 (action state).2).1 =
      (otherNext (other second).1 (other second).2).1 ∧
    related (next (action state).1 (action state).2).2
      (otherNext (other second).1 (other second).2).2
  rwa [← same]

theorem mapM {items : List γ} {step : γ → StateM σ α} {otherStep : γ → StateM τ α}
    (steps : ∀ item, Lockstep related (step item) (otherStep item)) :
    Lockstep related (items.mapM step) (items.mapM otherStep) := by
  induction items with
  | nil => exact Lockstep.pure []
  | cons item items inductionHypothesis =>
      rw [List.mapM_cons, List.mapM_cons]
      exact (steps item).bind fun first =>
        inductionHypothesis.bind fun rest => Lockstep.pure (first :: rest)

end Lockstep

variable {resolve : Resolver σ} {respond : Resolver τ}

theorem lockstep_resolveTokens
    (answers : ∀ request, Lockstep related (resolve request) (respond request)) (entity : Entity)
    (depth : PageDepth) (found : List (Text × Text)) (tokens : List ImageToken) :
    Lockstep related (resolveTokens resolve entity depth found tokens)
      (resolveTokens respond entity depth found tokens) := by
  induction tokens generalizing found with
  | nil => exact Lockstep.pure found
  | cons token tokens inductionHypothesis =>
      unfold resolveTokens
      by_cases known : found.any (·.1 == token.text) = true
      · rw [if_pos known, if_pos known]
        exact inductionHypothesis found
      · rw [if_neg known, if_neg known]
        exact (answers _).bind fun path => inductionHypothesis _

theorem lockstep_fillImages [TableOrders]
    (answers : ∀ request, Lockstep related (resolve request) (respond request)) (entity : Entity)
    (depth : PageDepth) (text : Text) :
    Lockstep related (fillImages resolve entity depth text)
      (fillImages respond entity depth text) := by
  have replaced := (lockstep_resolveTokens answers entity depth [] (ImageToken.all text)).bind
    fun found => Lockstep.pure
      (replaceEach ((TableOrders.order entity.kind entity.id).list found) text)
  cases entity with
  | season item number => exact Lockstep.pure text
  | movie record => exact replaced
  | tvShow item => exact replaced
  | episode item record => exact replaced
  | concert record => exact replaced

theorem lockstep_withItems (mode : BlockMatch) (name : Text) (items : List γ)
    {render : Text → γ → StateM σ Text} {other : Text → γ → StateM τ Text}
    (steps : ∀ inner item, Lockstep related (render inner item) (other inner item)) (text : Text) :
    Lockstep related (Block.withItems mode name items render text)
      (Block.withItems mode name items other text) := by
  unfold Block.withItems
  cases Block.select mode name text with
  | none => exact Lockstep.pure text
  | some block =>
      exact (Lockstep.mapM (steps block.inner)).bind fun rendered => Lockstep.pure _

theorem lockstep_drawSeasons [TableOrders]
    (answers : ∀ request, Lockstep related (resolve request) (respond request)) (mode : BlockMatch)
    (depth : PageDepth) (item : TvShow) (text : Text) :
    Lockstep related (drawSeasons resolve mode depth item text)
      (drawSeasons respond mode depth item text) := by
  unfold drawSeasons drawSingle
  refine lockstep_withItems mode "SEASON" item.seasons (fun inner season => ?_) text
  refine lockstep_withItems mode "EPISODE" (item.episodesIn season) (fun body episode => ?_) _
  exact lockstep_fillImages answers (.episode item episode) depth _

theorem lockstep_drawBody [TableOrders]
    (answers : ∀ request, Lockstep related (resolve request) (respond request)) (mode : BlockMatch)
    (depth : PageDepth) (template : Text) (entity : Entity) :
    Lockstep related (drawBody resolve mode depth template entity)
      (drawBody respond mode depth template entity) := by
  unfold drawBody
  cases entity with
  | tvShow item => exact lockstep_drawSeasons answers mode depth item _
  | movie record => exact Lockstep.pure _
  | season item number => exact Lockstep.pure _
  | episode item record => exact Lockstep.pure _
  | concert record => exact Lockstep.pure _

/-- Pages drawn with resolvers of the same answers are the same. -/
theorem lockstep_draw [TableOrders]
    (answers : ∀ request, Lockstep related (resolve request) (respond request)) (mode : BlockMatch)
    (depth : PageDepth) (template : Text) (entity : Entity) :
    Lockstep related (draw resolve mode depth template entity)
      (draw respond mode depth template entity) :=
  (lockstep_drawBody answers mode depth template entity).bind
    (lockstep_fillImages answers entity depth)

/-- Noting the requests changes nothing. -/
theorem draw_logged [TableOrders] (resolve : Resolver σ) (mode : BlockMatch) (depth : PageDepth)
    (template : Text) (entity : Entity) (state : σ) (log : List (ImageRequest × Text)) :
    (draw resolve.logged mode depth template entity (state, log)).1 =
        (draw resolve mode depth template entity state).1 ∧
      (draw resolve.logged mode depth template entity (state, log)).2.1 =
        (draw resolve mode depth template entity state).2 := by
  have noted (request : ImageRequest) : Lockstep (fun state second => state = second.1)
      (resolve request) (resolve.logged request) := by
    rintro _ second rfl
    exact ⟨rfl, rfl⟩
  have both := lockstep_draw noted mode depth template entity state (state, log) rfl
  exact ⟨both.1.symm, both.2.symm⟩

end Page
end MediaSite
