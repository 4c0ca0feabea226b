import Mathlib.Control.Lawful
import MediaSite.Site.Page

namespace MediaSite

/-!
# Rendering never fails

A template error has two causes, a block name too long to be searched for and
lists of values that do not fit together.  The names that pages search for are
short, and the lists of one block are read off the same records, at every depth
of nesting.  So rendering succeeds for every template, entity and resolver.

Each function that could fail has a counterpart here that cannot, and is the
counterpart lifted.  `Page.render_eq_lift` says so of a whole page, and
`Page.run_render` what that means for the state of a resolver.
-/

open scoped Text

/-! ## Lifted actions -/

namespace Render

variable {σ α β : Type}

/-- An action that does not fail, among those that may. -/
def lift (action : StateM σ α) : Render σ α :=
  ExceptT.lift action

/-- Actions of a list that do not fail are performed one after the other. -/
theorem mapM_lift (items : List α) (action : α → StateM σ β) :
    items.mapM (fun item => lift (action item)) = lift (items.mapM action) := by
  induction items with
  | nil => rfl
  | cons item items inductionHypothesis =>
      rw [List.mapM_cons, List.mapM_cons, inductionHypothesis]
      rfl

end Render

/-! ## Blocks -/

namespace Block

theorem find_eq_ok {name : Text} (short : Text.byteLength name ≤ nameLimit) (mode : BlockMatch)
    (text : Text) : find mode name text = .ok (select mode name text) := by
  rw [find, if_neg (Nat.not_lt.mpr short)]

/-- Repeat the first block of a name for each row of columns. -/
def withColumns (mode : BlockMatch) (name : Text) (names : List Text) (columns : List (List Text))
    (text : Text) : Text :=
  match first? name text with
  | none => text
  | some block =>
    block.replace mode (Text.join " "
      ((rows ((columns.head?.map List.length).getD 0) columns).map (fillRow block.inner names)))

/-- Columns of one length, as many as there are names, fit together. -/
theorem expandColumns_eq_ok {name : Text} (short : Text.byteLength name ≤ nameLimit)
    {names : List Text} {columns : List (List Text)} (paired : names.length = columns.length)
    (even : ∀ column ∈ columns, column.length = (columns.head?.map List.length).getD 0)
    (mode : BlockMatch) (text : Text) :
    expandColumns mode name names columns text =
      .ok (withColumns mode name names columns text) := by
  have noneOdd : (columns.find? fun column =>
      column.length != (columns.head?.map List.length).getD 0) = none := by
    apply List.find?_eq_none.mpr
    intro column member
    simp [even column member]
  unfold expandColumns withColumns
  simp only [ne_eq, paired, not_true, if_false, noneOdd, find_eq_ok short, select]
  cases first? name text <;> rfl

def withItems {σ α : Type} (mode : BlockMatch) (name : Text) (items : List α)
    (render : Text → α → StateM σ Text) (text : Text) : StateM σ Text :=
  match select mode name text with
  | none => pure text
  | some block => do
    let rendered ← items.mapM (render block.inner)
    return block.replace mode (joinItems rendered)

theorem expandItems_eq_lift {σ α : Type} {name : Text} (short : Text.byteLength name ≤ nameLimit)
    (mode : BlockMatch) (items : List α) (render : Text → α → StateM σ Text) (text : Text) :
    expandItems mode name items (fun inner item => Render.lift (render inner item)) text =
      Render.lift (withItems mode name items render text) := by
  unfold expandItems withItems
  rw [find_eq_ok short]
  cases select mode name text with
  | none => rfl
  | some block =>
      change (items.mapM fun item => Render.lift (render block.inner item)) >>= _ = _
      rw [Render.mapM_lift]
      rfl

end Block

/-! ## Pages -/

namespace Page

variable {σ : Type}

/-- Repeat the list blocks of an entity and the block of its cast. -/
def withLists (mode : BlockMatch) (template : Text) (entity : Entity) : Text :=
  let text := entity.listBlocks.foldl
    (fun text list => Block.withColumns mode list.block [list.item] [list.values] text)
    (renderFields template entity)
  match entity.actors? with
  | some actors =>
    Block.withColumns mode "ACTORS" ["ACTOR.NAME", "ACTOR.ROLE"]
      [actors.map (·.name), actors.map (·.role)] text
  | none => text

theorem short_listBlocks (entity : Entity) :
    ∀ list ∈ entity.listBlocks, Text.byteLength list.block ≤ Block.nameLimit := by
  cases entity <;> simp only [Entity.listBlocks, List.forall_mem_cons] <;> decide

theorem expandValues_eq_ok {name : Text} (short : Text.byteLength name ≤ Block.nameLimit)
    (mode : BlockMatch) (item : Text) (values : List Text) (text : Text) :
    Block.expandValues mode name item values text =
      .ok (Block.withColumns mode name [item] [values] text) := by
  apply Block.expandColumns_eq_ok short rfl
  intro column member
  rw [List.mem_singleton.mp member]
  rfl

theorem foldlM_expandValues (mode : BlockMatch) (lists : List ListBlock)
    (short : ∀ list ∈ lists, Text.byteLength list.block ≤ Block.nameLimit) (text : Text) :
    lists.foldlM
        (fun text list => Block.expandValues mode list.block list.item list.values text) text =
      .ok (lists.foldl
        (fun text list => Block.withColumns mode list.block [list.item] [list.values] text)
        text) := by
  induction lists generalizing text with
  | nil => rfl
  | cons list lists inductionHypothesis =>
      rw [List.foldlM_cons, expandValues_eq_ok (short list List.mem_cons_self), List.foldl_cons]
      exact inductionHypothesis (List.forall_mem_cons.mp short).2 _

theorem fillLists_eq_ok (mode : BlockMatch) (template : Text) (entity : Entity) :
    fillLists mode template entity = .ok (withLists mode template entity) := by
  unfold fillLists withLists
  rw [foldlM_expandValues mode entity.listBlocks (short_listBlocks entity)]
  cases entity.actors? with
  | none => rfl
  | some actors =>
      have even : ∀ column ∈ [actors.map (·.name), actors.map (·.role)],
          column.length = (([actors.map (·.name), actors.map (·.role)] : List (List Text)).head?.map
            List.length).getD 0 := by
        intro column member
        rcases List.mem_cons.mp member with first | rest
        · rw [first]
          rfl
        · rw [List.mem_singleton.mp rest]
          simp
      have short : Text.byteLength ("ACTORS" : Text) ≤ Block.nameLimit := by decide
      have paired : (["ACTOR.NAME", "ACTOR.ROLE"] : List Text).length =
          [actors.map (·.name), actors.map (·.role)].length := rfl
      exact Block.expandColumns_eq_ok short paired even mode _

def drawSingle [TableOrders] (resolve : Resolver σ) (mode : BlockMatch) (depth : PageDepth)
    (template : Text) (entity : Entity) : StateM σ Text :=
  fillImages resolve entity depth (withLists mode template entity)

/-- Repeat the block of seasons, and in each the block of its episodes. -/
def drawSeasons [TableOrders] (resolve : Resolver σ) (mode : BlockMatch) (depth : PageDepth)
    (item : TvShow) (text : Text) : StateM σ Text :=
  Block.withItems mode "SEASON" item.seasons
    (fun inner season =>
      Block.withItems mode "EPISODE" (item.episodesIn season)
        (fun inner episode => drawSingle resolve mode depth inner (.episode item episode))
        (renderFields inner (.season item season)))
    text

/-- Everything on a page but its own images. -/
def drawBody [TableOrders] (resolve : Resolver σ) (mode : BlockMatch) (depth : PageDepth)
    (template : Text) (entity : Entity) : StateM σ Text :=
  match entity with
  | .tvShow item => drawSeasons resolve mode depth item (withLists mode template entity)
  | _ => pure (withLists mode template entity)

/-- Render a template for an entity. -/
def draw [TableOrders] (resolve : Resolver σ) (mode : BlockMatch) (depth : PageDepth)
    (template : Text) (entity : Entity) : StateM σ Text :=
  drawBody resolve mode depth template entity >>= fillImages resolve entity depth

theorem renderSingle_eq_lift [TableOrders] (resolve : Resolver σ) (mode : BlockMatch)
    (depth : PageDepth) (template : Text) (entity : Entity) :
    renderSingle resolve mode depth template entity =
      Render.lift (drawSingle resolve mode depth template entity) := by
  unfold renderSingle
  rw [fillLists_eq_ok]
  rfl

theorem fillSeasons_eq_lift [TableOrders] (resolve : Resolver σ) (mode : BlockMatch)
    (depth : PageDepth) (item : TvShow) (text : Text) :
    fillSeasons resolve mode depth item text =
      Render.lift (drawSeasons resolve mode depth item text) := by
  have shortEpisode : Text.byteLength ("EPISODE" : Text) ≤ Block.nameLimit := by decide
  have shortSeason : Text.byteLength ("SEASON" : Text) ≤ Block.nameLimit := by decide
  unfold fillSeasons drawSeasons
  simp only [renderSingle_eq_lift, Block.expandItems_eq_lift shortEpisode]
  exact Block.expandItems_eq_lift shortSeason mode _ _ text

/-- Rendering a page never fails. -/
theorem render_eq_lift [TableOrders] (resolve : Resolver σ) (mode : BlockMatch) (depth : PageDepth)
    (template : Text) (entity : Entity) :
    render resolve mode depth template entity =
      Render.lift (draw resolve mode depth template entity) := by
  unfold render
  rw [fillLists_eq_ok]
  cases entity with
  | tvShow item =>
      change (fillSeasons resolve mode depth item _) >>= _ = _
      rw [fillSeasons_eq_lift]
      rfl
  | movie record => rfl
  | season item number => rfl
  | episode item record => rfl
  | concert record => rfl

theorem run_render [TableOrders] (resolve : Resolver σ) (mode : BlockMatch) (depth : PageDepth)
    (template : Text) (entity : Entity) (state : σ) :
    (render resolve mode depth template entity).run state =
      (.ok (draw resolve mode depth template entity state).1,
        (draw resolve mode depth template entity state).2) := by
  rw [render_eq_lift]
  rfl

end Page
end MediaSite
