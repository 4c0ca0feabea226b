import MediaSite.Library.Order
import MediaSite.Site.Field
import MediaSite.Template.Block
import MediaSite.Template.ImageToken

namespace MediaSite

/-!
# Pages

A page is rendered from a template in steps: fields, list blocks, the cast,
for a show the seasons with their episodes, and the image tokens at the end.
An episode inside of a show is rendered completely, its images included,
before the images of the show are looked for; so an image token belongs to the
innermost entity around it.

Where a picture is comes from a resolver, an action on a state of its own.
Each distinct token of a text is resolved once, in the order of first
appearance, and kept in a table; then the tokens are replaced wherever they
stand, one after the other, in the order in which the table gives them.  This
order is arbitrary: each table has its own, and nothing says which.  It matters
only where the text of one token is part of another's or of a link.
-/

open scoped Text

/-- A request for the picture of an entity. -/
structure ImageRequest where
  entity : Entity
  role : Text
  width : Nat
  height : Nat

/-- Answers a request with a path relative to the root of the site. -/
abbrev Resolver (σ : Type) := ImageRequest → StateM σ Text

/-- Rendering: an action on the state of a resolver that may fail. -/
abbrev Render (σ : Type) := ExceptT TemplateError (StateM σ)

/-- An order in which a table gives its entries, from the order in which they were made. -/
structure TableOrder where
  list : List (Text × Text) → List (Text × Text)
  perm (entries : List (Text × Text)) : (list entries).Perm entries

@[simp] theorem TableOrder.list_nil (order : TableOrder) : order.list [] = [] :=
  (order.perm []).eq_nil

/-- The order in which the entries were made. -/
def TableOrder.asMade : TableOrder :=
  ⟨id, fun entries => .refl entries⟩

/-- The orders of the tables that a page is rendered with, one for each entity on it. -/
class TableOrders where
  order : Kind → UInt64 → TableOrder

instance (priority := low) TableOrders.asMade : TableOrders :=
  ⟨fun _ _ => .asMade⟩

namespace Page

/-- Repeat the list blocks of an entity and the block of its cast. -/
def fillLists (mode : BlockMatch) (template : Text) (entity : Entity) :
    Except TemplateError Text := do
  let text ← entity.listBlocks.foldlM
    (fun text list => Block.expandValues mode list.block list.item list.values text)
    (renderFields template entity)
  match entity.actors? with
  | some actors =>
    Block.expandColumns mode "ACTORS" ["ACTOR.NAME", "ACTOR.ROLE"]
      [actors.map (·.name), actors.map (·.role)] text
  | none => return text

/-- Resolve the tokens that are not resolved yet, in order. -/
def resolveTokens (resolve : Resolver σ) (entity : Entity) (depth : PageDepth) :
    List (Text × Text) → List ImageToken → StateM σ (List (Text × Text))
  | found, [] => return found
  | found, token :: rest =>
    if found.any (·.1 == token.text) then resolveTokens resolve entity depth found rest
    else do
      let path ← resolve ⟨entity, token.role, token.width, token.height⟩
      resolveTokens resolve entity depth (found ++ [(token.text, depth.linkStart ++ path)]) rest

/-- Replace texts by others, one after the other. -/
def replaceEach (replacements : List (Text × Text)) (text : Text) : Text :=
  replacements.foldl (fun text item => Text.replaceAll item.1 item.2 text) text

/-- Replace the image tokens of a text.  Seasons have no images. -/
def fillImages [TableOrders] (resolve : Resolver σ) (entity : Entity) (depth : PageDepth)
    (text : Text) : StateM σ Text :=
  match entity with
  | .season _ _ => return text
  | _ => do
    let found ← resolveTokens resolve entity depth [] (ImageToken.all text)
    return replaceEach ((TableOrders.order entity.kind entity.id).list found) text

/-- Render an entity that holds no others. -/
def renderSingle [TableOrders] (resolve : Resolver σ) (mode : BlockMatch) (depth : PageDepth)
    (template : Text) (entity : Entity) : Render σ Text := do
  let text ← ExceptT.mk (pure (fillLists mode template entity))
  fillImages resolve entity depth text

/-- Repeat the block of seasons, and in each the block of its episodes. -/
def fillSeasons [TableOrders] (resolve : Resolver σ) (mode : BlockMatch) (depth : PageDepth)
    (item : TvShow) (text : Text) : Render σ Text :=
  Block.expandItems mode "SEASON" item.seasons
    (fun inner season =>
      Block.expandItems mode "EPISODE" (item.episodesIn season)
        (fun inner episode => renderSingle resolve mode depth inner (.episode item episode))
        (renderFields inner (.season item season)))
    text

/-- Render a template for an entity. -/
def render [TableOrders] (resolve : Resolver σ) (mode : BlockMatch) (depth : PageDepth)
    (template : Text) (entity : Entity) : Render σ Text := do
  let text ← ExceptT.mk (pure (fillLists mode template entity))
  let text ← match entity with
    | .tvShow item => fillSeasons resolve mode depth item text
    | _ => pure text
  fillImages resolve entity depth text

end Page
end MediaSite
