import MediaSite.Proofs.Site.PlainValues
import MediaSite.Proofs.Site.Rendering

namespace MediaSite

/-!
# Values as template syntax

A page made from texts and field tokens only should hold no template syntax,
whatever its record says, and should not ask for a picture.  Every step after
the filling of fields reads the filled text again, so this is a matter of that
text: a plain one passes through all steps as it is.

The converse needs an argument, since a brace in the filled text may be taken
away again, with a block that a value has formed.  But a page takes away at
most one block per name, and so repeating the token often enough leaves a brace
behind.  A record is therefore inert exactly when its fields settle, that is,
when each of the values shown as they are is plain after the fields behind it
have been filled into it.
-/

open scoped Text
open Text (Plain copies)

/-- A text that opens no brace, or the token of a field of the kind. -/
def TemplatePiece.Own (kind : Kind) : TemplatePiece → Prop
  | .text content => Plain content
  | .token name => name ∈ kind.fieldNames

/-- A template for an entity comes out as one plain page, and no resolver is
ever asked: its state stays the same whatever it does. -/
def Page.Inert (mode : BlockMatch) (depth : PageDepth) (template : Text) (entity : Entity) : Prop :=
  ∃ page, Plain page ∧ ∀ [TableOrders] (σ : Type) (resolve : Resolver σ) (state : σ),
    (render resolve mode depth template entity).run state = (.ok page, state)

/-- Each value shown as it is becomes plain when the fields behind it are filled in. -/
def Entity.Settled (entity : Entity) : Prop :=
  ∀ before name value after, entity.fields = before ++ (name, value) :: after →
    name ∈ verbatimNames → Plain (fillTokens after value)

/-! ## Plain texts pass through -/

namespace Block

theorem first?_of_plain {text : Text} (plain : Plain text) (name : Text) :
    first? name text = none := by
  have brace : '\x7b' ∈ opening name := List.mem_cons_self
  rw [first?, Text.cut?_eq_none_of_not_mem brace plain]
  rfl

theorem select_of_plain {text : Text} (plain : Plain text) (mode : BlockMatch) (name : Text) :
    select mode name text = none := by
  cases mode with
  | first => exact first?_of_plain plain name
  | last =>
      unfold select scan scanAfter
      rw [first?_of_plain plain]
      rfl

theorem withColumns_of_plain {text : Text} (plain : Plain text) (mode : BlockMatch) (name : Text)
    (names : List Text) (columns : List (List Text)) :
    withColumns mode name names columns text = text := by
  rw [withColumns, first?_of_plain plain]

theorem withItems_of_plain {σ α : Type} {text : Text} (plain : Plain text) (mode : BlockMatch)
    (name : Text) (items : List α) (render : Text → α → StateM σ Text) :
    withItems mode name items render text = pure text := by
  rw [withItems, select_of_plain plain]

end Block

theorem ImageToken.all_of_plain {text : Text} (plain : Plain text) : all text = [] := by
  induction text with
  | nil =>
      unfold all pieces
      rfl
  | cons c rest inductionHypothesis =>
      have other : ('\x7b' == c) = false := beq_false_of_ne fun same =>
        plain (same ▸ List.mem_cons_self)
      have noShape : shape? (c :: rest) = none := by
        have noOpening : opening.isPrefixOf? (c :: rest) = none := by
          change (if ('\x7b' == c) = true then _ else none) = none
          rw [other]
          rfl
        rw [shape?, noOpening]
        rfl
      have later := inductionHypothesis fun member => plain (List.mem_cons_of_mem c member)
      rw [all] at later ⊢
      rw [pieces, noShape]
      exact later

namespace Page

variable {σ : Type}

theorem foldl_withColumns_of_plain {text : Text} (plain : Plain text) (mode : BlockMatch)
    (lists : List ListBlock) :
    lists.foldl (fun text list => Block.withColumns mode list.block [list.item] [list.values] text)
      text = text := by
  induction lists with
  | nil => rfl
  | cons list lists inductionHypothesis =>
      rw [List.foldl_cons, Block.withColumns_of_plain plain]
      exact inductionHypothesis

theorem withLists_of_plain {template : Text} {entity : Entity}
    (plain : Plain (renderFields template entity)) (mode : BlockMatch) :
    withLists mode template entity = renderFields template entity := by
  unfold withLists
  rw [foldl_withColumns_of_plain plain]
  cases entity.actors? with
  | none => rfl
  | some actors => exact Block.withColumns_of_plain plain mode _ _ _

theorem fillImages_of_no_token [TableOrders] {text : Text} (noToken : ImageToken.all text = [])
    (resolve : Resolver σ) (entity : Entity) (depth : PageDepth) :
    fillImages resolve entity depth text = pure text := by
  have nothing : resolveTokens resolve entity depth [] [] = pure [] := rfl
  cases entity <;> simp only [fillImages, noToken, nothing, pure_bind, TableOrder.list_nil] <;> rfl

/-- A template that is plain once its fields are filled in is left alone by
every further step. -/
theorem draw_of_plain [TableOrders] {template : Text} {entity : Entity}
    (plain : Plain (renderFields template entity)) (resolve : Resolver σ) (mode : BlockMatch)
    (depth : PageDepth) :
    draw resolve mode depth template entity = pure (renderFields template entity) := by
  have body : drawBody resolve mode depth template entity =
      pure (renderFields template entity) := by
    unfold drawBody
    rw [withLists_of_plain plain]
    cases entity with
    | tvShow item => exact Block.withItems_of_plain plain mode _ _ _
    | movie record => rfl
    | season item number => rfl
    | episode item record => rfl
    | concert record => rfl
  rw [draw, body]
  exact fillImages_of_no_token (ImageToken.all_of_plain plain) resolve entity depth

end Page

/-! ## Lines that are left -/

namespace Block

/-- Taking out a block uses up two copies of a line at most, one for each marker. -/
theorem copies_suffix_after {name line text : Text} {count : Nat} (oneLine : '\n' ∉ name)
    (remain : copies line (count + 2) <:+ text) {block : Block}
    (found : first? name text = some block) : copies line count <:+ block.after := by
  have openingLine : '\n' ∉ opening name :=
    Token.not_mem_ofName (by decide) fun member =>
      (List.mem_append.mp member).elim (by decide) oneLine
  have closingLine : '\n' ∉ closing name :=
    Token.not_mem_ofName (by decide) fun member =>
      (List.mem_append.mp member).elim (by decide) oneLine
  rcases Option.bind_eq_some_iff.mp found with ⟨⟨before, rest⟩, opens, found⟩
  rcases Option.bind_eq_some_iff.mp found with ⟨⟨body, after⟩, closes, found⟩
  have behindOpening := Text.copies_suffix_of_cut? openingLine (Token.ofName_ne_nil _) remain opens
  have behindClosing :=
    Text.copies_suffix_of_cut? closingLine (Token.ofName_ne_nil _) behindOpening closes
  rw [← Option.some.inj found]
  exact behindClosing

theorem copies_suffix_replace {line : Text} {count : Nat} {block : Block}
    (remain : copies line count <:+ block.after) (rendered : Text) :
    copies line count <:+ block.replace .first rendered :=
  remain.trans (List.suffix_append _ _)

theorem copies_suffix_withColumns {name line text : Text} {count : Nat} (oneLine : '\n' ∉ name)
    (remain : copies line (count + 2) <:+ text) (names : List Text) (columns : List (List Text)) :
    copies line count <:+ withColumns .first name names columns text := by
  unfold withColumns
  cases found : first? name text with
  | none =>
      exact ((Text.copies_suffix_succ line count).trans
        (Text.copies_suffix_succ line (count + 1))).trans remain
  | some block => exact copies_suffix_replace (copies_suffix_after oneLine remain found) _

theorem copies_suffix_withItems {σ α : Type} {name line text : Text} {count : Nat}
    (oneLine : '\n' ∉ name) (remain : copies line (count + 2) <:+ text) (items : List α)
    (render : Text → α → StateM σ Text) (state : σ) :
    copies line count <:+ (withItems .first name items render text state).1 := by
  unfold withItems select
  cases found : first? name text with
  | none =>
      exact ((Text.copies_suffix_succ line count).trans
        (Text.copies_suffix_succ line (count + 1))).trans remain
  | some block => exact copies_suffix_replace (copies_suffix_after oneLine remain found) _

end Block

theorem Entity.line_listBlocks (entity : Entity) :
    ∀ list ∈ entity.listBlocks, '\n' ∉ list.block := by
  cases entity <;> simp only [listBlocks, List.forall_mem_cons] <;> decide

namespace Page

variable {σ : Type}

theorem copies_suffix_foldl {lists : List ListBlock} (oneLine : ∀ list ∈ lists, '\n' ∉ list.block)
    {line text : Text} {count : Nat} (remain : copies line (count + 2 * lists.length) <:+ text) :
    copies line count <:+ lists.foldl
      (fun text list => Block.withColumns .first list.block [list.item] [list.values] text)
      text := by
  induction lists generalizing text with
  | nil => exact remain
  | cons list lists inductionHypothesis =>
      rw [List.foldl_cons]
      apply inductionHypothesis (List.forall_mem_cons.mp oneLine).2
      exact Block.copies_suffix_withColumns (oneLine list List.mem_cons_self) remain _ _

/-- Of the copies of a line in the filled text, the blocks of lists, cast and
seasons use up two each. -/
theorem copies_suffix_drawBody [TableOrders] {line template : Text} {count : Nat} {entity : Entity}
    (remain : copies line (count + 2 * (entity.listBlocks.length + 2)) <:+
      renderFields template entity) (resolve : Resolver σ) (depth : PageDepth) (state : σ) :
    copies line count <:+ (drawBody resolve .first depth template entity state).1 := by
  have enough : count + 2 * (entity.listBlocks.length + 2) =
      count + 2 + 2 + 2 * entity.listBlocks.length := by omega
  rw [enough] at remain
  have lists := copies_suffix_foldl entity.line_listBlocks remain
  have cast : copies line (count + 2) <:+ withLists .first template entity := by
    unfold withLists
    cases entity.actors? with
    | none =>
        exact ((Text.copies_suffix_succ line _).trans (Text.copies_suffix_succ line _)).trans lists
    | some actors => exact Block.copies_suffix_withColumns (by decide) lists _ _
  have fewer := ((Text.copies_suffix_succ line count).trans
    (Text.copies_suffix_succ line (count + 1))).trans cast
  have seasonLine : '\n' ∉ ("SEASON" : Text) := by decide
  have unchanged (text : Text) : ((pure text : StateM σ Text) state).1 = text := rfl
  cases entity with
  | tvShow item =>
      simp only [drawBody, drawSeasons]
      exact Block.copies_suffix_withItems seasonLine cast _ _ state
  | movie record => simpa only [drawBody, unchanged] using fewer
  | season item number => simpa only [drawBody, unchanged] using fewer
  | episode item record => simpa only [drawBody, unchanged] using fewer
  | concert record => simpa only [drawBody, unchanged] using fewer

end Page

/-! ## Braces that are left -/

/-- A resolver that remembers whether it was ever asked. -/
def Resolver.noticing : Resolver Bool :=
  fun _ _ => ([], true)

namespace Page

theorem resolveTokens_noticing (entity : Entity) (depth : PageDepth)
    (found : List (Text × Text)) (tokens : List ImageToken) :
    (resolveTokens Resolver.noticing entity depth found tokens true).2 = true := by
  induction tokens generalizing found with
  | nil => rfl
  | cons token tokens inductionHypothesis =>
      rw [resolveTokens]
      split
      · exact inductionHypothesis found
      · exact inductionHypothesis _

/-- Images either leave a text as it is or ask for the picture of a token. -/
theorem fillImages_noticing [TableOrders] (entity : Entity) (depth : PageDepth) (text : Text)
    (state : Bool) :
    fillImages Resolver.noticing entity depth text state = (text, state) ∨
      (fillImages Resolver.noticing entity depth text state).2 = true := by
  cases tokens : ImageToken.all text with
  | nil =>
      rw [fillImages_of_no_token tokens]
      exact .inl rfl
  | cons token rest =>
      cases entity with
      | season item number => exact .inl rfl
      | movie record =>
          simp only [fillImages, tokens]
          exact .inr (resolveTokens_noticing _ depth _ rest)
      | tvShow item =>
          simp only [fillImages, tokens]
          exact .inr (resolveTokens_noticing _ depth _ rest)
      | episode item record =>
          simp only [fillImages, tokens]
          exact .inr (resolveTokens_noticing _ depth _ rest)
      | concert record =>
          simp only [fillImages, tokens]
          exact .inr (resolveTokens_noticing _ depth _ rest)

/-- A brace that no block takes away ends up in the page or asks for a picture. -/
theorem not_inert_of_brace {mode : BlockMatch} {depth : PageDepth} {template : Text}
    {entity : Entity}
    (brace : ¬ Plain (drawBody Resolver.noticing mode depth template entity false).1) :
    ¬ Inert mode depth template entity := by
  rintro ⟨page, plain, same⟩
  have drawn := same Bool Resolver.noticing false
  rw [run_render] at drawn
  rcases Prod.mk.inj drawn with ⟨pageSame, stateSame⟩
  have pageSame : (draw Resolver.noticing mode depth template entity false).1 = page :=
    Except.ok.inj pageSame
  rcases fillImages_noticing entity depth
    (drawBody Resolver.noticing mode depth template entity false).1
    (drawBody Resolver.noticing mode depth template entity false).2 with unchanged | asked
  · have left : (draw Resolver.noticing mode depth template entity false).1 =
        (drawBody Resolver.noticing mode depth template entity false).1 :=
      congrArg Prod.fst unchanged
    apply brace
    rw [← left, pageSame]
    exact plain
  · have noticed : (draw Resolver.noticing mode depth template entity false).2 = true := asked
    rw [stateSame] at noticed
    cases noticed

end Page

/-! ## Templates of one's own -/

/-- The token of a field becomes the value of that field, with the fields
behind it filled in. -/
theorem Entity.fillTokens_field {entity : Entity} {before after : List (Text × Text)}
    {name value : Text} (split : entity.fields = before ++ (name, value) :: after) :
    fillTokens entity.fields (Token.ofName name) = fillTokens after value := by
  have free := entity.braceFree_fields
  have distinct := entity.nodup_fields
  rw [split] at free distinct
  have fresh : name ∉ before.map Prod.fst := by
    rw [List.map_append, List.map_cons] at distinct
    intro earlier
    exact (List.nodup_append.mp distinct).2.2 _ earlier _ List.mem_cons_self rfl
  rw [split]
  exact fillTokens_ofName free fresh

/-- In a template of one's own every piece is plain when the fields are filled in. -/
theorem Entity.Settled.plain_fillTokens {entity : Entity} (settled : entity.Settled)
    {piece : TemplatePiece} (own : piece.Own entity.kind) :
    Plain (fillTokens entity.fields piece.source) := by
  cases piece with
  | text content =>
      have plain : Plain content := own
      rw [TemplatePiece.source, fillTokens_of_plain plain]
      exact plain
  | token name =>
      have known : name ∈ entity.fields.map Prod.fst := entity.map_fst_fields ▸ own
      rcases List.mem_map.mp known with ⟨⟨name, value⟩, member, rfl⟩
      rcases List.append_of_mem member with ⟨before, after, split⟩
      rw [TemplatePiece.source, Entity.fillTokens_field split]
      rcases Entity.plain_of_not_verbatim member with verbatim | plain
      · exact settled before name value after split verbatim
      · rw [fillTokens_of_plain plain]
        exact plain

/-- The token of a field on each of a number of lines. -/
def TemplatePiece.tokenLines (name : Text) : Nat → List TemplatePiece
  | 0 => []
  | count + 1 => .token name :: .text ['\n'] :: tokenLines name count

theorem TemplatePiece.own_tokenLines {kind : Kind} {name : Text} (known : name ∈ kind.fieldNames)
    (count : Nat) : ∀ piece ∈ tokenLines name count, piece.Own kind := by
  induction count with
  | zero => exact List.forall_mem_nil _
  | succ count inductionHypothesis =>
      rw [tokenLines, List.forall_mem_cons, List.forall_mem_cons]
      have lineEnd : Plain ['\n'] := by decide
      exact ⟨known, lineEnd, inductionHypothesis⟩

theorem renderFields_tokenLines (entity : Entity) (name : Text) (count : Nat) :
    renderFields (TemplatePiece.join (TemplatePiece.tokenLines name count)) entity =
      copies (fillTokens entity.fields (Token.ofName name)) count := by
  induction count with
  | zero => exact fillTokens_of_plain plain_nil entity.fields
  | succ count inductionHypothesis =>
      rw [copies, ← inductionHypothesis]
      exact fillTokens_line entity.line_fields (Token.ofName name)
        (TemplatePiece.join (TemplatePiece.tokenLines name count))

/-- A record is inert in every template of its own, in both modes and at both
depths, exactly when its fields settle. -/
theorem Page.inert_iff_settled (entity : Entity) :
    (∀ pieces : List TemplatePiece, (∀ piece ∈ pieces, piece.Own entity.kind) →
      ∀ mode depth, Inert mode depth (TemplatePiece.join pieces) entity) ↔ entity.Settled := by
  constructor
  · intro inert before name value after split _
    have member : (name, value) ∈ entity.fields := by
      rw [split]
      exact List.mem_append_right before List.mem_cons_self
    have known := Entity.name_mem_fieldNames member
    by_contra brace
    -- The blocks of a page can take away all of these lines but one.
    let count := 1 + 2 * (entity.listBlocks.length + 2)
    have remain := renderFields_tokenLines entity name count
    rw [Entity.fillTokens_field split] at remain
    have left : copies (fillTokens after value) 1 <:+ _ :=
      copies_suffix_drawBody (by rw [remain]) Resolver.noticing .item false
    apply not_inert_of_brace _
      (inert _ (TemplatePiece.own_tokenLines known count) .first .item)
    intro plain
    exact brace fun member => plain (left.subset (List.mem_append_left _ member))
  · intro settled pieces own mode depth
    have settles := fun piece member => settled.plain_fillTokens (own piece member)
    have plain : Plain (renderFields (TemplatePiece.join pieces) entity) := by
      rw [renderFields, fillTokens_join entity.braceFree_fields settles]
      exact Text.Plain.flatMap settles
    refine ⟨_, plain, ?_⟩
    intro _ σ resolve state
    rw [run_render, draw_of_plain plain]
    rfl

/-- An identifier that is an image token. -/
def Movie.disguised : Movie :=
  { imdbId := "\x7b\x7b IMAGE.poster[300,450] \x7d\x7d" }

/-- The template is one's own, but the page that shows this identifier is not inert. -/
theorem Page.not_inert_disguised :
    (∀ piece ∈ [TemplatePiece.token "MOVIE.IMDB_ID"],
        piece.Own (Entity.movie Movie.disguised).kind) ∧
      ¬ Inert .first .item (TemplatePiece.join [TemplatePiece.token "MOVIE.IMDB_ID"])
        (.movie Movie.disguised) := by
  constructor
  · rw [List.forall_mem_singleton]
    change ("MOVIE.IMDB_ID" : Text) ∈ Kind.fieldNames .movie
    decide +kernel
  · apply not_inert_of_brace
    decide +kernel

end MediaSite
