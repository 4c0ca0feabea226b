import MediaSite.Proofs.Site.ArtworkRequests
import MediaSite.Proofs.Site.Requests
import MediaSite.Proofs.Template.Replacement
import MediaSite.Picture.Recording

namespace MediaSite

/-!
# The order in which pictures are put in

The paths of artwork are quiet: a role comes into a path in lower case only, so no
path has the capital letters of an opening, and every path ends in its extension.
Hence the image tokens of a text may be replaced in any order, as long as none is
part of another one and none comes directly behind the beginning of an opening.
-/

open scoped Text

namespace Text

theorem eq_of_ofNat_eq {n : Nat} {c : Char} (nonzero : c.toNat ≠ 0) (same : Char.ofNat n = c) :
    n = c.toNat := by
  have read : (Char.ofNat n).toNat = n ∨ (Char.ofNat n).toNat = 0 := by
    by_cases valid : n.isValidChar
    · rw [Char.ofNat, dif_pos valid]
      exact .inl rfl
    · rw [Char.ofNat, dif_neg valid]
      exact .inr rfl
  rw [same] at read
  exact (read.resolve_right nonzero).symm

theorem not_mem_lowerChar (c : Char) : 'E' ∉ lowerChar c := by
  have ascii : ∀ n < 0x80, (Char.ofNat n).toLower ≠ 'E' := by decide
  -- Beyond ASCII a run of the table misses the letter on one side or the other.
  have runs : ∀ run ∈ caseRuns, run.last < 0x80 ∨ 0x45 < run.first + run.shift ∨
      run.last + run.shift < 0x45 := by decide +kernel
  intro member
  unfold lowerChar at member
  split at member
  · rename_i small
    apply ascii c.toNat small
    rw [Char.ofNat_toNat]
    exact (List.mem_singleton.mp member).symm
  · rename_i large
    split at member
    · exact absurd member (by decide)
    · split at member
      · rename_i run found
        have code := eq_of_ofNat_eq (by decide) (List.mem_singleton.mp member).symm
        have holds := List.find?_some found
        have bounds := runs run (List.mem_of_find?_eq_some found)
        simp only [CaseRun.holds, Bool.and_eq_true, decide_eq_true_eq] at holds
        have letter : ('E').toNat = 0x45 := rfl
        omega
      · have same := List.mem_singleton.mp member
        rw [← same] at large
        exact large (by decide)

theorem not_mem_lowercase (text : Text) : 'E' ∉ lowercase text := by
  have after (before : Text) : 'E' ∉ lowercaseAfter before text := by
    induction text generalizing before with
    | nil => exact List.not_mem_nil
    | cons c rest inductionHypothesis =>
        rw [lowercaseAfter, List.mem_append]
        refine not_or.mpr ⟨?_, inductionHypothesis (c :: before)⟩
        split
        · split <;> decide
        · exact not_mem_lowerChar c
  exact after []

end Text

/-! ## Quiet paths -/

namespace Artwork

variable {σ : Type}

theorem not_mem_ofNat (n : Nat) : 'E' ∉ Text.ofNat n :=
  Text.not_mem_ofNat (by decide) n

theorem fallback_spec {request : ImageRequest} (low : 'E' ∉ request.role) :
    'E' ∉ request.fallback ∧ request.fallback.getLast? = some 'g' := by
  have kind : 'E' ∉ request.entity.kind.name := by
    cases request.entity.kind <;> decide
  unfold ImageRequest.fallback fallbackPath
  constructor
  · simp only [List.mem_append, not_or]
    exact ⟨⟨⟨⟨⟨⟨⟨⟨by decide, kind⟩, by decide⟩, low⟩, by decide⟩, not_mem_ofNat _⟩, by decide⟩,
      not_mem_ofNat _⟩, by decide⟩
  · rw [List.getLast?_append_of_ne_nil _ (by decide)]
    decide

theorem path_spec (key : ArtworkKey) : 'E' ∉ key.path ∧ key.path.getLast? = some 'g' := by
  have directory : 'E' ∉ key.directory := by
    rw [ArtworkKey.directory]
    cases key.kind <;> decide
  have role : 'E' ∉ key.role.name := by
    cases key.role <;> decide
  unfold ArtworkKey.path filePath
  constructor
  · simp only [List.mem_append, not_or]
    exact ⟨⟨⟨⟨⟨⟨⟨⟨⟨directory, by decide⟩, not_mem_ofNat _⟩, by decide⟩, role⟩, by decide⟩,
      not_mem_ofNat _⟩, by decide⟩, not_mem_ofNat _⟩, by decide⟩
  · rw [List.getLast?_append_of_ne_nil _ (by decide)]
    decide

/-- Requests in lower case get quiet answers. -/
theorem keeps_resolver (setup : ArtworkSetup σ) : (resolver setup).Keeps Sound fun request answer =>
    'E' ∉ request.role → 'E' ∉ answer ∧ answer.getLast? = some 'g' := by
  intro request workspace sound
  rcases sound.resolver setup request with ⟨answered, stillSound⟩
  refine ⟨fun low => ?_, stillSound⟩
  rcases answered with same | ⟨key, _, same⟩
  · rw [same]
    exact fallback_spec low
  · rw [same]
    exact path_spec key

end Artwork

namespace ImageToken

theorem quiet_link (depth : PageDepth) {path : Text}
    (spec : 'E' ∉ path ∧ path.getLast? = some 'g') : Quiet (depth.linkStart ++ path) := by
  have nonempty : path ≠ [] := by
    rintro rfl
    cases spec.2
  refine ⟨fun member => ?_, 'g', ?_, by decide⟩
  · rcases List.mem_append.mp member with inStart | inPath
    · revert inStart
      cases depth <;> decide
    · exact spec.1 inPath
  · rw [List.getLast?_append_of_ne_nil _ nonempty]
    exact spec.2

theorem role_of_token? {piece : Piece} {token : ImageToken} (found : piece.token? = some token) :
    ∃ role, token.role = Text.lowercase role := by
  cases piece with
  | character c => cases found
  | shape text role width height =>
      rcases Option.bind_eq_some_iff.mp found with ⟨columns, _, found⟩
      rcases Option.bind_eq_some_iff.mp found with ⟨rows, _, found⟩
      exact ⟨role, by rw [← Option.some.inj found]⟩

/-- A text with each image token exchanged for the value of its text. -/
def exchange (value : Text → Text) (text : Text) : Text :=
  (pieces text).flatMap fun piece =>
    match piece.token? with
    | some token => value token.text
    | none => piece.text

/-- In whatever order the distinct tokens are replaced, each is exchanged at its place. -/
theorem replaceEach_eq_exchange {text : Text}
    (apart : ∀ first ∈ all text, ∀ second ∈ all text, first.text <:+: second.text →
      first.text = second.text)
    (unmarked : Unmarked (pieces text)) (value : Text → Text)
    (quiet : ∀ token ∈ all text, Quiet (value token.text)) {order : List (Text × Text)}
    (perm : order.Perm ((distinct (all text)).map fun token => (token.text, value token.text))) :
    Page.replaceEach order text = exchange value text := by
  have graph : ∀ item ∈ order, ∃ token ∈ distinct (all text),
      (token.text, value token.text) = item :=
    fun item member => List.mem_map.mp (perm.mem_iff.mp member)
  have keys : (order.map Prod.fst).Perm ((distinct (all text)).map ImageToken.text) := by
    have mapped := perm.map Prod.fst
    rwa [List.map_map] at mapped
  have isPiece {token : ImageToken} (member : token ∈ all text) :
      ∃ piece ∈ pieces text, piece.token? = some token := List.mem_filterMap.mp member
  have orderQuiet : ∀ item ∈ order, Quiet item.2 := by
    intro item member
    rcases graph item member with ⟨token, inDistinct, rfl⟩
    exact quiet token (mem_of_mem_distinct inDistinct)
  have once : (([] ++ order).map Prod.fst).Nodup :=
    keys.nodup_iff.mpr (nodup_texts_distinct (all text))
  -- Each key is the text of a piece, and `apart` leaves that piece alone with it.
  have tokens : ∀ item ∈ order, ∃ needle : Shape, needle.text = item.1 ∧
      needle.piece.token? ≠ none ∧ ∀ piece ∈ pieces text, piece.token? ≠ none →
        needle.text <:+: piece.text → piece.text = needle.text := by
    intro item member
    rcases graph item member with ⟨token, inDistinct, rfl⟩
    have inAll := mem_of_mem_distinct inDistinct
    rcases isPiece inAll with ⟨piece, inPieces, isToken⟩
    rcases exists_of_mem_pieces inPieces with ⟨c, rfl⟩ | ⟨needle, rfl⟩
    · cases isToken
    · have sameText : needle.text = token.text := text_of_token? isToken
      refine ⟨needle, sameText, by rw [isToken]; exact nofun, ?_⟩
      intro other inOthers otherToken inside
      rcases Option.ne_none_iff_exists'.mp otherToken with ⟨second, isSecond⟩
      rw [text_of_token? isSecond, sameText] at inside ⊢
      exact (apart token inAll second (List.mem_filterMap.mpr ⟨other, inOthers, isSecond⟩)
        inside).symm
  have replaced := replaceEach_replaced (List.forall_mem_nil _) orderQuiet once tokens unmarked
  rw [funext Piece.replaced_nil, flatMap_pieces, List.nil_append] at replaced
  rw [replaced, exchange]
  apply List.flatMap_congr
  intro piece inPieces
  cases found : piece.token? with
  | none => rw [Piece.replaced, found]
  | some token =>
      have inKeys : token.text ∈ order.map Prod.fst := keys.mem_iff.mpr
        (mem_texts_distinct (List.mem_filterMap.mpr ⟨piece, inPieces, found⟩))
      have shown : ∀ item ∈ order, item.2 = value item.1 := by
        intro item member
        rcases graph item member with ⟨other, _, rfl⟩
        rfl
      rw [Piece.replaced, found]
      exact congrArg (Option.getD · token.text) (lookup_of_graph shown inKeys)

theorem unmarked_of_located {text : Text}
    (unmarked : ∀ item ∈ located text, ∀ before after, text = before ++ (item.2.text ++ after) →
      item.1 = Text.byteLength before → ¬ mark <:+ before) : Unmarked (pieces text) := by
  intro front piece back split isToken
  rcases Option.ne_none_iff_exists'.mp isToken with ⟨token, found⟩
  refine unmarked (Text.byteLength (front.flatMap Piece.text), token) ?_ _
    (back.flatMap Piece.text) ?_ rfl
  · exact mem_locatedFrom.mpr ⟨front, piece, back, split, found, (Nat.zero_add _).symm⟩
  · rw [← text_of_token? found, ← List.flatMap_cons, ← List.flatMap_append, ← split,
      flatMap_pieces]

end ImageToken

/-! ## Pages with artwork -/

/-- With artwork as the resolver each distinct token is resolved once, in the order of
first appearance, and each token is exchanged for its link at its place, in whatever
order the distinct tokens are replaced. -/
theorem Artwork.fillImages_in_any_order [TableOrders] {σ : Type} {setup : ArtworkSetup σ}
    {workspace : Workspace (Artwork σ)} (reachable : Reachable setup workspace) {entity : Entity}
    (pictured : entity.kind ≠ .season) (depth : PageDepth) {text : Text}
    (apart : ∀ first ∈ ImageToken.all text, ∀ second ∈ ImageToken.all text,
      first.text <:+: second.text → first.text = second.text)
    (unmarked : ∀ item ∈ ImageToken.located text, ∀ before after,
      text = before ++ (item.2.text ++ after) → item.1 = Text.byteLength before →
        ¬ ImageToken.mark <:+ before) :
    ∃ (path : Text → Text) (done : Workspace (Artwork σ)),
      let link := fun token => depth.linkStart ++ path token
      let tokens := ImageToken.distinct (ImageToken.all text)
      Page.fillImages (resolver setup) entity depth text workspace =
          (ImageToken.exchange link text, done) ∧
        Page.fillImages (resolver setup).logged entity depth text (workspace, []) =
          (ImageToken.exchange link text,
            (done, tokens.map fun token => (token.request entity, path token.text))) ∧
        ∀ order, order.Perm (tokens.map fun token => (token.text, link token.text)) →
          Page.replaceEach order text = ImageToken.exchange link text := by
  rcases Page.mapM_ask_logged (keeps_resolver setup) entity depth
    (ImageToken.nodup_texts_distinct (ImageToken.all text)) workspace reachable.sound with
    ⟨path, done, run, logged, quiet⟩
  have linksQuiet : ∀ token ∈ ImageToken.all text,
      ImageToken.Quiet (depth.linkStart ++ path token.text) := by
    intro token member
    rcases List.mem_map.mp (ImageToken.mem_texts_distinct member) with ⟨other, inDistinct, same⟩
    rcases List.mem_filterMap.mp (ImageToken.mem_of_mem_distinct inDistinct) with
      ⟨piece, _, isToken⟩
    rcases ImageToken.role_of_token? isToken with ⟨role, lower⟩
    rw [← same]
    apply ImageToken.quiet_link
    apply quiet other inDistinct
    change 'E' ∉ other.role
    rw [lower]
    exact Text.not_mem_lowercase role
  have replaced {order : List (Text × Text)} (perm : order.Perm _) :=
    ImageToken.replaceEach_eq_exchange apart (ImageToken.unmarked_of_located unmarked)
      (fun token => depth.linkStart ++ path token) linksQuiet perm
  refine ⟨path, done, ?_, ?_, fun order perm => replaced perm⟩
  · rw [Page.fillImages_eq_mapM _ pictured]
    simp only [bind_apply, pure_apply, run, replaced (TableOrder.perm _ _)]
  · rw [Page.fillImages_eq_mapM _ pictured]
    simp only [bind_apply, pure_apply, logged, List.nil_append,
      replaced (TableOrder.perm _ _)]

/-- Two pictures, one of them twice, and a token between them that has no width. -/
def ImageToken.gallery : Text :=
  Written.poster.text ++ "\x7b\x7b IMAGE.logo[0,1] \x7d\x7d" ++
    "\x7b\x7b IMAGE.logo[5, 6] \x7d\x7d" ++ Written.poster.text

theorem Artwork.fillImages_gallery :
    let setup : ArtworkSetup (List BackendCall) := ⟨RecordingTable.backend {}, ⟨"site"⟩, 90⟩
    let workspace : Workspace (Artwork (List BackendCall)) := ⟨FileTree.empty, Artwork.fresh []⟩
    let poster := ImageToken.Written.poster.text
    let logo : Text := "\x7b\x7b IMAGE.logo[5, 6] \x7d\x7d"
    ∃ (path : Text → Text) (done : Workspace (Artwork (List BackendCall))),
      let link := fun token => PageDepth.linkStart .item ++ path token
      let page := link poster ++ ("\x7b\x7b IMAGE.logo[0,1] \x7d\x7d" ++ (link logo ++ link poster))
      Page.fillImages (resolver setup) (.movie {}) .item ImageToken.gallery workspace =
          (page, done) ∧
        Page.replaceEach [(logo, link logo), (poster, link poster)] ImageToken.gallery = page := by
  intro setup workspace poster logo
  have reachable : Reachable setup workspace := .fresh FileTree.empty []
  have pictured : (Entity.movie {}).kind ≠ .season := nofun
  have apart : ∀ first ∈ ImageToken.all ImageToken.gallery,
      ∀ second ∈ ImageToken.all ImageToken.gallery, first.text <:+: second.text →
        first.text = second.text := by decide +kernel
  have opens : ∀ item ∈ ImageToken.located ImageToken.gallery,
      ImageToken.opening <+: item.2.text := by decide +kernel
  have nowhere : ¬ ImageToken.mark ++ ImageToken.opening <:+: ImageToken.gallery := by
    decide +kernel
  have unmarked : ∀ item ∈ ImageToken.located ImageToken.gallery, ∀ before after,
      ImageToken.gallery = before ++ (item.2.text ++ after) →
        item.1 = Text.byteLength before → ¬ ImageToken.mark <:+ before := by
    rintro item member before after split _ ⟨front, rfl⟩
    rcases opens item member with ⟨rest, same⟩
    apply nowhere
    exact ⟨front, rest ++ after, by rw [split, ← same]; simp only [List.append_assoc]⟩
  rcases fillImages_in_any_order reachable pictured .item apart unmarked with
    ⟨path, done, run, _, anyOrder⟩
  have shown (link : Text → Text) : ImageToken.exchange link ImageToken.gallery =
      link poster ++ ("\x7b\x7b IMAGE.logo[0,1] \x7d\x7d" ++ (link logo ++ link poster)) := by
    have pieces : ImageToken.pieces ImageToken.gallery =
        [.shape poster "poster" "3" "4", .shape "\x7b\x7b IMAGE.logo[0,1] \x7d\x7d" "logo" "0" "1",
          .shape logo "logo" "5" "6", .shape poster "poster" "3" "4"] := by decide +kernel
    rw [ImageToken.exchange, pieces, ← List.append_nil (link poster ++ _)]
    simp only [List.append_assoc]
    rfl
  have tokens : (ImageToken.distinct (ImageToken.all ImageToken.gallery)).map ImageToken.text =
      [poster, logo] := by decide +kernel
  refine ⟨path, done, ?_, ?_⟩
  · rw [run, shown]
  · refine (anyOrder _ ?_).trans (shown _)
    have pairs := congrArg
      (List.map fun token => (token, PageDepth.linkStart .item ++ path token)) tokens
    rw [List.map_map] at pairs
    have swapped := List.Perm.swap (poster, PageDepth.linkStart .item ++ path poster)
      (logo, PageDepth.linkStart .item ++ path logo) []
    exact swapped.trans (List.Perm.of_eq pairs.symm)

end MediaSite
