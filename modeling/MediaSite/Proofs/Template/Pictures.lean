import MediaSite.Proofs.Template.ImageTokens
import MediaSite.Proofs.Template.Tidy
import MediaSite.Site.Page

namespace MediaSite

/-!
# Templates with pictures

A well-formed image token is a token like any other: its name is what stands
between its braces.  So a text made from well-formed image tokens and texts in
which no brace opens carries the names of these tokens, and the image tokens
found in it are the ones it was made from, in order (`ImageToken.all_of_carries`).

When each token of such a text is replaced by a plain text no brace is left open.
-/

open scoped Text
open Text (Plain Carries)

/-! ## Image tokens as tokens -/

namespace ImageToken

/-- The name that an image token has as a token. -/
def Written.body (written : Written) : Text :=
  "IMAGE." ++ (written.role ++ '[' :: (written.columns ++ ',' ::
    ((if written.spaced then [' '] else []) ++ (written.rows ++ [']']))))

theorem Written.ofName_body (written : Written) : Token.ofName written.body = written.text := by
  simp [Written.body, Written.text, Token.ofName, opening, closing, boxText]

theorem Written.braceFree_body (written : Written) : Token.BraceFree written.body := by
  have role (c : Char) (brace : c ∈ ['\x7b', '\x7d', '[', ']', '\n']) : c ∉ written.role :=
    fun member => written.role_free c member brace
  have columns := digits_of_toNat? written.columns_eq
  have rows := digits_of_toNat? written.rows_eq
  constructor
  · have inRole := role '\x7b' (by decide)
    have inColumns := not_mem_digits columns (by decide : Text.isDecimalDigit '\x7b' = false)
    have inRows := not_mem_digits rows (by decide : Text.isDecimalDigit '\x7b' = false)
    cases same : written.spaced <;> simp [body, same, inRole, inColumns, inRows]
  · have inRole := role '\x7d' (by decide)
    have inColumns := not_mem_digits columns (by decide : Text.isDecimalDigit '\x7d' = false)
    have inRows := not_mem_digits rows (by decide : Text.isDecimalDigit '\x7d' = false)
    cases same : written.spaced <;> simp [body, same, inRole, inColumns, inRows]

theorem all_append_of_plain {left : Text} (plain : Plain left) (right : Text) :
    all (left ++ right) = all right := by
  induction left with
  | nil => rfl
  | cons c left inductionHypothesis =>
      have noShape : shape? (c :: (left ++ right)) = none := by
        apply shape?_eq_none
        rintro ⟨rest, same⟩
        have brace : '\x7b' = c := (List.cons.inj same).1
        exact plain (brace ▸ List.mem_cons_self)
      rw [List.cons_append, all, pieces_of_none noShape, List.filterMap_cons]
      exact inductionHypothesis fun member => plain (List.mem_cons_of_mem c member)

theorem Written.all_text_append (written : Written) (rest : Text) :
    all (written.text ++ rest) = written.token :: all rest := by
  rw [all, pieces_of_shape (written.shape?_text rest), List.filterMap_cons, written.token?_text]
  rfl

/-- The image tokens of a text that carries image tokens only. -/
theorem all_of_carries {text : Text} {pictures : List Written}
    (carries : Carries text (pictures.map Written.body)) :
    all text = pictures.map Written.token := by
  rcases carries with ⟨pieces, tidy, names, rfl⟩
  induction pieces generalizing pictures with
  | nil =>
      rw [List.map_eq_nil_iff.mp names.symm]
      unfold all TemplatePiece.join pieces
      rfl
  | cons piece pieces inductionHypothesis =>
      rcases List.forall_mem_cons.mp tidy with ⟨pieceTidy, restTidy⟩
      rw [TemplatePiece.join_cons]
      cases piece with
      | text content =>
          rw [TemplatePiece.source, all_append_of_plain pieceTidy]
          exact inductionHypothesis restTidy names
      | token name =>
          rcases List.map_eq_cons_iff.mp names.symm with ⟨first, rest, rfl, rfl, restNames⟩
          rw [TemplatePiece.source, first.ofName_body, first.all_text_append, List.map_cons]
          exact congrArg _ (inductionHypothesis restTidy restNames.symm)

end ImageToken

/-! ## Texts that carry tokens -/

namespace Text.Carries

variable {text : Text} {names : List Text}

/-- Names that a text does not carry are not filled into it. -/
theorem fillTokens_eq (carries : Carries text names) {values : List (Text × Text)}
    (free : BraceFreeNames values) (fresh : ∀ item ∈ values, item.1 ∉ names) :
    fillTokens values text = text := by
  induction values with
  | nil => rfl
  | cons item values inductionHypothesis =>
      rcases List.forall_mem_cons.mp fresh with ⟨itemFresh, restFresh⟩
      have absent := carries.not_occurs (free item List.mem_cons_self) itemFresh
      rw [fillTokens_cons, Text.replaceAll_of_not_infix absent]
      exact inductionHypothesis free.tail restFresh

/-- A pass with a plain value takes the tokens of its name away. -/
theorem replaceAll (carries : Carries text names) {name : Text} (free : Token.BraceFree name)
    {value : Text} (plain : Plain value) :
    Carries (Text.replaceAll (Token.ofName name) value text) (names.filter (· != name)) := by
  rcases carries with ⟨pieces, tidy, rfl, rfl⟩
  refine ⟨pieces.map (TemplatePiece.fill [(name, value)]), ?_, ?_,
    (TemplatePiece.replaceAll_join free tidy value).symm⟩
  · intro piece member
    rcases List.mem_map.mp member with ⟨original, inPieces, rfl⟩
    exact (tidy original inPieces).fill (List.forall_mem_singleton.mpr plain)
  · rw [TemplatePiece.names, TemplatePiece.names, List.filterMap_map, List.filter_filterMap]
    congr 1
    funext piece
    cases piece with
    | text content => rfl
    | token other =>
        by_cases same : other = name
        · simp [TemplatePiece.fill, TemplatePiece.name?, Option.filter, same]
        · simp [TemplatePiece.fill, TemplatePiece.name?, List.lookup_cons, Option.filter,
            beq_false_of_ne same, same]

/-- When each of its tokens is replaced by a plain text, a text becomes plain. -/
theorem plain_replaceEach (carries : Carries text names) {found : List (Text × Text)}
    (tokens : ∀ item ∈ found, ∃ name, Token.BraceFree name ∧ Token.ofName name = item.1)
    (plain : ∀ item ∈ found, Plain item.2)
    (covered : ∀ name ∈ names, Token.ofName name ∈ found.map Prod.fst) :
    Plain (Page.replaceEach found text) := by
  induction found generalizing text names with
  | nil =>
      have none : names = [] := List.eq_nil_iff_forall_not_mem.mpr fun name member =>
        List.not_mem_nil (covered name member)
      rw [none] at carries
      exact carries.plain
  | cons item found inductionHypothesis =>
      rcases List.forall_mem_cons.mp tokens with ⟨⟨name, free, same⟩, restTokens⟩
      rcases List.forall_mem_cons.mp plain with ⟨itemPlain, restPlain⟩
      have replaced := carries.replaceAll free itemPlain
      rw [same] at replaced
      apply inductionHypothesis replaced restTokens restPlain
      intro other member
      rcases List.mem_filter.mp member with ⟨inNames, different⟩
      rcases List.mem_cons.mp (covered other inNames) with first | later
      · rw [← same, Token.ofName, Token.ofName] at first
        have equal := List.append_cancel_left (List.append_cancel_right first)
        exact absurd equal (bne_iff_ne.mp different)
      · exact later

end Text.Carries

/-! ## Pieces -/

/-- A piece of a template with pictures: a text in which no brace opens, or a
well-formed image token. -/
inductive PicturePiece where
  | text (content : Text) (plain : Plain content)
  | picture (written : ImageToken.Written)

namespace PicturePiece

def source : PicturePiece → Text
  | .text content _ => content
  | .picture written => written.text

def written? : PicturePiece → Option ImageToken.Written
  | .text _ _ => none
  | .picture written => some written

def join (pieces : List PicturePiece) : Text :=
  pieces.flatMap source

/-- The image tokens among pieces, in order. -/
def pictures (pieces : List PicturePiece) : List ImageToken.Written :=
  pieces.filterMap written?

/-- The names that pieces carry. -/
def bodies (pieces : List PicturePiece) : List Text :=
  (pictures pieces).map ImageToken.Written.body

theorem bodies_append (first second : List PicturePiece) :
    bodies (first ++ second) = bodies first ++ bodies second := by
  rw [bodies, pictures, List.filterMap_append, List.map_append]
  rfl

theorem bodies_flatten (parts : List (List PicturePiece)) :
    bodies parts.flatten = (parts.map bodies).flatten := by
  rw [bodies, pictures, List.filterMap_flatten, List.map_flatten, List.map_map]
  rfl

theorem carries_join (pieces : List PicturePiece) : Carries (join pieces) (bodies pieces) := by
  induction pieces with
  | nil => exact Carries.of_plain List.not_mem_nil
  | cons piece pieces inductionHypothesis =>
      cases piece with
      | text content plain => exact (Carries.of_plain plain).append inductionHypothesis
      | picture written =>
          have token := Carries.ofName written.braceFree_body
          rw [written.ofName_body] at token
          exact token.append inductionHypothesis

end PicturePiece
end MediaSite
