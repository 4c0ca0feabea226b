import MediaSite.Proofs.Template.Filling
import MediaSite.Proofs.Text.Lookup
import MediaSite.Text.Blank

namespace MediaSite

/-!
# Tidy templates

In a tidy template every opening brace belongs to a token, and no name of a
token has a brace.  No brace dangles at the end of a tidy piece, so no token
ever lies across a seam: the tokens that occur in a tidy template are the ones
it was made from (`Token.mem_names_of_occurs`), and a pass over it is a pass over
its pieces.

Passes with plain values keep a template tidy.  Hence filling in fields one
after the other is the same as looking each token up once, which is what
`fillTokens_of_tidy` says.

`Text.Carries` forgets the texts between the tokens.  The blocks and pictures of
a template depend on the names of its tokens only, in their order.
-/

open scoped Text
open Text (Plain)

namespace Token

theorem Dangling.of_append {left right : Text} (dangling : Dangling (left ++ right)) :
    Dangling left ∨ Dangling right := by
  rcases dangling with ⟨front, back, same, unclosed⟩
  rcases List.append_eq_append_iff.mp same with ⟨middle, split, behind⟩ | ⟨middle, split, behind⟩
  · exact .inr ⟨middle, back, behind, unclosed⟩
  · cases middle with
    | nil => exact .inr ⟨[], back, behind.symm, unclosed⟩
    | cons c middle =>
        rcases List.cons.inj behind with ⟨rfl, rest⟩
        refine .inl ⟨front, middle, split, fun closed => unclosed ?_⟩
        rw [behind]
        exact closed.trans (List.prefix_append _ right).isInfix

/-- A token closes its own braces. -/
theorem not_dangling_ofName (name : Text) : ¬ Dangling (ofName name) := by
  rintro ⟨front, back, same, unclosed⟩
  have braceBehind : '\x7b' :: back <:+ ofName name := ⟨front, same.symm⟩
  have closed : endBraces <:+ ofName name :=
    ⟨'\x7b' :: '\x7b' :: ' ' :: (name ++ [' ']), by simp [ofName_eq, endBraces]⟩
  rcases List.suffix_or_suffix_of_suffix closed braceBehind with inside | outside
  · exact unclosed inside.isInfix
  · exact absurd (outside.subset List.mem_cons_self) (by decide)

end Token

namespace TemplatePiece

/-! ## Pieces -/

/-- Every brace that opens is that of a token, and its name has no brace. -/
def Tidy : TemplatePiece → Prop
  | .text content => Plain content
  | .token name => Token.BraceFree name

instance (piece : TemplatePiece) : Decidable piece.Tidy :=
  match piece with
  | .text content => inferInstanceAs (Decidable (Plain content))
  | .token name => inferInstanceAs (Decidable (Token.BraceFree name))

def name? : TemplatePiece → Option Text
  | .text _ => none
  | .token name => some name

/-- The names of the tokens among pieces, in order. -/
def names (pieces : List TemplatePiece) : List Text :=
  pieces.filterMap name?

/-- The token of a known name becomes its value; all else stays. -/
def fill (values : List (Text × Text)) : TemplatePiece → TemplatePiece
  | .text content => .text content
  | .token name =>
    match values.lookup name with
    | some value => .text value
    | none => .token name

variable {piece : TemplatePiece} {pieces : List TemplatePiece}

theorem not_dangling_source (tidy : piece.Tidy) : ¬ Token.Dangling piece.source := by
  cases piece with
  | text content => exact fun dangling => dangling.not_plain tidy
  | token name => exact Token.not_dangling_ofName name

theorem join_append (left right : List TemplatePiece) :
    join (left ++ right) = join left ++ join right :=
  List.flatMap_append

theorem join_cons (piece : TemplatePiece) (pieces : List TemplatePiece) :
    join (piece :: pieces) = piece.source ++ join pieces := rfl

theorem not_dangling_join (tidy : ∀ piece ∈ pieces, piece.Tidy) :
    ¬ Token.Dangling (join pieces) := by
  induction pieces with
  | nil => exact fun dangling => dangling.not_plain List.not_mem_nil
  | cons piece pieces inductionHypothesis =>
      rcases List.forall_mem_cons.mp tidy with ⟨pieceTidy, restTidy⟩
      intro dangling
      rcases dangling.of_append with here | later
      · exact not_dangling_source pieceTidy here
      · exact inductionHypothesis restTidy later

/-! ## Filling -/

theorem fill_nil (piece : TemplatePiece) : fill [] piece = piece := by
  cases piece <;> rfl

theorem fill_cons (item : Text × Text) (values : List (Text × Text)) (piece : TemplatePiece) :
    fill (item :: values) piece = fill values (fill [item] piece) := by
  cases piece with
  | text content => rfl
  | token name =>
      rcases item with ⟨key, value⟩
      by_cases same : name = key
      · simp [fill, same]
      · simp [fill, List.lookup_cons, beq_false_of_ne same]

theorem Tidy.fill {values : List (Text × Text)} (plain : ∀ item ∈ values, Plain item.2)
    (tidy : piece.Tidy) : (piece.fill values).Tidy := by
  cases piece with
  | text content => exact tidy
  | token name =>
      cases found : values.lookup name with
      | none =>
          rw [TemplatePiece.fill, found]
          exact tidy
      | some value =>
          rw [TemplatePiece.fill, found]
          exact plain (name, value) (mem_of_lookup found)

theorem replaceAll_source {name : Text} (free : Token.BraceFree name) (tidy : piece.Tidy)
    (value : Text) :
    Text.replaceAll (Token.ofName name) value piece.source =
      (piece.fill [(name, value)]).source := by
  cases piece with
  | text content => exact Plain.replaceAll_eq tidy (Token.not_plain_ofName name) value
  | token other =>
      by_cases same : other = name
      · have whole := Text.replaceAll_needle_append (Token.ofName_ne_nil name) value []
        rw [List.append_nil, Text.replaceAll_nil, List.append_nil] at whole
        simp [source, fill, same, whole]
      · rw [source, replaceAll_ofName_of_ne tidy free fun equal => same equal.symm]
        simp [fill, List.lookup_cons, beq_false_of_ne same, source]

/-- A pass over a tidy template goes piece by piece. -/
theorem replaceAll_join {name : Text} (free : Token.BraceFree name)
    (tidy : ∀ piece ∈ pieces, piece.Tidy) (value : Text) :
    Text.replaceAll (Token.ofName name) value (join pieces) =
      join (pieces.map (fill [(name, value)])) := by
  induction pieces with
  | nil => rfl
  | cons piece pieces inductionHypothesis =>
      rcases List.forall_mem_cons.mp tidy with ⟨pieceTidy, restTidy⟩
      -- An occurrence across the seam would leave an unclosed brace before it.
      have seam : ¬ Text.Straddles (Token.ofName name) piece.source (join pieces) := fun across =>
        not_dangling_source pieceTidy (Token.dangling_of_straddles free across)
      rw [join_cons, Text.replaceAll_append (Token.ofName_ne_nil name) seam,
        replaceAll_source free pieceTidy, inductionHypothesis restTidy, List.map_cons, join_cons]

end TemplatePiece

/-- Plain values are filled into a tidy template all at once. -/
theorem fillTokens_of_tidy {values : List (Text × Text)} (free : BraceFreeNames values)
    (plain : ∀ item ∈ values, Plain item.2) {pieces : List TemplatePiece}
    (tidy : ∀ piece ∈ pieces, piece.Tidy) :
    fillTokens values (TemplatePiece.join pieces) =
      TemplatePiece.join (pieces.map (TemplatePiece.fill values)) := by
  induction values generalizing pieces with
  | nil =>
      rw [List.map_congr_left fun piece _ => TemplatePiece.fill_nil piece, List.map_id']
      rfl
  | cons item values inductionHypothesis =>
      rcases List.forall_mem_cons.mp plain with ⟨itemPlain, restPlain⟩
      have stillTidy : ∀ piece ∈ pieces.map (TemplatePiece.fill [item]), piece.Tidy := by
        intro piece member
        rcases List.mem_map.mp member with ⟨original, inPieces, rfl⟩
        exact (tidy original inPieces).fill (List.forall_mem_singleton.mpr itemPlain)
      rw [fillTokens_cons, TemplatePiece.replaceAll_join (free item List.mem_cons_self) tidy,
        inductionHypothesis free.tail restPlain stillTidy, List.map_map]
      congr 1
      exact List.map_congr_left fun piece _ => (TemplatePiece.fill_cons item values piece).symm

/-- Only the tokens that a tidy template is made from occur in it. -/
theorem Token.mem_names_of_occurs {name : Text} (free : Token.BraceFree name)
    {pieces : List TemplatePiece} (tidy : ∀ piece ∈ pieces, piece.Tidy)
    (occurs : Token.ofName name <:+: TemplatePiece.join pieces) :
    name ∈ TemplatePiece.names pieces := by
  induction pieces with
  | nil => exact absurd (List.infix_nil.mp occurs) (Token.ofName_ne_nil name)
  | cons piece pieces inductionHypothesis =>
      rcases List.forall_mem_cons.mp tidy with ⟨pieceTidy, restTidy⟩
      rcases Text.infix_or_straddles occurs with here | later | across
      · cases piece with
        | text content =>
            exact absurd (fun member => pieceTidy (here.subset member)) (not_plain_ofName name)
        | token other =>
            have same := eq_of_ofName_infix pieceTidy free here
            rw [same]
            exact List.mem_cons_self
      · have inRest := inductionHypothesis restTidy later
        cases piece with
        | text content => exact inRest
        | token other => exact List.mem_cons_of_mem other inRest
      · exact absurd (dangling_of_straddles free across)
          (TemplatePiece.not_dangling_source pieceTidy)

/-! ## Texts that carry tokens -/

/-- All braces that open in a text are those of tokens with these names, in this order. -/
def Text.Carries (text : Text) (names : List Text) : Prop :=
  ∃ pieces : List TemplatePiece, (∀ piece ∈ pieces, piece.Tidy) ∧
    TemplatePiece.names pieces = names ∧ TemplatePiece.join pieces = text

namespace Text.Carries

variable {text left right : Text} {names before after : List Text} {name : Text}

theorem of_plain (plain : Plain text) : Carries text [] :=
  ⟨[.text text], List.forall_mem_singleton.mpr plain, rfl, List.append_nil text⟩

theorem ofName (free : Token.BraceFree name) : Carries (Token.ofName name) [name] :=
  ⟨[.token name], List.forall_mem_singleton.mpr free, rfl, List.append_nil _⟩

theorem append (leftCarries : Carries left before) (rightCarries : Carries right after) :
    Carries (left ++ right) (before ++ after) := by
  rcases leftCarries with ⟨first, firstTidy, rfl, rfl⟩
  rcases rightCarries with ⟨second, secondTidy, rfl, rfl⟩
  refine ⟨first ++ second, ?_, List.filterMap_append, TemplatePiece.join_append first second⟩
  exact fun piece member => (List.mem_append.mp member).elim (firstTidy piece) (secondTidy piece)

theorem plain (carries : Carries text []) : Plain text := by
  rcases carries with ⟨pieces, tidy, none, rfl⟩
  apply Plain.flatMap
  intro piece member
  have noName := List.filterMap_eq_nil_iff.mp none piece member
  cases piece with
  | text content => exact tidy _ member
  | token name => cases noName

theorem not_occurs (carries : Carries text names) (free : Token.BraceFree name)
    (absent : name ∉ names) : ¬ Token.ofName name <:+: text := by
  rcases carries with ⟨pieces, tidy, rfl, rfl⟩
  exact fun occurs => absent (Token.mem_names_of_occurs free tidy occurs)

theorem not_dangling (carries : Carries text names) : ¬ Token.Dangling text := by
  rcases carries with ⟨pieces, tidy, _, rfl⟩
  exact TemplatePiece.not_dangling_join tidy

/-- A text comes apart at each of its tokens. -/
theorem split (carries : Carries text (before ++ name :: after)) :
    ∃ left right, text = left ++ (Token.ofName name ++ right) ∧
      Carries left before ∧ Carries right after := by
  rcases carries with ⟨pieces, tidy, same, rfl⟩
  rcases List.filterMap_eq_append_iff.mp same with ⟨front, rest, rfl, frontNames, restNames⟩
  rcases List.filterMap_eq_cons_iff.mp restNames with
    ⟨texts, piece, back, rfl, noNames, isToken, backNames⟩
  have tokenSource : piece.source = Token.ofName name := by
    cases piece with
    | text content => cases isToken
    | token other =>
        rw [Option.some.inj isToken]
        rfl
  refine ⟨TemplatePiece.join (front ++ texts), TemplatePiece.join back, ?_,
    ⟨front ++ texts, ?_, ?_, rfl⟩, ⟨back, ?_, backNames, rfl⟩⟩
  · simp only [TemplatePiece.join_append, TemplatePiece.join_cons, tokenSource, List.append_assoc]
  · intro other member
    apply tidy
    rw [← List.append_assoc]
    exact List.mem_append_left _ member
  · have none := List.filterMap_eq_nil_iff.mpr noNames
    rw [TemplatePiece.names, List.filterMap_append, none, List.append_nil]
    exact frontNames
  · intro other member
    exact tidy other
      (List.mem_append_right _ (List.mem_append_right _ (List.mem_cons_of_mem _ member)))

/-! ### Trimming -/

theorem of_cons {c : Char} (other : c ≠ '\x7b') (carries : Carries (c :: text) names) :
    Carries text names := by
  rcases carries with ⟨pieces, tidy, rfl, same⟩
  induction pieces with
  | nil => cases same
  | cons piece pieces inductionHypothesis =>
      rcases List.forall_mem_cons.mp tidy with ⟨pieceTidy, restTidy⟩
      cases piece with
      | token name => exact absurd (List.cons.inj same).1.symm other
      | text content =>
          cases content with
          | nil => exact inductionHypothesis restTidy same
          | cons d content =>
              have contentPlain : Plain content := fun member =>
                pieceTidy (List.mem_cons_of_mem d member)
              exact ⟨.text content :: pieces, List.forall_mem_cons.mpr ⟨contentPlain, restTidy⟩,
                rfl, (List.cons.inj same).2⟩

theorem of_concat {c : Char} (other : c ≠ '\x7d') (carries : Carries (text ++ [c]) names) :
    Carries text names := by
  rcases carries with ⟨pieces, tidy, rfl, same⟩
  induction pieces using List.reverseRecOn with
  | nil => exact absurd same.symm (List.append_ne_nil_of_right_ne_nil text (List.cons_ne_nil c []))
  | append_singleton pieces piece inductionHypothesis =>
      have restTidy : ∀ piece ∈ pieces, piece.Tidy := fun piece member =>
        tidy piece (List.mem_append_left _ member)
      rw [TemplatePiece.join_append, TemplatePiece.join_cons] at same
      cases piece with
      | token name =>
          have last := congrArg List.getLast? same
          rw [List.getLast?_concat] at last
          have closes : (TemplatePiece.join pieces ++ (Token.ofName name ++ [])).getLast? =
              some '\x7d' := by
            rw [List.append_nil, List.getLast?_append_of_ne_nil _ (Token.ofName_ne_nil name),
              Token.getLast?_ofName]
          exact absurd (Option.some.inj (last.symm.trans closes)) other
      | text content =>
          have sameNames : TemplatePiece.names (pieces ++ [.text content]) =
              TemplatePiece.names pieces := by
            rw [TemplatePiece.names, List.filterMap_append]
            exact List.append_nil _
          have contentPlain : Plain content :=
            tidy (.text content) (List.mem_append_right pieces List.mem_cons_self)
          rw [sameNames]
          change TemplatePiece.join pieces ++ (content ++ []) = text ++ [c] at same
          rw [List.append_nil] at same
          cases content using List.reverseRecOn with
          | nil =>
              rw [List.append_nil] at same
              exact sameNames ▸ inductionHypothesis restTidy same
          | append_singleton content d =>
              rw [← List.append_assoc] at same
              have shorter : Plain content := fun member =>
                contentPlain (List.mem_append_left _ member)
              have joined := (List.append_inj' same rfl).1
              rw [← joined]
              have inner : Carries (TemplatePiece.join pieces) (TemplatePiece.names pieces) :=
                ⟨pieces, restTidy, rfl, rfl⟩
              have whole := inner.append (of_plain shorter)
              rwa [List.append_nil] at whole

theorem trimStart (carries : Carries text names) : Carries (Text.trimStart text) names := by
  induction text with
  | nil => exact carries
  | cons c text inductionHypothesis =>
      unfold Text.trimStart
      by_cases blank : Text.isBlank c = true
      · rw [List.dropWhile_cons_of_pos blank]
        have other : c ≠ '\x7b' := fun brace => absurd blank (by rw [brace]; decide)
        exact inductionHypothesis (carries.of_cons other)
      · rw [List.dropWhile_cons_of_neg blank]
        exact carries

theorem trimEnd (carries : Carries text names) : Carries (Text.trimEnd text) names := by
  induction text using List.reverseRecOn with
  | nil => exact carries
  | append_singleton text c inductionHypothesis =>
      unfold Text.trimEnd
      rw [List.reverse_append, List.reverse_singleton, List.singleton_append]
      by_cases blank : Text.isBlank c = true
      · rw [List.dropWhile_cons_of_pos blank]
        have other : c ≠ '\x7d' := fun brace => absurd blank (by rw [brace]; decide)
        exact inductionHypothesis (carries.of_concat other)
      · rw [List.dropWhile_cons_of_neg blank, List.reverse_cons, List.reverse_reverse]
        exact carries

/-- Blanks at the ends have no part in the tokens of a text. -/
theorem trim (carries : Carries text names) : Carries (Text.trim text) names :=
  carries.trimStart.trimEnd

end Text.Carries
end MediaSite
