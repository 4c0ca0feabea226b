import MediaSite.Proofs.Template.Markers

namespace MediaSite

/-!
# The names that stand in a text

`Token.names` finds tokens by the form of their names, without knowing which names
there are.  In a text that carries tokens it finds exactly the names that the text
carries, as often and in the order in which they stand there
(`Text.Carries.names_eq`), provided that these have the form of names.

Each token that is found has two opening braces of its own.  So a text in which fewer
braces open than a text carries has fewer tokens (`Text.Carries.length_remaining_lt`),
whatever stands between them.

What begins an image token has the form of a token up to the dot.  A text that carries
no name with this beginning has no image token at all (`ImageToken.all_of_no_image_name`).
-/

open scoped Text
open Text (Plain Carries)

namespace Token

/-! ## The form of a name -/

/-- A name has letters and dots only. -/
theorem forall_of_isName {name : Text} (proper : isName name = true) :
    ∀ c ∈ name, (isNameLetter c || c == '.') = true := by
  have joined : Text.join ['.'] (name.splitOn '.') = name := List.intercalate_splitOn '.'
  rw [← joined]
  apply Text.forall_mem_join fun c => (isNameLetter c || c == '.') = true
  · exact List.forall_mem_singleton.mpr (Bool.or_true _)
  intro part member c inPart
  have partProper := List.all_eq_true.mp proper part member
  rw [Bool.and_eq_true] at partProper
  rw [List.all_eq_true.mp partProper.2 c inPart, Bool.true_or]

theorem not_mem_of_isName {name : Text} (proper : isName name = true) {c : Char}
    (other : (isNameLetter c || c == '.') = false) : c ∉ name := by
  intro member
  rw [forall_of_isName proper c member] at other
  cases other

theorem braceFree_of_isName {name : Text} (proper : isName name = true) : BraceFree name :=
  ⟨not_mem_of_isName proper (by decide), not_mem_of_isName proper (by decide)⟩

/-! ## Finding names -/

/-- No token begins at the second brace of another. -/
theorem not_opening_prefix_of_blank (rest : Text) : ¬ opening <+: '\x7b' :: ' ' :: rest := by
  rintro ⟨after, same⟩
  exact absurd (List.cons.inj (List.cons.inj same).2).1 (by decide)

theorem nameAtStart?_eq_none {text : Text} (absent : ¬ opening <+: text) :
    nameAtStart? text = none := by
  have start : opening.isPrefixOf? text = none := by
    cases found : opening.isPrefixOf? text with
    | none => rfl
    | some rest =>
        exact absurd ⟨rest, List.isPrefixOf?_eq_some_iff_append_eq.mp found⟩ absent
  rw [nameAtStart?, start]
  rfl

/-- Where no token begins, the first character is passed over. -/
theorem names_cons_of_miss {c : Char} {rest : Text} (absent : ¬ opening <+: c :: rest) :
    names (c :: rest) = names rest := by
  rw [names, nameAtStart?_eq_none absent]
  rfl

theorem names_append_of_plain {left : Text} (plain : Plain left) (right : Text) :
    names (left ++ right) = names right := by
  induction left with
  | nil => rfl
  | cons c left inductionHypothesis =>
      have absent : ¬ opening <+: c :: (left ++ right) := by
        rintro ⟨rest, same⟩
        have brace : '\x7b' = c := (List.cons.inj same).1
        exact plain (brace ▸ List.mem_cons_self)
      rw [List.cons_append, names_cons_of_miss absent]
      exact inductionHypothesis fun member => plain (List.mem_cons_of_mem c member)

theorem nameAtStart?_ofName {name : Text} (proper : isName name = true) (rest : Text) :
    nameAtStart? (ofName name ++ rest) = some name := by
  have start : opening.isPrefixOf? (ofName name ++ rest) = some (name ++ (closing ++ rest)) := by
    apply List.isPrefixOf?_eq_some_iff_append_eq.mpr
    rw [ofName, List.append_assoc, List.append_assoc]
  have whole : (name ++ (closing ++ rest)).takeWhile (fun c => isNameLetter c || c == '.') =
      name := by
    rw [List.takeWhile_append_of_pos (forall_of_isName proper)]
    exact List.append_nil name
  have closes : closing.isPrefixOf (closing ++ rest) = true :=
    List.isPrefixOf_iff_prefix.mpr (List.prefix_append closing rest)
  rw [nameAtStart?, start]
  simp only [Option.bind_eq_bind, Option.bind_some, whole, proper, List.drop_left, closes,
    Bool.and_self, if_true]

/-- A token of a proper name is found, and the search goes on behind it. -/
theorem names_ofName_append {name : Text} (proper : isName name = true) (rest : Text) :
    names (ofName name ++ rest) = name :: names rest := by
  have found := nameAtStart?_ofName proper rest
  have noBrace : Plain (' ' :: (name ++ [' ', '\x7d', '\x7d'])) := by
    have inName := (braceFree_of_isName proper).1
    simp [Plain, inName]
  have second : names ('\x7b' :: ' ' :: (name ++ [' ', '\x7d', '\x7d']) ++ rest) = names rest := by
    rw [List.cons_append, List.cons_append, names_cons_of_miss (not_opening_prefix_of_blank _)]
    exact names_append_of_plain noBrace rest
  rw [ofName_eq, List.cons_append] at found ⊢
  rw [names, found, second]
  rfl

/-! ## Counting -/

/-- Each token that is found takes two opening braces. -/
theorem two_mul_length_names_le (text : Text) :
    2 * (names text).length ≤ text.count '\x7b' := by
  induction size : text.length using Nat.strong_induction_on generalizing text with
  | h size inductionHypothesis =>
      subst size
      cases text with
      | nil => exact Nat.le_refl 0
      | cons c rest =>
          by_cases start : opening <+: c :: rest
          · -- The braces of the opening are passed over together, since none begins at the second.
            rcases start with ⟨after, same⟩
            have split : c :: rest = '\x7b' :: '\x7b' :: ' ' :: after := same.symm
            rw [split] at inductionHypothesis ⊢
            have later := inductionHypothesis (' ' :: after).length (by simp) (' ' :: after) rfl
            have second : names ('\x7b' :: ' ' :: after) = names (' ' :: after) :=
              names_cons_of_miss (not_opening_prefix_of_blank after)
            have one : (nameAtStart? ('\x7b' :: '\x7b' :: ' ' :: after)).toList.length ≤ 1 := by
              cases nameAtStart? ('\x7b' :: '\x7b' :: ' ' :: after) <;> simp
            rw [names, second, List.length_append, List.count_cons_self, List.count_cons_self]
            omega
          · have later := inductionHypothesis rest.length (Nat.lt_succ_self _) rest rfl
            rw [names_cons_of_miss start]
            exact later.trans (List.count_le_count_cons)

end Token

namespace Text.Carries

variable {text : Text} {carried : List Text}

/-- The tokens that are found in a text are those that it carries. -/
theorem names_eq (carries : Carries text carried)
    (proper : ∀ name ∈ carried, Token.isName name = true) : Token.names text = carried := by
  rcases carries with ⟨pieces, tidy, rfl, rfl⟩
  induction pieces with
  | nil => rfl
  | cons piece pieces inductionHypothesis =>
      rcases List.forall_mem_cons.mp tidy with ⟨pieceTidy, restTidy⟩
      rw [TemplatePiece.join_cons]
      cases piece with
      | text content =>
          rw [TemplatePiece.source, Token.names_append_of_plain pieceTidy]
          exact inductionHypothesis restTidy proper
      | token name =>
          rcases List.forall_mem_cons.mp proper with ⟨nameProper, restProper⟩
          rw [TemplatePiece.source, Token.names_ofName_append nameProper]
          exact congrArg (name :: ·) (inductionHypothesis restTidy restProper)

/-- What remains of the tokens of a text are those that are no markers. -/
theorem remaining_eq (carries : Carries text carried)
    (proper : ∀ name ∈ carried, Token.isName name = true) :
    Token.remaining text = carried.filter fun name => !Block.isMarker name := by
  rw [Token.remaining, carries.names_eq proper]
  apply List.filter_congr
  intro name _
  rw [Block.isMarker, Block.isOpening, Bool.not_or]

/-- Two braces open for each name that a text carries. -/
theorem count_eq (carries : Carries text carried) : text.count '\x7b' = 2 * carried.length := by
  rcases carries with ⟨pieces, tidy, rfl, rfl⟩
  induction pieces with
  | nil => rfl
  | cons piece pieces inductionHypothesis =>
      rcases List.forall_mem_cons.mp tidy with ⟨pieceTidy, restTidy⟩
      have rest := inductionHypothesis restTidy
      rw [TemplatePiece.join_cons, List.count_append, rest]
      cases piece with
      | text content =>
          rw [TemplatePiece.source, List.count_eq_zero.mpr pieceTidy, Nat.zero_add]
          rfl
      | token name =>
          rw [TemplatePiece.source, Token.count_open_ofName pieceTidy]
          change _ = 2 * (TemplatePiece.names pieces).length.succ
          omega

/-- Where fewer braces open, fewer tokens remain. -/
theorem length_remaining_lt (carries : Carries text carried)
    (proper : ∀ name ∈ carried, Token.isName name = true)
    (noMarker : ∀ name ∈ carried, Block.isMarker name = false) {other : Text}
    (fewer : other.count '\x7b' < text.count '\x7b') :
    (Token.remaining other).length < (Token.remaining text).length := by
  have all : Token.remaining text = carried := by
    rw [carries.remaining_eq proper]
    exact List.filter_eq_self.mpr fun name member => by rw [noMarker name member]; rfl
  have found := Token.two_mul_length_names_le other
  have kept : (Token.remaining other).length ≤ (Token.names other).length :=
    List.length_filter_le _ _
  rw [carries.count_eq] at fewer
  rw [all]
  omega

end Text.Carries

/-! ## Image tokens -/

namespace ImageToken

variable {text : Text} {carried : List Text}

/-- How the name in an image token begins. -/
def nameStart : Text :=
  "IMAGE."

theorem nameStart_prefix_of_append {name rest : Text} (start : nameStart <+: name ++ ' ' :: rest) :
    nameStart <+: name := by
  rcases List.prefix_or_prefix_of_prefix start (List.prefix_append name _) with
    inside | ⟨behind, same⟩
  · exact inside
  · cases behind with
    | nil => rw [← same, List.append_nil]
    | cons c behind =>
        rw [← same, List.prefix_append_right_inj] at start
        rcases start with ⟨_, joined⟩
        have blank : c = ' ' := (List.cons.inj joined).1
        have noBlank : ' ' ∉ nameStart := by decide
        rw [← same, blank] at noBlank
        exact absurd (List.mem_append_right name List.mem_cons_self) noBlank

/-- The token of another name is passed over. -/
theorem all_ofName_append {name : Text} (free : Token.BraceFree name)
    (noImage : ¬ nameStart <+: name) (rest : Text) : all (Token.ofName name ++ rest) = all rest := by
  have first : ¬ opening <+: Token.ofName name ++ rest := by
    rintro ⟨after, same⟩
    rw [Token.ofName, List.append_assoc, List.append_assoc, opening, List.append_assoc] at same
    exact noImage (nameStart_prefix_of_append ⟨after, List.append_cancel_left same⟩)
  have second : ¬ opening <+: '\x7b' :: (' ' :: (name ++ [' ', '\x7d', '\x7d']) ++ rest) :=
    fun start => Token.not_opening_prefix_of_blank _ ((List.prefix_append _ _).trans start)
  have noBrace : Plain (' ' :: (name ++ [' ', '\x7d', '\x7d'])) := by
    simp [Plain, free.1]
  rw [Token.ofName_eq, List.cons_append] at first ⊢
  rw [all, pieces_of_none (shape?_eq_none first), List.cons_append,
    pieces_of_none (shape?_eq_none second)]
  exact all_append_of_plain noBrace rest

/-- A text without the name of an image has no image token. -/
theorem all_of_no_image_name (carries : Carries text carried)
    (noImage : ∀ name ∈ carried, ¬ nameStart <+: name) : all text = [] := by
  rcases carries with ⟨pieces, tidy, rfl, rfl⟩
  induction pieces with
  | nil =>
      unfold all TemplatePiece.join pieces
      rfl
  | cons piece pieces inductionHypothesis =>
      rcases List.forall_mem_cons.mp tidy with ⟨pieceTidy, restTidy⟩
      rw [TemplatePiece.join_cons]
      cases piece with
      | text content =>
          rw [TemplatePiece.source, all_append_of_plain pieceTidy]
          exact inductionHypothesis restTidy noImage
      | token name =>
          rcases List.forall_mem_cons.mp noImage with ⟨notThis, notLater⟩
          rw [TemplatePiece.source, all_ofName_append pieceTidy notThis]
          exact inductionHypothesis restTidy notLater

end ImageToken
end MediaSite
