import MediaSite.Proofs.Text.Search
import MediaSite.Site.Field

namespace MediaSite

/-!
# Filling the tokens of a template

Fields are filled in one after the other, and each pass reads what the passes
before it have put in.  What a pass may join at the seam between two pieces of
a template is the question behind every statement about filling.

A token needs its closing braces.  A text that ends in an opening brace with
no closing braces behind it is `Dangling`: no pass ever takes that brace away.
So a piece that the passes leave without an opening brace cannot have reached
over its end at any time, and pieces of this kind are filled independently of
what follows them.
-/

open scoped Text

/-! ## Braces -/

/-- No brace opens in this text. -/
def Text.Plain (text : Text) : Prop :=
  '\x7b' ∉ text

instance (text : Text) : Decidable (Text.Plain text) :=
  inferInstanceAs (Decidable (¬ _))

/-- What holds of the characters of some parts and of a separator holds of those of the parts
joined. -/
theorem Text.forall_mem_join (good : Char → Prop) {separator : Text}
    (separatorGood : ∀ c ∈ separator, good c) {parts : List Text}
    (partsGood : ∀ part ∈ parts, ∀ c ∈ part, good c) : ∀ c ∈ join separator parts, good c := by
  unfold join
  induction parts with
  | nil => exact List.forall_mem_nil _
  | cons part parts inductionHypothesis =>
      rcases List.forall_mem_cons.mp partsGood with ⟨partGood, restGood⟩
      cases parts with
      | nil => rwa [List.intercalate_singleton]
      | cons next parts =>
          rw [List.intercalate_cons_cons]
          exact List.forall_mem_append.mpr
            ⟨List.forall_mem_append.mpr ⟨partGood, separatorGood⟩, inductionHypothesis restGood⟩

namespace Text.Plain

theorem append {left right : Text} (leftPlain : Plain left) (rightPlain : Plain right) :
    Plain (left ++ right) := by
  intro member
  rcases List.mem_append.mp member with inLeft | inRight
  · exact leftPlain inLeft
  · exact rightPlain inRight

theorem of_append_right {left right : Text} (plain : Plain (left ++ right)) : Plain right :=
  fun member => plain (List.mem_append_right left member)

theorem flatMap {α : Type} {items : List α} {part : α → Text}
    (plain : ∀ item ∈ items, Plain (part item)) : Plain (items.flatMap part) := by
  intro member
  rcases List.mem_flatMap.mp member with ⟨item, inItems, inPart⟩
  exact plain item inItems inPart

theorem join {separator : Text} (separatorPlain : Plain separator) {parts : List Text}
    (plain : ∀ part ∈ parts, Plain part) : Plain (Text.join separator parts) := fun brace =>
  forall_mem_join (· ≠ '\x7b') (fun _ member same => separatorPlain (same ▸ member))
    (fun part inParts _ member same => plain part inParts (same ▸ member)) _ brace rfl

/-- Nothing is replaced in a plain text if the needle opens a brace. -/
theorem replaceAll_eq {needle text : Text} (plain : Plain text) (opens : ¬ Plain needle)
    (value : Text) : replaceAll needle value text = text := by
  apply replaceAll_of_not_infix
  intro occurs
  exact opens fun member => plain (occurs.subset member)

end Text.Plain

namespace Token

/-- A name without braces. -/
def BraceFree (name : Text) : Prop :=
  '\x7b' ∉ name ∧ '\x7d' ∉ name

instance (name : Text) : Decidable (BraceFree name) :=
  inferInstanceAs (Decidable (_ ∧ _))

def endBraces : Text :=
  ['\x7d', '\x7d']

theorem ofName_eq (name : Text) :
    ofName name = '\x7b' :: '\x7b' :: ' ' :: (name ++ [' ', '\x7d', '\x7d']) := rfl

theorem ofName_ne_nil (name : Text) : ofName name ≠ [] := by
  rw [ofName_eq]
  exact List.cons_ne_nil _ _

/-- A token has the characters of its name, braces and spaces. -/
theorem not_mem_ofName {c : Char} (other : c ∉ ofName []) {name : Text} (absent : c ∉ name) :
    c ∉ ofName name := by
  intro member
  rw [ofName, List.append_assoc, List.mem_append, List.mem_append] at member
  rcases member with inOpening | inName | inClosing
  · exact other (List.mem_append_left closing inOpening)
  · exact absent inName
  · exact other (List.mem_append_right opening inClosing)

theorem not_plain_ofName (name : Text) : ¬ Text.Plain (ofName name) := by
  intro plain
  rw [ofName_eq] at plain
  exact plain List.mem_cons_self

theorem endBraces_infix_ofName (name : Text) : endBraces <:+: ofName name :=
  ⟨'\x7b' :: '\x7b' :: ' ' :: (name ++ [' ']), [], by simp [ofName_eq, endBraces]⟩

theorem head?_ofName (name : Text) : (ofName name).head? = some '\x7b' := rfl

theorem getLast?_ofName (name : Text) : (ofName name).getLast? = some '\x7d' := by
  have split : ofName name = ('\x7b' :: '\x7b' :: ' ' :: (name ++ [' ', '\x7d'])) ++ ['\x7d'] := by
    simp [ofName_eq]
  rw [split, List.getLast?_concat]

theorem count_open_ofName {name : Text} (free : BraceFree name) :
    (ofName name).count '\x7b' = 2 := by
  simp [ofName_eq, List.count_eq_zero.mpr free.1]

theorem count_close_ofName {name : Text} (free : BraceFree name) :
    (ofName name).count '\x7d' = 2 := by
  simp [ofName_eq, List.count_eq_zero.mpr free.2]

/-- Cut anywhere before its end, a token has lost one of its closing braces. -/
theorem not_endBraces_infix_front {name front back : Text} (free : BraceFree name)
    (split : ofName name = front ++ back) (backNonempty : back ≠ []) :
    ¬ endBraces <:+: front := by
  intro occurs
  have inFront : 2 ≤ front.count '\x7d' := by
    have atLeast := occurs.sublist.count_le '\x7d'
    simpa [endBraces] using atLeast
  have lastOfBack : back.getLast? = some '\x7d' := by
    rw [← getLast?_ofName name, split, List.getLast?_append_of_ne_nil front backNonempty]
  have inBack : 0 < back.count '\x7d' :=
    List.count_pos_iff.mpr (List.mem_of_getLast? lastOfBack)
  have total := count_close_ofName free
  rw [split, List.count_append] at total
  omega

/-- A token that opens a brace behind its beginning does so at its second character. -/
theorem front_of_brace_behind {name front back : Text} (free : BraceFree name)
    (split : ofName name = front ++ '\x7b' :: back) (frontNonempty : front ≠ []) :
    front = ['\x7b'] := by
  have total := count_open_ofName free
  rw [split] at total
  rw [ofName_eq] at split
  cases front with
  | nil => exact False.elim (frontNonempty rfl)
  | cons first front =>
      rw [List.cons_append] at split
      rcases List.cons.inj split with ⟨firstSame, split⟩
      cases front with
      | nil => rw [firstSame]
      | cons second front =>
          rw [List.cons_append] at split
          rcases List.cons.inj split with ⟨secondSame, split⟩
          rw [← firstSame, ← secondSame] at total
          simp at total

/-- Tokens of different names do not lie inside of each other. -/
theorem eq_of_ofName_infix {name other : Text} (free : BraceFree name) (otherFree : BraceFree other)
    (inside : ofName other <:+: ofName name) : other = name := by
  rcases inside with ⟨before, after, same⟩
  have opens := count_open_ofName free
  have closes := count_close_ofName free
  rw [← same, List.count_append, List.count_append, count_open_ofName otherFree] at opens
  rw [← same, List.count_append, List.count_append, count_close_ofName otherFree] at closes
  have beforeEmpty : before = [] := by
    cases before with
    | nil => rfl
    | cons first before =>
        rw [ofName_eq name] at same
        have firstSame : first = '\x7b' := (List.cons.inj same).1
        rw [firstSame, List.count_cons_self] at opens
        omega
  have afterEmpty : after = [] := by
    by_cases empty : after = []
    · exact empty
    · have last : after.getLast? = some '\x7d' := by
        rw [← getLast?_ofName name, ← same, List.getLast?_append_of_ne_nil _ empty]
      have another := List.count_pos_iff.mpr (List.mem_of_getLast? last)
      omega
  rw [beforeEmpty, afterEmpty, List.nil_append, List.append_nil] at same
  rw [ofName, ofName, List.append_assoc, List.append_assoc] at same
  exact List.append_cancel_right (List.append_cancel_left same)

/-! ## Braces that stay open -/

/-- Ends in an opening brace with no closing braces behind it. -/
def Dangling (text : Text) : Prop :=
  ∃ front back, text = front ++ '\x7b' :: back ∧ ¬ endBraces <:+: '\x7b' :: back

theorem Dangling.not_plain {text : Text} (dangling : Dangling text) : ¬ Text.Plain text := by
  rcases dangling with ⟨front, back, same, _⟩
  intro plain
  rw [same] at plain
  exact plain.of_append_right List.mem_cons_self

/-- Where a token lies across the end of a text, its first brace dangles there. -/
theorem dangling_of_straddles {name left right : Text} (free : BraceFree name)
    (across : Text.Straddles (ofName name) left right) : Dangling left := by
  rcases across with ⟨front, back, split, frontNonempty, backNonempty, atEnd, _⟩
  rcases atEnd with ⟨before, same⟩
  have opens : front.head? = some '\x7b' := by
    have first := head?_ofName name
    rw [split, List.head?_append_of_ne_nil _ frontNonempty] at first
    exact first
  rcases List.head?_eq_some_iff.mp opens with ⟨rest, frontSame⟩
  refine ⟨before, rest, ?_, ?_⟩
  · rw [← frontSame, same]
  · rw [← frontSame]
    exact not_endBraces_infix_front free split backNonempty

/-- No pass over tokens closes a dangling brace: an occurrence that reaches
the brace would bring closing braces behind it. -/
theorem Dangling.replaceAll {name text : Text} (free : BraceFree name) (dangling : Dangling text)
    (value : Text) : Dangling (Text.replaceAll (ofName name) value text) := by
  rcases dangling with ⟨front, back, same, unclosed⟩
  have seam : ¬ Text.Straddles (ofName name) front ('\x7b' :: back) := by
    rintro ⟨first, last, split, firstNonempty, lastNonempty, _, atStart⟩
    apply unclosed
    rcases atStart with ⟨after, joined⟩
    cases last with
    | nil => exact False.elim (lastNonempty rfl)
    | cons c last =>
        have brace : c = '\x7b' := (List.cons.inj joined).1
        rw [brace] at split
        have single := front_of_brace_behind free split firstNonempty
        rw [single, ofName_eq] at split
        have lastSame : last = ' ' :: (name ++ [' ', '\x7d', '\x7d']) :=
          (List.cons.inj (List.cons.inj split).2).2.symm
        rw [← joined, lastSame]
        exact ⟨c :: ' ' :: (name ++ [' ']), after, by simp [endBraces]⟩
  have absent : ¬ ofName name <:+: '\x7b' :: back := fun occurs =>
    unclosed ((endBraces_infix_ofName name).trans occurs)
  refine ⟨Text.replaceAll (ofName name) value front, back, ?_, unclosed⟩
  rw [same, Text.replaceAll_append (ofName_ne_nil name) seam,
    Text.replaceAll_of_not_infix absent]

end Token

/-! ## Filling in fields -/

/-- All names of a list of fields are without braces. -/
def BraceFreeNames (values : List (Text × Text)) : Prop :=
  ∀ item ∈ values, Token.BraceFree item.1

theorem BraceFreeNames.tail {item : Text × Text} {values : List (Text × Text)}
    (free : BraceFreeNames (item :: values)) : BraceFreeNames values :=
  (List.forall_mem_cons.mp free).2

theorem fillTokens_cons (item : Text × Text) (values : List (Text × Text)) (text : Text) :
    fillTokens (item :: values) text =
      fillTokens values (Text.replaceAll (Token.ofName item.1) item.2 text) := rfl

theorem fillTokens_append_values (before after : List (Text × Text)) (text : Text) :
    fillTokens (before ++ after) text = fillTokens after (fillTokens before text) :=
  List.foldl_append

theorem fillTokens_of_plain {text : Text} (plain : Text.Plain text)
    (values : List (Text × Text)) : fillTokens values text = text := by
  induction values with
  | nil => rfl
  | cons item values inductionHypothesis =>
      rw [fillTokens_cons, plain.replaceAll_eq (Token.not_plain_ofName item.1)]
      exact inductionHypothesis

/-- A dangling brace is still there when all fields have been filled in. -/
theorem Token.Dangling.fillTokens {values : List (Text × Text)} (free : BraceFreeNames values)
    {text : Text} (dangling : Token.Dangling text) :
    Token.Dangling (fillTokens values text) := by
  induction values generalizing text with
  | nil => exact dangling
  | cons item values inductionHypothesis =>
      rw [fillTokens_cons]
      exact inductionHypothesis free.tail
        (dangling.replaceAll (free item List.mem_cons_self) item.2)

/-- What becomes plain is filled independently of what follows it. -/
theorem fillTokens_append {values : List (Text × Text)} (free : BraceFreeNames values)
    {left : Text} (right : Text) (settles : Text.Plain (fillTokens values left)) :
    fillTokens values (left ++ right) = fillTokens values left ++ fillTokens values right := by
  induction values generalizing left right with
  | nil => rfl
  | cons item values inductionHypothesis =>
      have nameFree := free item List.mem_cons_self
      have seam : ¬ Text.Straddles (Token.ofName item.1) left right := by
        intro across
        have dangling := Token.dangling_of_straddles nameFree across
        exact (dangling.fillTokens free).not_plain settles
      rw [fillTokens_cons, Text.replaceAll_append (Token.ofName_ne_nil item.1) seam]
      exact inductionHypothesis free.tail _ settles

theorem replaceAll_ofName_of_ne {name other : Text} (free : Token.BraceFree name)
    (otherFree : Token.BraceFree other) (different : other ≠ name) (value : Text) :
    Text.replaceAll (Token.ofName other) value (Token.ofName name) = Token.ofName name := by
  apply Text.replaceAll_of_not_infix
  intro inside
  exact different (Token.eq_of_ofName_infix free otherFree inside)

/-- The token of a name stays while fields of other names are filled in. -/
theorem fillTokens_ofName_of_fresh {values : List (Text × Text)} {name : Text}
    (free : BraceFreeNames values) (nameFree : Token.BraceFree name)
    (fresh : name ∉ values.map Prod.fst) :
    fillTokens values (Token.ofName name) = Token.ofName name := by
  induction values with
  | nil => rfl
  | cons item values inductionHypothesis =>
      have different : item.1 ≠ name := by
        intro same
        apply fresh
        rw [List.map_cons, same]
        exact List.mem_cons_self
      rw [fillTokens_cons,
        replaceAll_ofName_of_ne nameFree (free item List.mem_cons_self) different]
      exact inductionHypothesis free.tail fun member => fresh (List.mem_cons_of_mem _ member)

/-- The token of a field becomes its value, into which the fields behind it
are filled. -/
theorem fillTokens_ofName {before after : List (Text × Text)} {name value : Text}
    (free : BraceFreeNames (before ++ (name, value) :: after))
    (fresh : name ∉ before.map Prod.fst) :
    fillTokens (before ++ (name, value) :: after) (Token.ofName name) = fillTokens after value := by
  have nameFree : Token.BraceFree name :=
    free (name, value) (List.mem_append_right before List.mem_cons_self)
  rw [fillTokens_append_values]
  have freeBefore : BraceFreeNames before :=
    fun item member => free item (List.mem_append_left _ member)
  rw [fillTokens_ofName_of_fresh freeBefore nameFree fresh, fillTokens_cons]
  have whole := Text.replaceAll_needle_append (Token.ofName_ne_nil name) value []
  rw [List.append_nil, Text.replaceAll_nil, List.append_nil] at whole
  rw [whole]

/-- Where no name has a line end, a template is filled line by line. -/
theorem fillTokens_line {values : List (Text × Text)} (lines : ∀ item ∈ values, '\n' ∉ item.1)
    (left right : Text) :
    fillTokens values (left ++ '\n' :: right) =
      fillTokens values left ++ '\n' :: fillTokens values right := by
  induction values generalizing left right with
  | nil => rfl
  | cons item values inductionHypothesis =>
      have line : '\n' ∉ Token.ofName item.1 :=
        Token.not_mem_ofName (by decide) (lines item List.mem_cons_self)
      rw [fillTokens_cons, Text.replaceAll_line (Token.ofName_ne_nil item.1) line]
      exact inductionHypothesis (List.forall_mem_cons.mp lines).2 _ _

/-! ## Templates in pieces -/

/-- A piece of a template: a text of its own, or a token. -/
inductive TemplatePiece where
  | text (content : Text)
  | token (name : Text)

namespace TemplatePiece

def source : TemplatePiece → Text
  | .text content => content
  | .token name => Token.ofName name

def join (pieces : List TemplatePiece) : Text :=
  pieces.flatMap source

end TemplatePiece

/-- If all pieces of a template become plain, the template is filled piece by piece. -/
theorem fillTokens_join {values : List (Text × Text)} (free : BraceFreeNames values)
    {pieces : List TemplatePiece}
    (settles : ∀ piece ∈ pieces, Text.Plain (fillTokens values piece.source)) :
    fillTokens values (TemplatePiece.join pieces) =
      pieces.flatMap fun piece => fillTokens values piece.source := by
  induction pieces with
  | nil => exact fillTokens_of_plain List.not_mem_nil values
  | cons piece pieces inductionHypothesis =>
      rw [TemplatePiece.join, List.flatMap_cons, List.flatMap_cons,
        fillTokens_append free _ (settles piece List.mem_cons_self)]
      have rest := inductionHypothesis (List.forall_mem_cons.mp settles).2
      rw [TemplatePiece.join] at rest
      rw [rest]

end MediaSite
