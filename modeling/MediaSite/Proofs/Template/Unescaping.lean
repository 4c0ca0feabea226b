import MediaSite.Proofs.Text.Search
import MediaSite.Template.Escape

namespace MediaSite

/-!
# Escaping is safe and can be undone

A value goes through passes before it stands in a page: four characters become their
HTML entities, then the opening brace becomes one, and in prose each line end becomes a
line break.  No pass touches what the passes before it have put in, so together they
replace each character on its own (`escape_eq_passes`, `breakLines_eq_replaceAll`).

Hence an escaped text consists of entities and of characters that need none.  An
ampersand is only ever the first character of an entity (`EscapedText`), a bracket only
ever part of a line break (`EscapedProse`).  A pass that reads entities back from left
to right therefore never begins in the middle of one, and gives the value back.
-/

open scoped Text

namespace Html

/-! ## Entities -/

/-- The entities that escaping writes, each with the character it stands for. -/
def entities : List (Text × Char) :=
  [("&amp;", '&'), ("&lt;", '<'), ("&gt;", '>'), ("&quot;", '"'), ("&#123;", '\x7b')]

/-- The entity that a text begins with. -/
def entityAtStart? (html : Text) : Option (Text × Char) :=
  entities.find? fun entity => entity.1.isPrefixOf html

/-- The decoding pass, with `skip` characters of an entity still to drop. -/
def unescapeFrom : Nat → Text → Text
  | _, [] => []
  | skip + 1, _ :: rest => unescapeFrom skip rest
  | 0, c :: rest =>
    match entityAtStart? (c :: rest) with
    | some entity => entity.2 :: unescapeFrom (entity.1.length - 1) rest
    | none => c :: unescapeFrom 0 rest

/-- Replace entities by their characters, in one pass from left to right. -/
def unescape (html : Text) : Text :=
  unescapeFrom 0 html

/-- A character becomes its entity, or has none and stays. -/
theorem escapeChar_cases (c : Char) :
    (escapeChar c, c) ∈ entities ∨ escapeChar c = [c] ∧ c ∉ entities.map Prod.snd := by
  unfold escapeChar
  split
  · decide
  · decide
  · decide
  · decide
  · decide
  · rename_i noAmpersand noLess noGreater noQuote noBrace
    right
    refine ⟨rfl, ?_⟩
    simp only [entities, List.map_cons, List.map_nil, List.mem_cons, List.not_mem_nil, or_false,
      not_or]
    exact ⟨noAmpersand, noLess, noGreater, noQuote, noBrace⟩

theorem entityAtStart?_eq_none {c : Char} (other : c ≠ '&') (rest : Text) :
    entityAtStart? (c :: rest) = none := by
  simp [entityAtStart?, entities, other.symm]

theorem unescape_cons_of_ne {c : Char} (other : c ≠ '&') (rest : Text) :
    unescape (c :: rest) = c :: unescape rest := by
  rw [unescape, unescapeFrom, entityAtStart?_eq_none other]
  rfl

theorem unescape_entity_append {entity : Text × Char} (member : entity ∈ entities) (rest : Text) :
    unescape (entity.1 ++ rest) = entity.2 :: unescape rest := by
  simp only [entities, List.mem_cons, List.not_mem_nil, or_false] at member
  rcases member with rfl | rfl | rfl | rfl | rfl <;> rfl

/-- What is written for a character is read back, whatever follows. -/
theorem unescape_escapeChar_append (c : Char) (rest : Text) :
    unescape (escapeChar c ++ rest) = c :: unescape rest := by
  rcases escapeChar_cases c with isEntity | ⟨stays, unnamed⟩
  · exact unescape_entity_append isEntity rest
  · have other : c ≠ '&' := fun same => unnamed (by rw [same]; decide)
    rw [stays, List.singleton_append, unescape_cons_of_ne other]

theorem unescape_escape (text : Text) : unescape (escape text) = text := by
  induction text with
  | nil => rfl
  | cons c text inductionHypothesis =>
      rw [escape, List.flatMap_cons, unescape_escapeChar_append]
      exact congrArg (c :: ·) inductionHypothesis

/-! ## Where a character can stand -/

/-- What stands around a character of a text that is made part by part. -/
theorem exists_part {α : Type} {items : List α} {part : α → Text} {before after : Text} {c : Char}
    (same : items.flatMap part = before ++ c :: after) :
    ∃ front item back left right, items = front ++ item :: back ∧ part item = left ++ c :: right ∧
      before = front.flatMap part ++ left ∧ after = right ++ back.flatMap part := by
  induction items generalizing before with
  | nil => exact absurd same.symm (List.append_ne_nil_of_right_ne_nil before (List.cons_ne_nil _ _))
  | cons item items inductionHypothesis =>
      rw [List.flatMap_cons] at same
      rcases List.append_eq_append_iff.mp same with ⟨middle, split, later⟩ | ⟨middle, split, rest⟩
      · rcases inductionHypothesis later with
          ⟨front, found, back, left, right, rfl, inPart, rfl, rfl⟩
        refine ⟨item :: front, found, back, left, right, rfl, inPart, ?_, rfl⟩
        rw [List.flatMap_cons, split, List.append_assoc]
      · cases middle with
        | nil =>
            have atStart : items.flatMap part = [] ++ c :: after := rest.symm
            rcases inductionHypothesis atStart with
              ⟨front, found, back, left, right, rfl, inPart, empty, rfl⟩
            refine ⟨item :: front, found, back, left, right, rfl, inPart, ?_, rfl⟩
            rw [List.flatMap_cons, split, List.append_nil, List.append_assoc, ← empty,
              List.append_nil]
        | cons d middle =>
            rcases List.cons.inj rest with ⟨rfl, behind⟩
            exact ⟨[], item, items, before, middle, rfl, split, rfl, behind⟩

/-- No character with a meaning in HTML or in templates stands in an escaped text, and each
ampersand begins an entity. -/
structure EscapedText (html : Text) : Prop where
  noMarkup : '<' ∉ html ∧ '>' ∉ html ∧ '"' ∉ html ∧ '\x7b' ∉ html
  ampersands : ∀ before after, html = before ++ '&' :: after →
    ∃ entity ∈ entities, entity.1 <+: '&' :: after

/-- A character with an entity that stands in none is not in an escaped text. -/
theorem not_mem_escape {special : Char} (named : special ∈ entities.map Prod.snd)
    (unused : ∀ entity ∈ entities, special ∉ entity.1) (text : Text) : special ∉ escape text := by
  intro member
  rcases List.mem_flatMap.mp member with ⟨source, _, inPart⟩
  rcases escapeChar_cases source with isEntity | ⟨stays, unnamed⟩
  · exact unused _ isEntity inPart
  · rw [stays, List.mem_singleton] at inPart
    exact unnamed (inPart ▸ named)

/-- The ampersand of an entity is its first character. -/
theorem ampersand_not_mem_tail {entity : Text × Char} (member : entity ∈ entities) :
    '&' ∉ entity.1.tail := by
  revert entity
  decide

theorem escapedText_escape (text : Text) : EscapedText (escape text) := by
  constructor
  · exact ⟨not_mem_escape (by decide) (by decide) text, not_mem_escape (by decide) (by decide) text,
      not_mem_escape (by decide) (by decide) text, not_mem_escape (by decide) (by decide) text⟩
  · intro before after same
    rcases exists_part same with ⟨_, source, back, left, right, _, inPart, _, rfl⟩
    rcases escapeChar_cases source with isEntity | ⟨stays, unnamed⟩
    · refine ⟨_, isEntity, ?_⟩
      cases left with
      | nil =>
          rw [inPart]
          exact List.prefix_append ('&' :: right) _
      | cons first left =>
          have late := ampersand_not_mem_tail isEntity
          rw [inPart] at late
          exact absurd (List.mem_append_right left List.mem_cons_self) late
    · rw [stays] at inPart
      cases left with
      | nil =>
          have ampersand : source = '&' := (List.cons.inj inPart).1
          exact absurd (by rw [ampersand]; decide) unnamed
      | cons first left => exact absurd (List.cons.inj inPart).2.symm (by simp)

/-! ## Prose -/

/-- What stands for a line end in a page. -/
def lineBreak : Text :=
  "<br />"

/-- An escaped text stands on one line, and its brackets are those of line breaks. -/
structure EscapedProse (html : Text) : Prop where
  oneLine : '\n' ∉ html
  opens : ∀ before after, html = before ++ '<' :: after → lineBreak <+: '<' :: after
  closes : ∀ before after, html = before ++ '>' :: after → lineBreak <:+ before ++ ['>']

/-- The line breaks of a text without brackets are read back. -/
theorem replaceAll_breakLines {text : Text} (noBracket : '<' ∉ text) :
    Text.replaceAll lineBreak ['\n'] (breakLines text) = text := by
  have nonempty : lineBreak ≠ [] := by decide
  induction text with
  | nil => rfl
  | cons c text inductionHypothesis =>
      have later := inductionHypothesis fun member => noBracket (List.mem_cons_of_mem c member)
      rw [breakLines, List.flatMap_cons]
      by_cases lineEnd : c = '\n'
      · rw [if_pos lineEnd, lineEnd]
        exact (Text.replaceAll_needle_append nonempty ['\n'] _).trans
          (congrArg ('\n' :: ·) later)
      · have miss : ¬ lineBreak <+: c :: breakLines text := by
          rintro ⟨rest, same⟩
          have bracket : '<' = c := (List.cons.inj same).1
          exact noBracket (bracket ▸ List.mem_cons_self)
        rw [if_neg lineEnd, List.singleton_append]
        exact (Text.replaceAll_cons_of_miss miss ['\n']).trans (congrArg (c :: ·) later)

/-- Read line breaks back as line ends, and then entities as their characters. -/
def unescapeLines (html : Text) : Text :=
  unescape (Text.replaceAll lineBreak ['\n'] html)

theorem unescapeLines_escapeLines (text : Text) : unescapeLines (escapeLines text) = text := by
  have absent : '<' ∉ escape text := (escapedText_escape text).noMarkup.1
  rw [unescapeLines, escapeLines, replaceAll_breakLines absent, unescape_escape]

/-- What is not in a text, and is no line end, stands in a line break of its prose. -/
theorem exists_lineBreak {text before after : Text} {c : Char} (absent : c ∉ text)
    (same : breakLines text = before ++ c :: after) :
    ∃ front back left right, lineBreak = left ++ c :: right ∧ before = front ++ left ∧
      after = right ++ back := by
  rcases exists_part same with ⟨front, source, back, left, right, rfl, inPart, rfl, rfl⟩
  by_cases lineEnd : source = '\n'
  · rw [if_pos lineEnd] at inPart
    exact ⟨_, _, left, right, inPart, rfl, rfl⟩
  · rw [if_neg lineEnd] at inPart
    have isSource : c ∈ [source] := inPart ▸ List.mem_append_right left List.mem_cons_self
    rw [List.mem_singleton.mp isSource] at absent
    exact absurd (List.mem_append_right front List.mem_cons_self) absent

theorem escapedProse_escapeLines (text : Text) : EscapedProse (escapeLines text) := by
  have noMarkup := (escapedText_escape text).noMarkup
  constructor
  · intro member
    rcases List.mem_flatMap.mp member with ⟨source, _, inPart⟩
    by_cases lineEnd : source = '\n'
    · rw [if_pos lineEnd] at inPart
      exact absurd inPart (by decide)
    · rw [if_neg lineEnd] at inPart
      exact lineEnd (List.mem_singleton.mp inPart).symm
  · intro before after same
    rcases exists_lineBreak noMarkup.1 same with ⟨_, back, left, right, whole, _, rfl⟩
    -- The bracket is the first character of the line break, for there is only this one.
    cases left with
    | nil =>
        rw [whole]
        exact List.prefix_append ('<' :: right) back
    | cons first left =>
        have tail : lineBreak.tail = left ++ '<' :: right := congrArg List.tail whole
        have late : '<' ∈ lineBreak.tail := tail ▸ List.mem_append_right left List.mem_cons_self
        exact absurd late (by decide)
  · intro before after same
    rcases exists_lineBreak noMarkup.2.1 same with ⟨front, _, left, right, whole, rfl, _⟩
    have only : ['<', 'b', 'r', ' ', '/'] ++ '>' :: [] = left ++ '>' :: right := whole
    have inFront : '>' ∉ left := by
      intro member
      have twice : 2 ≤ lineBreak.count '>' := by
        rw [whole, List.count_append, List.count_cons_self]
        have once := List.count_pos_iff.mpr member
        omega
      exact absurd twice (by decide)
    rcases Text.append_cons_inj (by decide) inFront only with ⟨rfl, _⟩
    rw [List.append_assoc]
    exact List.suffix_append front _

/-! ## The passes -/

/-- A character with its HTML entity. -/
def markupChar : Char → Text
  | '&' => "&amp;"
  | '<' => "&lt;"
  | '>' => "&gt;"
  | '"' => "&quot;"
  | c => [c]

theorem breakLines_eq_replaceAll (text : Text) :
    breakLines text = Text.replaceAll ['\n'] lineBreak text :=
  (Text.replaceAll_singleton '\n' lineBreak text).symm

/-- Escaping is the pass over the markup of HTML and after it the pass over braces. -/
theorem escape_eq_passes (text : Text) :
    escape text = Text.replaceAll ['\x7b'] "&#123;" (text.flatMap markupChar) := by
  rw [Text.replaceAll_singleton, List.flatMap_assoc]
  apply List.flatMap_congr
  intro c _
  unfold escapeChar markupChar
  split
  · rfl
  · rfl
  · rfl
  · rfl
  · rfl
  · rename_i noAmpersand noLess noGreater noQuote noBrace
    split
    · exact absurd rfl noAmpersand
    · exact absurd rfl noLess
    · exact absurd rfl noGreater
    · exact absurd rfl noQuote
    · rw [List.flatMap_cons, List.flatMap_nil, List.append_nil, if_neg noBrace]

/-! ## Safe and without loss -/

/-- Escaped texts have no markup but their entities, which are read back as the value; in
prose the line breaks are read back first.  So different values stay different, and texts
are escaped on either side of any seam.  The passes one after the other do nothing else. -/
theorem escape_faithful :
    (∀ text, EscapedText (escape text) ∧ unescape (escape text) = text ∧
      escape text = Text.replaceAll ['\x7b'] "&#123;" (text.flatMap markupChar)) ∧
    (∀ text, EscapedProse (escapeLines text) ∧ unescapeLines (escapeLines text) = text ∧
      escapeLines text = Text.replaceAll ['\n'] lineBreak (escape text)) ∧
    Function.Injective escape ∧ Function.Injective escapeLines ∧
    ∀ left right, escape (left ++ right) = escape left ++ escape right ∧
      escapeLines (left ++ right) = escapeLines left ++ escapeLines right := by
  refine ⟨fun text => ⟨escapedText_escape text, unescape_escape text, escape_eq_passes text⟩,
    fun text => ⟨escapedProse_escapeLines text, unescapeLines_escapeLines text,
      breakLines_eq_replaceAll _⟩,
    Function.LeftInverse.injective unescape_escape,
    Function.LeftInverse.injective unescapeLines_escapeLines, ?_⟩
  intro left right
  have joined : escape (left ++ right) = escape left ++ escape right := List.flatMap_append
  refine ⟨joined, ?_⟩
  rw [escapeLines, joined, breakLines, List.flatMap_append]
  rfl

end Html
end MediaSite
