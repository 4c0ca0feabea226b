import MediaSite.Text.Basic

namespace MediaSite

/-!
# Escaping for HTML

Values are escaped character by character.  Besides the four characters with a
meaning in HTML the opening brace is escaped, so that no value can form a
token of a template.
-/

open scoped Text

namespace Html

/-- A character as it stands in a page. -/
def escapeChar : Char → Text
  | '&' => "&amp;"
  | '<' => "&lt;"
  | '>' => "&gt;"
  | '"' => "&quot;"
  | '\x7b' => "&#123;"
  | c => [c]

/-- A text as it stands in a page. -/
def escape (text : Text) : Text :=
  text.flatMap escapeChar

/-- Turn line ends into line breaks of the page. -/
def breakLines (text : Text) : Text :=
  text.flatMap fun c => if c = '\n' then "<br />" else [c]

/-- Prose as it stands in a page, line by line. -/
def escapeLines (text : Text) : Text :=
  breakLines (escape text)

/-- A list as it stands in a page. -/
def escapeList (texts : List Text) : Text :=
  escape (Text.join ", " texts)

end Html
end MediaSite
