import MediaSite.Library.Calendar
import MediaSite.Site.Layout

namespace MediaSite

/-!
# Records of a media library

A library holds movies, shows with their episodes, and concerts.  Every field
has a default, so a record says only what is known.  Numbers have the width
that the library format gives them.  Tables with a fixed set of keys, such as
the pictures of an item by role, are functions from the key to what is known.
-/

/-- One rating from one source. -/
structure Rating where
  source : Text := []
  value : Float := 0
  votes : UInt32 := 0

/-- A person in a cast. -/
structure Actor where
  name : Text := []
  role : Text := []
  deriving DecidableEq

/-- The colour that a user gave a movie. -/
inductive ColorLabel where
  | none
  | red
  | orange
  | yellow
  | green
  | blue
  | purple
  | grey
  deriving DecidableEq, Repr

/-- What is known of a video stream. -/
inductive VideoDetail where
  | codec
  | aspect
  | width
  | height
  | duration
  | scanType
  | stereoMode
  deriving DecidableEq, Repr

/-- What is known of an audio track. -/
inductive AudioDetail where
  | codec
  | language
  | channels
  deriving DecidableEq, Repr

/-- What is known of a subtitle track. -/
inductive SubtitleDetail where
  | language
  deriving DecidableEq, Repr

/-- The technical details of a media file: one video stream and any number of
audio and subtitle tracks. -/
structure StreamDetails where
  video : VideoDetail → Option Text := fun _ => .none
  audio : List (AudioDetail → Option Text) := []
  subtitles : List (SubtitleDetail → Option Text) := []

/-- The pictures of an item by role. -/
abbrev ImagePaths := ImageRole → Option Path

/-- A movie. -/
structure Movie where
  id : UInt64 := 0
  title : Text := []
  originalTitle : Text := []
  sortTitle : Option Text := .none
  imdbId : Text := []
  tmdbId : Text := []
  overview : Text := []
  outline : Text := []
  tagline : Text := []
  set : Option Text := .none
  genres : List Text := []
  countries : List Text := []
  studios : List Text := []
  tags : List Text := []
  writer : Text := []
  director : Text := []
  certification : Text := []
  trailer : Text := []
  label : ColorLabel := .none
  ratings : List Rating := []
  /-- Minutes. -/
  runtime : UInt32 := 0
  playCount : UInt32 := 0
  released : Option Date := .none
  lastPlayed : Option DateTime := .none
  dateAdded : Option DateTime := .none
  fileLastModified : Option DateTime := .none
  files : List Path := []
  actors : List Actor := []
  streamDetails : StreamDetails := {}
  images : ImagePaths := fun _ => .none

/-- An episode of a show.  Season zero holds specials. -/
structure Episode where
  id : UInt64 := 0
  title : Text := []
  season : UInt16 := 0
  number : UInt16 := 0
  ratings : List Rating := []
  certification : Text := []
  firstAired : Option Date := .none
  lastPlayed : Option DateTime := .none
  network : Text := []
  overview : Text := []
  writers : List Text := []
  directors : List Text := []
  streamDetails : StreamDetails := {}
  images : ImagePaths := fun _ => .none
  /-- Stands for an episode that is missing; never exported. -/
  dummy : Bool := false

/-- A show with its episodes. -/
structure TvShow where
  id : UInt64 := 0
  title : Text := []
  sortTitle : Option Text := .none
  imdbId : Text := []
  ratings : List Rating := []
  certification : Text := []
  firstAired : Option Date := .none
  network : Text := []
  overview : Text := []
  tags : List Text := []
  genres : List Text := []
  actors : List Actor := []
  images : ImagePaths := fun _ => .none
  episodes : List Episode := []

/-- A recorded concert. -/
structure Concert where
  id : UInt64 := 0
  title : Text := []
  sortTitle : Option Text := .none
  artist : Text := []
  album : Text := []
  tagline : Text := []
  ratings : List Rating := []
  released : Option Date := .none
  /-- Minutes. -/
  runtime : UInt32 := 0
  certification : Text := []
  trailer : Text := []
  playCount : UInt32 := 0
  lastPlayed : Option DateTime := .none
  overview : Text := []
  tags : List Text := []
  genres : List Text := []
  streamDetails : StreamDetails := {}
  images : ImagePaths := fun _ => .none

/-- Everything that a site is made from. -/
structure Library where
  movies : List Movie := []
  tvShows : List TvShow := []
  concerts : List Concert := []

/-! ## Names of keys and labels -/

open scoped Text

namespace ColorLabel

/-- All labels. -/
def all : List ColorLabel :=
  [.none, .red, .orange, .yellow, .green, .blue, .purple, .grey]

/-- The name of a label in a library. -/
def name : ColorLabel → Text
  | .none => "none"
  | .red => "red"
  | .orange => "orange"
  | .yellow => "yellow"
  | .green => "green"
  | .blue => "blue"
  | .purple => "purple"
  | .grey => "grey"

/-- The colour shown on a page; a movie without a label is white. -/
def shown : ColorLabel → Text
  | .none => "white"
  | label => label.name

/-- The label with a name; `white` is another name for no label. -/
def ofName? (text : Text) : Option ColorLabel :=
  if text = "white" then some .none else all.find? (·.name == text)

end ColorLabel

namespace VideoDetail

/-- All video details, in their order. -/
def all : List VideoDetail :=
  [.codec, .aspect, .width, .height, .duration, .scanType, .stereoMode]

/-- The name of a video detail in a library. -/
def name : VideoDetail → Text
  | .codec => "codec"
  | .aspect => "aspect"
  | .width => "width"
  | .height => "height"
  | .duration => "durationinseconds"
  | .scanType => "scantype"
  | .stereoMode => "stereomode"

end VideoDetail

namespace AudioDetail

/-- All audio details, in their order. -/
def all : List AudioDetail :=
  [.codec, .language, .channels]

/-- The name of an audio detail in a library. -/
def name : AudioDetail → Text
  | .codec => "codec"
  | .language => "language"
  | .channels => "channels"

end AudioDetail

namespace SubtitleDetail

/-- All subtitle details. -/
def all : List SubtitleDetail :=
  [.language]

/-- The name of a subtitle detail in a library. -/
def name : SubtitleDetail → Text
  | .language => "language"

end SubtitleDetail
end MediaSite
