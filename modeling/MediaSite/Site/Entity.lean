import MediaSite.Library.Record

namespace MediaSite

/-!
# Entities

An entity is a record in the role of what a template is rendered for.
Seasons and episodes carry their show along, so that fields of the show can be
used inside them.
-/

/-- What a template is rendered for. -/
inductive Entity where
  | movie (movie : Movie)
  | tvShow (tvShow : TvShow)
  | season (tvShow : TvShow) (number : UInt16)
  | episode (tvShow : TvShow) (episode : Episode)
  | concert (concert : Concert)

namespace Entity

/-- The kind of an entity. -/
def kind : Entity → Kind
  | .movie _ => .movie
  | .tvShow _ => .tvShow
  | .season _ _ => .season
  | .episode _ _ => .episode
  | .concert _ => .concert

/-- The id of an entity; a season has that of its show. -/
def id : Entity → UInt64
  | .movie record => record.id
  | .tvShow record => record.id
  | .season record _ => record.id
  | .episode _ record => record.id
  | .concert record => record.id

/-- The title of an entity; a season has that of its show. -/
def title : Entity → Text
  | .movie record => record.title
  | .tvShow record => record.title
  | .season record _ => record.title
  | .episode _ record => record.title
  | .concert record => record.title

/-- The pictures of an entity; a season has none. -/
def images : Entity → ImagePaths
  | .movie record => record.images
  | .tvShow record => record.images
  | .season _ _ => fun _ => none
  | .episode _ record => record.images
  | .concert record => record.images

end Entity
end MediaSite
