import Roster.Identifier
import Roster.Slug
import Roster.Timestamp

namespace Roster

/-- The time of an operation, ids that nothing has yet, and suffixes for slugs that are taken. -/
structure Fresh where
  now : Timestamp
  userId : UserId
  circleId : CircleId
  suffixes : List Slug.Suffix

def Fresh.candidates (f : Fresh) (base : String) : List String :=
  (f.suffixes.take Slug.attempts).map (Slug.withSuffix base)

end Roster
