import Roster.Listing
import Roster.Sql.Like
import Roster.Sql.Statement

namespace Roster

def SortOrder.keyword : SortOrder → String
  | asc => "ASC"
  | desc => "DESC"

namespace Sql

/-- A count as a parameter: at most the greatest signed 64-bit number. -/
def countValue (n : Nat) : Value :=
  .int (min n Int64.maxValue.toInt)

def countOf (n : Int) : Nat :=
  (n % UInt64.size).toNat

def searchArgs (l : Listing) : List Value :=
  if l.search.isEmpty then [] else [.text (likePattern l.search)]

def pageClause (n : Nat) : String :=
  s!"LIMIT ${n + 1} OFFSET ${n + 2}"

def pageArgs (l : Listing) : List Value :=
  [countValue l.limit, countValue l.offset]

end Sql

end Roster
