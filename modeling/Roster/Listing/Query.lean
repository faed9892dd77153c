import Roster.Encoding.Form
import Roster.Listing

namespace Roster.Listing

def paramNames : List String := ["search", "sort", "order", "limit", "offset"]

def size? (s : String) : Option Nat :=
  Text.natUpTo? (UInt64.size - 1) s

/-- The value of a parameter that is not given twice. -/
def param? (pairs : List (String × String)) (name : String) : Option (Option String) :=
  match pairs.filter (·.1 == name) with
  | [] => some none
  | [(_, v)] => some (some v)
  | _ => none

def ofQuery? (query : String) : Option Listing := do
  let pairs := Form.parse (Bytes.ofText query)
  let search ← param? pairs "search"
  let sort ← param? pairs "sort"
  let order ← param? pairs "order"
  let limit ← (← param? pairs "limit").mapM size?
  let offset ← (← param? pairs "offset").mapM size?
  return ofParams search sort order limit offset

end Roster.Listing
