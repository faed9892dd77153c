namespace Roster

/-- A circle is a group or a team; circles of different kinds have nothing in common. -/
inductive Kind where
  | group
  | team
  deriving DecidableEq, Repr, Inhabited

namespace Kind

def all : List Kind := [group, team]

def name : Kind → String
  | group => "group"
  | team => "team"

def plural : Kind → String
  | group => "groups"
  | team => "teams"

end Kind

end Roster
