namespace Roster.Sql

def escapeLike (cs : List Char) : List Char :=
  cs.flatMap fun c ↦ if c == '\\' || c == '%' || c == '_' then ['\\', c] else [c]

def likePattern (search : String) : String :=
  String.ofList ('%' :: escapeLike search.toList ++ ['%'])

end Roster.Sql
