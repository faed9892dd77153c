import Roster.Http.Header

namespace Roster.Http

/-- A media type in lower case; its parameters are checked and dropped. -/
structure MediaType where
  top : String
  sub : String
  suffix : Option String
  deriving DecidableEq, Repr

namespace MediaType

def isQuotedChar (c : Char) : Bool :=
  32 ≤ c.toNat && c.toNat != 127

/-- What is left after a quoted value. A quote that opens the value twice belongs to it. -/
def afterQuoted? : List Char → Option (List Char)
  | [] => none
  | c :: rest =>
    if isQuotedChar c then
      match rest.dropWhile fun d ↦ isQuotedChar d && d != '"' with
      | '"' :: rest => some rest
      | _ => none
    else none

def afterValue? : List Char → Option (List Char)
  | '"' :: quoted => do
    match (← afterQuoted? quoted).dropWhile (· == ' ') with
    | [] => some []
    | ';' :: rest => some rest
    | _ => none
  | value =>
    match value.dropWhile isTokenChar with
    | [] => some []
    | ';' :: rest => if (value.takeWhile isTokenChar).isEmpty then none else some rest
    | _ => none

def afterParameter? (cs : List Char) : Option (List Char) :=
  match cs.dropWhile isTokenChar with
  | '=' :: value => if (cs.takeWhile isTokenChar).isEmpty then none else afterValue? value
  | _ => none

def areParameters : (bound : Nat) → List Char → Bool
  | 0, cs => cs.isEmpty
  | bound + 1, cs =>
    match cs.dropWhile (· == ' ') with
    | [] => true
    | cs => (afterParameter? cs).elim false (areParameters bound)

def ofText? (s : String) : Option MediaType := do
  let cs := s.toList
  let (top, rest) ← Text.splitFirst (· == '/') cs
  guard (!top.isEmpty && top.all isTokenChar)
  let name := rest.takeWhile (· != ';')
  guard (name.all isTokenChar)
  match rest.dropWhile (· != ';') with
  | [] => pure ()
  | _ :: parameters => guard (!name.isEmpty && areParameters cs.length parameters)
  let lower := fun (cs : List Char) ↦ String.ofList (cs.map Char.toLower)
  match Text.splitLast (· == '+') (name.drop 1) with
  | some (sub, suffix) => return ⟨lower top, lower (name.take 1 ++ sub), some (lower suffix)⟩
  | none => return ⟨lower top, lower name, none⟩

def isJson (m : MediaType) : Bool :=
  m.top == "application" && (m.sub == "json" || m.suffix == some "json")

end MediaType

def Headers.announceJson (headers : Headers) : Bool :=
  let type? := do MediaType.ofText? (← (← headers.get? "content-type").text?)
  (type?.map MediaType.isJson).getD false

end Roster.Http
