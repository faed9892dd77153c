import Roster.Json.Token

namespace Roster.Json

/-- An array or object that is still open, with what it holds so far, last first. -/
inductive Frame where
  | array (items : List Json)
  | object (entries : List (String × Json)) (key : String)

/-- What may come next. -/
inductive Want where
  | value
  | firstItem
  | firstKey (entries : List (String × Json))
  | key (entries : List (String × Json))
  | colon (entries : List (String × Json)) (key : String)
  | more (value : Json)

structure Reader where
  frames : List Frame
  want : Want

/-- A text as read: its value, and whether anything comes after it. -/
structure Document where
  root : Json
  hasMore : Bool

def close (frames : List Frame) (value : Json) : Json :=
  frames.foldl (fun value frame ↦ match frame with
    | .array items => .array (items.reverse ++ [value])
    | .object entries key => .object (entries.reverse ++ [(key, value)])) value

namespace Reader

def start : Reader :=
  ⟨[], .value⟩

/-- The value read if the text stops being JSON here. -/
def breakOff (r : Reader) : Json :=
  match r.want with
  | .value | .firstItem => close r.frames .broken
  | .firstKey entries | .key entries =>
    close r.frames (.object (entries.reverse ++ [("", .broken)]))
  | .colon entries key => close r.frames (.object (entries.reverse ++ [(key, .broken)]))
  | .more value =>
    match r.frames with
    | [] => value
    | .array items :: rest => close rest (.array ((value :: items).reverse ++ [.broken]))
    | .object entries key :: rest =>
      close rest (.object (((key, value) :: entries).reverse ++ [("", .broken)]))

def takeValue (frames : List Frame) : Token → Option Reader
  | .null => some ⟨frames, .more .null⟩
  | .bool b => some ⟨frames, .more (.bool b)⟩
  | .number n => some ⟨frames, .more (.number n)⟩
  | .string (some s) => some ⟨frames, .more (.text s)⟩
  | .string none => some ⟨frames, .more .garbled⟩
  | .openBracket => some ⟨.array [] :: frames, .firstItem⟩
  | .openBrace => some ⟨frames, .firstKey []⟩
  | _ => none

def step (r : Reader) (t : Token) : Option Reader :=
  match r.want, t with
  | .value, t => takeValue r.frames t
  | .firstItem, .closeBracket =>
    match r.frames with
    | .array items :: rest => some ⟨rest, .more (.array items.reverse)⟩
    | _ => none
  | .firstItem, t => takeValue r.frames t
  | .firstKey entries, .closeBrace => some ⟨r.frames, .more (.object entries.reverse)⟩
  | .firstKey entries, .string (some k) => some ⟨r.frames, .colon entries k⟩
  | .key entries, .string (some k) => some ⟨r.frames, .colon entries k⟩
  | .colon entries k, .colon => some ⟨.object entries k :: r.frames, .value⟩
  | .more value, t =>
    match r.frames, t with
    | .array items :: rest, .comma => some ⟨.array (value :: items) :: rest, .value⟩
    | .array items :: rest, .closeBracket => some ⟨rest, .more (.array (value :: items).reverse)⟩
    | .object entries k :: rest, .comma => some ⟨rest, .key ((k, value) :: entries)⟩
    | .object entries k :: rest, .closeBrace =>
      some ⟨rest, .more (.object ((k, value) :: entries).reverse)⟩
    | _, _ => none
  | _, _ => none

def run (r : Reader) : List Token → Document
  | [] =>
    match r.frames, r.want with
    | [], .more value => ⟨value, false⟩
    | _, _ => ⟨r.breakOff, false⟩
  | t :: rest =>
    match r.step t with
    | some next => next.run rest
    | none =>
      match r.frames, r.want with
      | [], .more value => ⟨value, true⟩
      | _, _ => ⟨r.breakOff, false⟩

end Reader

def read (bytes : Bytes) : Document :=
  Reader.start.run (Token.ofBytes bytes)

end Roster.Json
