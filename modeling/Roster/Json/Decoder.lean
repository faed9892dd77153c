import Roster.Json.Reader

namespace Roster.Json

/-- Why a value cannot be used: it is not the expected shape, or the text is not JSON. -/
inductive Misfit where
  | wrongShape
  | notJson
  deriving DecidableEq, Repr

abbrev Decoder (α : Type) := Json → Except Misfit α

variable {α β : Type}

def misfit : Json → Misfit
  | .broken | .garbled | .number .huge => .notJson
  | _ => .wrongShape

mutual

def isBroken : Json → Bool
  | .broken => true
  | .array items => anyBroken items
  | .object entries => anyEntryBroken entries
  | _ => false

def anyBroken : List Json → Bool
  | [] => false
  | j :: rest => isBroken j || anyBroken rest

def anyEntryBroken : List (String × Json) → Bool
  | [] => false
  | (_, j) :: rest => isBroken j || anyEntryBroken rest

end

namespace Decoder

def string : Decoder String
  | .text s => .ok s
  | j => .error j.misfit

def boolean : Decoder Bool
  | .bool b => .ok b
  | j => .error j.misfit

def integer (lo hi : Int) : Decoder Int
  | .number (.int n) => if lo ≤ n && n ≤ hi then .ok n else .error .wrongShape
  | j => .error j.misfit

def int64 : Decoder Int :=
  integer Int64.minValue.toInt Int64.maxValue.toInt

def natural (bits : Nat) : Decoder Nat := fun j ↦
  (integer 0 (1 <<< bits - 1 : Nat) j).map Int.toNat

def nullable (d : Decoder α) : Decoder (Option α)
  | .null => .ok none
  | j => (d j).map some

def refine (d : Decoder α) (f : α → Option β) : Decoder β := fun j ↦ do
  match f (← d j) with
  | some b => .ok b
  | none => .error .wrongShape

def list (d : Decoder α) : Decoder (List α)
  | .array items => items.mapM d
  | j => .error j.misfit

/-- One of some names, written as a string or as an object with the name for its one key. -/
def oneOf (names : List (String × α)) : Decoder α
  | .text s => (names.lookup s).elim (.error .wrongShape) .ok
  | .object [(s, .null)] => (names.lookup s).elim (.error .wrongShape) .ok
  | j => .error j.misfit

end Decoder

/-- How a field is found in a record. -/
structure Field where
  names : List String
  mayEnd : Bool
  check : Json → Except Misfit Unit

/-- What a record says about its fields, by name; the flag tells an array from an object. -/
structure Fields where
  isArray : Bool
  values : List (String × Json)

/-- A description of a record: its fields in order, and how they make a value. Of two faults the one
that comes first in the text is reported. -/
structure Shape (α : Type) where
  fields : List Field
  build : Fields → Except Misfit α

namespace Shape

instance : Functor Shape where
  map f s := ⟨s.fields, fun v ↦ (s.build v).map f⟩

instance : Applicative Shape where
  pure a := ⟨[], fun _ ↦ .ok a⟩
  seq f s := ⟨f.fields ++ (s ()).fields, fun v ↦ do return (← f.build v) (← (s ()).build v)⟩

def required (name : String) (d : Decoder α) : Shape α where
  fields := [⟨[name], false, fun j ↦ (d j).map fun _ ↦ ()⟩]
  build v := (v.values.lookup name).elim (.error .wrongShape) d

def aliased (name : String) (aliases : List String) (d : Decoder α) (fallback : α) : Shape α where
  fields := [⟨name :: aliases, true, fun j ↦ (d j).map fun _ ↦ ()⟩]
  build v := (v.values.lookup name).elim (.ok fallback) d

def defaulted (name : String) (d : Decoder α) (fallback : α) : Shape α :=
  aliased name [] d fallback

def optional (name : String) (d : Decoder α) : Shape (Option α) where
  fields := [⟨[name], false, fun j ↦ (d.nullable j).map fun _ ↦ ()⟩]
  build v := (v.values.lookup name).elim (if v.isArray then .error .wrongShape else .ok none)
    d.nullable

def optionalAtEnd (name : String) (d : Decoder α) : Shape (Option α) :=
  defaulted name d.nullable none

/-- Goes through the entries of an object in order. A known field may stand there once; what is
unknown only has to be JSON. -/
def readEntries (fields : List Field) :
    List (String × Json) → List (String × Json) → Except Misfit (List (String × Json))
  | seen, [] => .ok seen
  | seen, (key, j) :: rest =>
    match fields.find? (·.names.contains key) with
    | some field => do
      let name := field.names.headD key
      if (seen.lookup name).isSome then .error .wrongShape
      field.check j
      readEntries fields ((name, j) :: seen) rest
    | none => if isBroken j then .error .notJson else readEntries fields seen rest

def readItems : List Field → List Json → Except Misfit (List (String × Json))
  | [], [] => .ok []
  | [], _ :: _ => .error .notJson
  | field :: fields, [] => if field.mayEnd then readItems fields [] else .error .wrongShape
  | field :: fields, j :: rest => do
    field.check j
    return (field.names.headD "", j) :: (← readItems fields rest)

def decode (s : Shape α) : Decoder α
  | .object entries => do s.build ⟨false, ← readEntries s.fields [] entries⟩
  | .array items => do s.build ⟨true, ← readItems s.fields items⟩
  | j => .error j.misfit

end Shape

def decodeText (d : Decoder α) (bytes : Bytes) : Except Misfit α := do
  let document := read bytes
  let a ← d document.root
  if document.hasMore then .error .notJson else .ok a

end Roster.Json
