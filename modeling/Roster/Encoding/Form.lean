import Roster.Encoding.Hex
import Roster.Encoding.Utf8
import Roster.Text.Pieces

namespace Roster.Form

/-- Replaces each percent sign with two hexadecimal digits by a byte; others stay as they are. -/
def percentDecode : Bytes → Bytes
  | [] => []
  | b :: rest =>
    if b == 37 then
      match rest with
      | h :: l :: rest' =>
        match Hex.value? (Char.ofNat h.toNat), Hex.value? (Char.ofNat l.toNat) with
        | some x, some y => UInt8.ofNat (16 * x + y) :: percentDecode rest'
        | _, _ => b :: percentDecode (h :: l :: rest')
      | rest => b :: percentDecode rest
    else b :: percentDecode rest
termination_by bytes => bytes.length

def component (cs : Bytes) : String :=
  String.ofList (Utf8.decodeLossy (percentDecode (cs.map fun b ↦ if b == 43 then 32 else b)))

def pair (part : Bytes) : String × String :=
  match Text.splitFirst (· == 61) part with
  | some (name, value) => (component name, component value)
  | none => (component part, "")

def parse (query : Bytes) : List (String × String) :=
  ((Text.splitAll (· == 38) query).filter (!·.isEmpty)).map pair

end Roster.Form
