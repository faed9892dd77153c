import Roster.Encoding.Hex
import Roster.Text.Scan

namespace Roster.Toml

open Text

def isPlain (c : Char) : Bool :=
  c == '\t' || (0x20 ≤ c.toNat && c.toNat != 0x7F)

def blanks : Scan Unit :=
  discard (Scan.run fun c ↦ c == ' ' || c == '\t')

def newline : Scan Unit :=
  Scan.word "\n" <|> Scan.word "\r\n"

def comment : Scan Unit := do
  Scan.char '#'
  discard (Scan.run isPlain)

def lineEnd : Scan Unit := do
  blanks
  discard (Scan.optional comment)
  newline <|> Scan.atEnd

def space : Scan Unit := do
  blanks
  discard (Scan.many (do
    discard (Scan.optional comment)
    newline
    blanks))

def codePoint (size : Nat) : Scan Char := do
  let digits ← Scan.times (Scan.one fun c ↦ (Hex.value? c).isSome) size
  let n := (Hex.number? digits).getD 0
  guard n.isValidChar
  return Char.ofNat n

def escaped : Scan Char := do
  match ← Scan.one fun _ ↦ true with
  | 'b' => return '\x08'
  | 't' => return '\t'
  | 'n' => return '\n'
  | 'f' => return '\x0c'
  | 'r' => return '\r'
  | '"' => return '"'
  | '\\' => return '\\'
  | 'u' => codePoint 4
  | 'U' => codePoint 8
  | _ => failure

def basicChar : Scan Char :=
  Scan.one (fun c ↦ isPlain c && c != '"' && c != '\\') <|> (do Scan.char '\\'; escaped)

def literalChar : Scan Char :=
  Scan.one fun c ↦ isPlain c && c != '\''

def basic : Scan (List Char) :=
  Scan.between (Scan.char '"') (Scan.many basicChar) (Scan.char '"')

def literal : Scan (List Char) :=
  Scan.between (Scan.char '\'') (Scan.many literalChar) (Scan.char '\'')

def lineBreak : Scan (List Char) := do
  newline
  return ['\n']

def hiddenBreak : Scan (List Char) := do
  Scan.char '\\'
  blanks
  newline
  discard (Scan.many (newline <|> discard (Scan.one fun c ↦ c == ' ' || c == '\t')))
  return []

def strayQuotes (quote : Char) : Scan (List Char) :=
  Scan.ofFunction fun s ↦
    let n := (s.takeWhile (· == quote)).length
    if n == 1 || n == 2 then some (s.take n, s.drop n) else none

def closing (quote : Char) : Scan (List Char) := do
  discard (Scan.times (Scan.char quote) 3)
  (Scan.times (Scan.one (· == quote)) 2 <|> Scan.times (Scan.one (· == quote)) 1) <|> pure []

def multiline (quote : Char) (part : Scan (List Char)) : Scan (List Char) := do
  discard (Scan.times (Scan.char quote) 3)
  discard (Scan.optional newline)
  let parts ← Scan.many (part <|> lineBreak <|> strayQuotes quote)
  return parts.flatten ++ (← closing quote)

def multilineBasic : Scan (List Char) :=
  multiline '"' (hiddenBreak <|> (fun c ↦ [c]) <$> basicChar)

def multilineLiteral : Scan (List Char) :=
  multiline '\'' ((fun c ↦ [c]) <$> literalChar)

def string : Scan String :=
  String.ofList <$> (multilineBasic <|> multilineLiteral <|> basic <|> literal)

def bareKey : Scan (List Char) :=
  Scan.run₁ fun c ↦ c.isAlphanum || c == '_' || c == '-'

def simpleKey : Scan String :=
  String.ofList <$> (bareKey <|> basic <|> literal)

def depthLimit : Nat := 80

def key : Scan (List String) := do
  let names ← Scan.separated (Scan.between blanks simpleKey blanks) (Scan.char '.')
  guard (names.length < depthLimit)
  return names

end Roster.Toml
