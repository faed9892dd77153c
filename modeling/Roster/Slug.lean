import Roster.Text.Blank
import Roster.Text.Lowercase
import Roster.Text.Pieces

namespace Roster.Slug

open Text

/-- Writes every run of characters outside `a`–`z` and `0`–`9` as one hyphen. The flag says that
the previous character belonged to such a run. -/
def hyphenate : Bool → List Char → List Char
  | _, [] => []
  | inRun, c :: rest =>
    if isLowerAlnum c then c :: hyphenate false rest
    else if inRun then hyphenate true rest
    else '-' :: hyphenate true rest

def ofText (s : String) : String :=
  String.ofList (trimBoth (· == '-') (hyphenate false (lowercase (trim s)).toList))

/-- A slug is a text that is not empty and its own slug. -/
def isSlug (s : String) : Bool :=
  s != "" && ofText s == s

def suffixLength : Nat := 6

/-- What is appended to a slug that is taken: six lower-case letters or digits. -/
structure Suffix where
  chars : List Char
  length_chars : chars.length = suffixLength
  alnum_chars : chars.all isLowerAlnum = true

def Suffix.ofText? (s : String) : Option Suffix :=
  if h : s.toList.length = suffixLength ∧ s.toList.all isLowerAlnum = true then
    some ⟨s.toList, h.1, h.2⟩
  else none

def withSuffix (base : String) (x : Suffix) : String :=
  base ++ String.ofList ('-' :: x.chars)

def attempts : Nat := 8

end Roster.Slug
