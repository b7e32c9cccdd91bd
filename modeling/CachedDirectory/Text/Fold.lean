import CachedDirectory.Text.CaseTable

/-!
# Folding text

Identifiers and texts are compared by their folded form, the full Unicode
lowercase form. Two letters need more than the simple mapping: the capital I
with a dot becomes two characters, and a capital sigma becomes the final form at
the end of a word.
-/

namespace CachedDirectory.Text

/-- Whether a run maps this code point. -/
def CaseRun.holds (run : CaseRun) (code : Nat) : Bool :=
  run.first ≤ code && code ≤ run.last && (code - run.first) % run.step == 0

/-- The lowercase form of one character, whatever stands around it. -/
def lowerChar (c : Char) : List Char :=
  if c.toNat < 0x80 then
    [c.toLower]
  else if c = 'İ' then
    ['i', '\u0307']
  else
    match caseRuns.find? fun run => run.holds c.toNat with
    | some run => [Char.ofNat (run.target + (c.toNat - run.first))]
    | none => [c]

/-- Whether the character has a case. -/
def isCased (c : Char) : Bool :=
  inRanges casedRanges c.toNat

/-- Whether the character may stand inside a cased word without ending it. -/
def isCaseIgnorable (c : Char) : Bool :=
  inRanges caseIgnorableRanges c.toNat

/-- Whether the first character that is not case-ignorable has a case. -/
def reachesCased : List Char → Bool
  | [] => false
  | c :: rest => if isCaseIgnorable c then reachesCased rest else isCased c

/-- The form of a capital sigma between the text before it, nearest character
first, and the text after it: final where a word ends there. -/
def lowerSigma (before after : List Char) : Char :=
  if reachesCased before && !reachesCased after then 'ς' else 'σ'

/-- The lowercase form of a text that follows `before`, nearest character
first. -/
def lowerFrom : List Char → List Char → List Char
  | _, [] => []
  | before, c :: rest =>
      (if c = 'Σ' then [lowerSigma before rest] else lowerChar c) ++
        lowerFrom (c :: before) rest

/-- The folded form of a text. Two identifiers are the same if their folded
forms are equal. -/
def fold (text : String) : String :=
  String.ofList (lowerFrom [] text.toList)

theorem toList_fold (text : String) :
    (fold text).toList = lowerFrom [] text.toList :=
  String.toList_ofList

end CachedDirectory.Text
