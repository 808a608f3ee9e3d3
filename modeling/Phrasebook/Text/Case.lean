import Phrasebook.Text.CaseTable

/-!
# Small and capital forms of a text

`lower` and `upper` are the full case mappings: a character may have an image of several
characters, and a capital sigma becomes the final form exactly where it ends a word. The
end of a word is a rule about both sides: the nearest character before it that is not
looked through is cased, and the nearest one after it is not.
-/

namespace Phrasebook.Text

/-- The image of a character under a table of runs and a table of longer images. -/
def caseImage (runs : List CaseRun) (special : List (Nat × List Nat)) (c : Char) : Text :=
  match special.find? fun e => e.1 == c.toNat with
  | some e => e.2.map Char.ofNat
  | none =>
    match runs.find? fun r => r.coversB c.toNat with
    | some r => [Char.ofNat (r.apply c.toNat)]
    | none => [c]

/-- The small form of a character that is not a capital sigma. -/
def lowerChar (c : Char) : Text :=
  if c.toNat < 0x80 then [c.toLower] else caseImage lowerRuns lowerSpecial c

/-- The capital form of a character. -/
def upperChar (c : Char) : Text :=
  if c.toNat < 0x80 then [c.toUpper] else caseImage upperRuns upperSpecial c

/-- Is the character looked through by the rule of the final sigma? -/
def isCaseIgnorable (c : Char) : Bool :=
  if c.toNat < 0x80 then ['\x27', '.', ':', '^', '\x60'].contains c
  else inRangesB caseIgnorableRanges c

/-- Is the character cased, and not looked through? -/
def isCased (c : Char) : Bool :=
  if c.toNat < 0x80 then c.isAlpha else inRangesB casedRanges c

/-- Is the first character that is not looked through a cased one? -/
def casedAhead : Text → Bool
  | [] => false
  | c :: r => if isCaseIgnorable c then casedAhead r else isCased c

/-- The small form of a character, given whether a cased character stands before it and
what text stands behind it. -/
def lowerAt (casedBefore : Bool) (c : Char) (rest : Text) : Text :=
  if c = 'Σ' then [if casedBefore && !casedAhead rest then 'ς' else 'σ'] else lowerChar c

/-- The small form of the rest of a text. -/
def lowerFrom (casedBefore : Bool) : Text → Text
  | [] => []
  | c :: r =>
    lowerAt casedBefore c r ++
      lowerFrom (if isCaseIgnorable c then casedBefore else isCased c) r

/-- The small form of a text. -/
def lower (s : Text) : Text := lowerFrom false s

/-- The capital form of a text. -/
def upper (s : Text) : Text := s.flatMap upperChar

end Phrasebook.Text
