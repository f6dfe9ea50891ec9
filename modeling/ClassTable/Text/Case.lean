import ClassTable.Text.Blank
import ClassTable.Text.CaseRuns

set_option autoImplicit false

namespace ClassTable.Text

def CaseRun.covers (r : CaseRun) (n : Nat) : Bool :=
  r.first ≤ n && n ≤ r.last && (n - r.first) % r.step == 0

def CaseRun.move (r : CaseRun) (n : Nat) : Nat := ((n : Int) + r.shift).toNat

/-- The image of a character under the first run that covers it, else the character itself. -/
def mapByRuns (runs : List CaseRun) (c : Char) : Char :=
  match runs.find? (CaseRun.covers · c.toNat) with
  | some r => Char.ofNat (r.move c.toNat)
  | none => c

def isAscii (c : Char) : Bool := c.toNat < 0x80

def isCased (c : Char) : Bool := inRanges casedRanges c.toNat

def isCaseIgnorable (c : Char) : Bool := inRanges caseIgnorableRanges c.toNat

/-- Holds when the first character that case analysis does not skip over is cased. -/
def startsCased (cs : List Char) : Bool :=
  match (cs.dropWhile isCaseIgnorable).head? with
  | some c => isCased c
  | none => false

def lowerCharIn (before : List Char) (c : Char) (after : List Char) : List Char :=
  if isAscii c then [c.toLower]
  else if c = 'Σ' then [if startsCased before && !startsCased after then 'ς' else 'σ']
  else if c = 'İ' then ['i', '\u0307']
  else [mapByRuns lowerRuns c]

def lowerFrom (before : List Char) : List Char → List Char
  | [] => []
  | c :: cs => lowerCharIn before c cs ++ lowerFrom (c :: before) cs

def lowerChars (cs : List Char) : List Char := lowerFrom [] cs

def lower (s : String) : String := String.ofList (lowerChars s.toList)

def upperChar (c : Char) : List Char :=
  if isAscii c then [c.toUpper]
  else
    match upperExpansions.find? (·.1 == c.toNat) with
    | some (_, image) => image.map Char.ofNat
    | none => [mapByRuns upperRuns c]

def upperFirstChars : List Char → List Char
  | [] => []
  | c :: cs => upperChar c ++ cs

def upperFirst (s : String) : String := String.ofList (upperFirstChars s.toList)

end ClassTable.Text
