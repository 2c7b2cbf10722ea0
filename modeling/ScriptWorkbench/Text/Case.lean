import ScriptWorkbench.Text.CaseTable

/-!
# Letter case

The full case mappings of Unicode: a character may map to several, and a
capital sigma takes its final form at the end of a word.
-/

namespace ScriptWorkbench.Text

def inRanges (ranges : List (Nat × Nat)) (character : Char) : Bool :=
  ranges.any fun (first, last) => first ≤ character.toNat && character.toNat ≤ last

def isCased (character : Char) : Bool := inRanges casedRanges character

def isCaseIgnorable (character : Char) : Bool := inRanges caseIgnorableRanges character

def mapByRuns (runs : List CaseRun) (character : Char) : Char :=
  match runs.find? (·.covers character.toNat) with
  | some run => run.image character.toNat
  | none => character

/-- The lower-case mapping of one character, whatever surrounds it. -/
def lowerCharacter (character : Char) : List Char :=
  if character.toNat < 0x80 then [character.toLower]
  else if character = '\u0130' then ['i', '\u0307']
  else [mapByRuns lowerRuns character]

def upperCharacter (character : Char) : List Char :=
  if character.toNat < 0x80 then [character.toUpper]
  else
    match upperExpansions.lookup character.toNat with
    | some codes => codes.map Char.ofNat
    | none => [mapByRuns upperRuns character]

/-- Whether the first character that casing does not look past is cased. -/
def startsCased (text : List Char) : Bool :=
  match text.dropWhile isCaseIgnorable with
  | [] => false
  | character :: _ => isCased character

/-- Lowers a text that stands after `before`, given last character first. -/
def lowerAfter (before : List Char) : List Char → List Char
  | [] => []
  | character :: rest =>
    let lowered :=
      if character = 'Σ' then
        if startsCased before && !startsCased rest then ['ς'] else ['σ']
      else lowerCharacter character
    lowered ++ lowerAfter (character :: before) rest

def lowerCharacters (text : List Char) : List Char := lowerAfter [] text

def upperCharacters (text : List Char) : List Char := text.flatMap upperCharacter

def lower (text : String) : String := String.ofList (lowerCharacters text.toList)

def upper (text : String) : String := String.ofList (upperCharacters text.toList)

example : lower "ΟΔΟΣ ΣΑ" = "οδος σα" := by decide +kernel

example : upper "straße" = "STRASSE" := by decide +kernel

end ScriptWorkbench.Text
