import JsonFilter.Text.CaseTables

/-!
# Capital and small letters

The full Unicode case mappings of a text, character by character. A capital sigma is lowered to its
final form where it ends a word.
-/

namespace JsonFilter.Text

namespace CaseRun

/-- Whether the run gives the other case of the code point `n`. -/
def covers (run : CaseRun) (n : Nat) : Bool :=
  run.first ≤ n && n ≤ run.last && (n - run.first) % run.step == 0

/-- The other case of the code point `n`. -/
def other (run : CaseRun) (n : Nat) : Char :=
  Char.ofNat (n + run.shift).toNat

end CaseRun

/-- The other case of a character beyond ASCII, by a table of expansions and one of runs. -/
def otherCase (expansions : List (Nat × List Nat)) (runs : List CaseRun) (c : Char) : List Char :=
  match expansions.lookup c.toNat with
  | some codes => codes.map Char.ofNat
  | none       =>
    match runs.find? (·.covers c.toNat) with
    | some run => [run.other c.toNat]
    | none     => [c]

/-- The capital form of a character. -/
def upperChar (c : Char) : List Char :=
  if c.toNat < 0x80 then [c.toUpper] else otherCase upperExpansions upperRuns c

/-- The small form of a character, wherever it stands. -/
def lowerChar (c : Char) : List Char :=
  if c.toNat < 0x80 then [c.toLower] else otherCase lowerExpansions lowerRuns c

/-- Whether a code point lies in one of the blocks. -/
def inBlocks (blocks : List (Nat × Nat)) (n : Nat) : Bool :=
  blocks.any fun (first, last) => first ≤ n && n ≤ last

/-- Whether the nearest character that is not passed over is a letter with a case. -/
def meetsCased (cs : List Char) : Bool :=
  match cs.dropWhile fun c => inBlocks casePassedBlocks c.toNat with
  | c :: _ => inBlocks casedBlocks c.toNat
  | []     => false

/-- The small form of a text; `before` holds the characters already read, the last one first. -/
def lowerAfter (before : List Char) : List Char → List Char
  | []      => []
  | c :: cs =>
    (if c = 'Σ' then
      if meetsCased before && !meetsCased cs then ['ς'] else ['σ']
     else lowerChar c) ++ lowerAfter (c :: before) cs

/-- The text in small letters. -/
def lower (s : String) : String :=
  String.ofList (lowerAfter [] s.toList)

/-- The text in capital letters. -/
def upper (s : String) : String :=
  String.ofList (s.toList.flatMap upperChar)

end JsonFilter.Text
