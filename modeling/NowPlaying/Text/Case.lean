import NowPlaying.Text.CaseTable

/-!
# Lower and upper case

Full case mappings: one character may become several. Only the capital sigma looks at its neighbours. It becomes a final sigma when a cased character comes before it and none after it, where case-ignorable characters in between do not count.
-/

namespace NowPlaying.Text

def CaseRun.covers (run : CaseRun) (n : Nat) : Bool :=
  run.first ≤ n && n ≤ run.last && (n - run.first) % run.step == 0

/-- The character a table of runs moves `c` to, or `c` itself. -/
def shiftCase (runs : List CaseRun) (c : Char) : Char :=
  match runs.find? (·.covers c.toNat) with
  | some run => Char.ofNat (c.toNat + run.shift).toNat
  | none => c

def foldCase (spellings : List (Nat × List Nat)) (runs : List CaseRun) (c : Char) : List Char :=
  match spellings.lookup c.toNat with
  | some spelling => spelling.map Char.ofNat
  | none => [shiftCase runs c]

def lowerChar (c : Char) : List Char :=
  if c.toNat < 0x80 then [c.toLower] else foldCase lowerSpellings lowerRuns c

def upperChar (c : Char) : List Char :=
  if c.toNat < 0x80 then [c.toUpper] else foldCase upperSpellings upperRuns c

def isCased (c : Char) : Bool := casedTable.contains c

def isCaseIgnorable (c : Char) : Bool := caseIgnorableTable.contains c

/-- Whether the first character that counts is cased. -/
def facesCased (s : List Char) : Bool :=
  match s.dropWhile isCaseIgnorable with
  | [] => false
  | c :: _ => isCased c

/-- The lower-case form of `c` between the text before it, nearest character first, and the text after it. -/
def lowerBetween (before : List Char) (c : Char) (after : List Char) : List Char :=
  if c = 'Σ' then [if facesCased before && !facesCased after then 'ς' else 'σ'] else lowerChar c

def lowerAfter (before : List Char) : List Char → List Char
  | [] => []
  | c :: after => lowerBetween before c after ++ lowerAfter (c :: before) after

def lower (s : List Char) : List Char := lowerAfter [] s

def upper (s : List Char) : List Char := s.flatMap upperChar

end NowPlaying.Text
