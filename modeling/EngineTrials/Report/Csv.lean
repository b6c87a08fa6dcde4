import EngineTrials.Benchmark.Run
import EngineTrials.FileTree.System

/-!
# Samples as CSV

A header, then one row a sample. A field is quoted if it holds a comma, a quote or a line break, and
quotes in it are doubled. `read?` is the reader of such files.
-/
namespace EngineTrials.Csv
open Text

/-- The characters that a field cannot hold unquoted. -/
def isSpecial (c : Char) : Bool :=
  c == ',' || c == '"' || c == '\n' || c == '\r'

def doubleQuotes (cs : List Char) : List Char :=
  cs.flatMap fun c => if c = '"' then ['"', '"'] else [c]

def field (cs : List Char) : List Char :=
  if cs.any isSpecial then '"' :: (doubleQuotes cs ++ ['"']) else cs

/-- Fields separated by commas, closed by a line feed. -/
def row (fields : List (List Char)) : List Char :=
  glue [','] fields ++ ['\n']

def header : List (List Char) :=
  ["date", "suite", "benchmark", "name", "case", "time"].map String.toList

/-- The fields of a sample before quoting. -/
def values (r : BenchmarkRecord) : List (List Char) :=
  [r.date.text, r.suite, r.benchmark, r.name, r.case, r.time.text].map String.toList

/-- Dates and numbers need no quotes. -/
def recordRow (r : BenchmarkRecord) : List Char :=
  row [r.date.text.toList, field r.suite.toList, field r.benchmark.toList, field r.name.toList,
    field r.case.toList, r.time.text.toList]

/-- A file that samples are appended to. -/
structure Sheet where
  text : List Char
  /-- The number of samples written. -/
  rows : Nat
deriving DecidableEq

namespace Sheet

def create : Sheet := ⟨row header, 0⟩

def append (s : Sheet) (r : BenchmarkRecord) : Sheet :=
  ⟨s.text ++ recordRow r, s.rows + 1⟩

def appendAll (s : Sheet) (rs : List BenchmarkRecord) : Sheet :=
  rs.foldl append s

/-- Makes the file, in directories that are made if need be, and writes the sheet to it. -/
def save (fs : FileSystem) (path : Path) (s : Sheet) : Except FileError FileSystem := do
  let fs ← match path.parent? with
    | some parent => fs.makeDirectories parent
    | none => pure fs
  fs.write path (Utf8.encode s.text)

end Sheet

/-- Where a reader of CSV stands within a row. -/
inductive Position
  /-- Where a field begins. -/
  | fieldStart
  | unquoted
  | quoted
  /-- After a quote within a quoted field: its end, or the first of two. -/
  | afterQuote
deriving DecidableEq

/-- Where a reader stands behind a character that ends no field, and the field read so far,
reversed. Without quotes around it a field has neither quotes nor carriage returns in it. -/
def Position.next? (cell : List Char) (c : Char) : Position → Option (Position × List Char)
  | .fieldStart =>
    if c = '"' then some (.quoted, [])
    else if c = '\r' then none
    else some (.unquoted, c :: cell)
  | .unquoted => if c = '"' ∨ c = '\r' then none else some (.unquoted, c :: cell)
  | .quoted => if c = '"' then some (.afterQuote, cell) else some (.quoted, c :: cell)
  | .afterQuote => if c = '"' then some (.quoted, c :: cell) else none

/-- The rows from here on, with the field and the row read so far, both reversed. Within quotes
commas and line feeds belong to the field. A row that no line feed closes is malformed. -/
def readRows? (position : Position) (cell : List Char) (fields : List (List Char)) :
    List Char → Option (List (List (List Char)))
  | [] => if position = .fieldStart ∧ fields = [] then some [] else none
  | c :: rest =>
    if position ≠ .quoted ∧ c = ',' then readRows? .fieldStart [] (cell.reverse :: fields) rest
    else if position ≠ .quoted ∧ c = '\n' then
      (readRows? .fieldStart [] [] rest).map ((cell.reverse :: fields).reverse :: ·)
    else
      match position.next? cell c with
      | none => none
      | some (position, cell) => readRows? position cell fields rest

/-- The rows of a CSV text. -/
def read? (cs : List Char) : Option (List (List (List Char))) :=
  readRows? .fieldStart [] [] cs

end EngineTrials.Csv
