import Sensornet.Toml.Scalar

namespace Sensornet
namespace Toml

/-!
# Reading a TOML document

The grammar of TOML 1.0.  A step of the reader takes characters off the text
or refuses; a loop is bounded by the length of the text, of which each of its
rounds takes at least one character.  Values are nested 79 deep at most, and
a dotted key has at most 79 parts.
-/

/-- A step of the reader. -/
abbrev Step := StateT (List Char) Option

namespace Step

/-- The bound on nesting. -/
def maxDepth : Nat := 79

def refuse {A : Type} : Step A := fun _ => none

/-- The next character, which stays. -/
def peek : Step (Option Char) := do return (← get).head?

/-- The character after the next. -/
def peekSecond : Step (Option Char) := do return (← get).tail.head?

def skip (n : Nat) : Step Unit := modify (List.drop n)

/-- Take a text that must be there. -/
def expect (text : List Char) : Step Unit := do
  if text.isPrefixOf (← get) then skip text.length else refuse

/-- Take a text if it is there. -/
def accept (text : List Char) : Step Bool := do
  if text.isPrefixOf (← get) then
    skip text.length
    return true
  else return false

def takeWhile (p : Char -> Bool) : Step (List Char) := do
  let rest ← get
  set (rest.dropWhile p)
  return rest.takeWhile p

/-- Spaces and tabs. -/
def blanks : Step Unit := do
  let _ ← takeWhile fun c => c == ' ' || c == '\t'

/-- A line end, if there is one. -/
def acceptNewline : Step Bool := do
  if ← accept ['\n'] then return true else accept ['\r', '\n']

/-- Characters that a comment or text may hold as they are. -/
def isPlain (c : Char) : Bool :=
  c == '\t' || (0x20 ≤ c.toNat && c.toNat != 0x7F)

/-- A comment, if there is one. -/
def comment : Step Unit := do
  if ← accept ['#'] then
    let _ ← takeWhile isPlain

/-- The rest of a line: blanks, perhaps a comment, and its end. -/
def lineEnd : Step Unit := do
  blanks
  comment
  if (← get).isEmpty then return ()
  if ← acceptNewline then return () else refuse

/-- Blanks, comments and line ends inside a list. -/
def trivia : Nat -> Step Unit
  | 0 => return ()
  | rounds + 1 => do
    blanks
    match ← peek with
    | some '#' =>
      comment
      if ← acceptNewline then trivia rounds else refuse
    | some '\n' | some '\r' => if ← acceptNewline then trivia rounds else refuse
    | _ => return ()

/-- Exactly `count` hexadecimal digits that number a character. -/
def numbered (count : Nat) : Step Char := do
  let digits := (← get).take count
  if digits.length = count ∧ digits.all (Scalar.isDigitOf 16) then
    skip count
    let n := digits.foldl (fun n d => n * 16 + Scalar.digitValue d) 0
    if n < 0xD800 ∨ (0xDFFF < n ∧ n < 0x110000) then return Char.ofNat n else refuse
  else refuse

/-- What stands behind a backslash. -/
def escape : Step Char := do
  let c ← peek
  skip 1
  match c with
  | some 'b' => return Char.ofNat 8
  | some 't' => return '\t'
  | some 'n' => return '\n'
  | some 'f' => return Char.ofNat 12
  | some 'r' => return '\r'
  | some '"' => return '"'
  | some '\\' => return '\\'
  | some 'u' => numbered 4
  | some 'U' => numbered 8
  | _ => refuse

/-- The rest of a text on one line; characters so far are kept last first. -/
def basicRest (done : List Char) : Nat -> Step String
  | 0 => refuse
  | rounds + 1 => do
    match ← peek with
    | some '"' =>
      skip 1
      return String.ofList done.reverse
    | some '\\' =>
      skip 1
      basicRest ((← escape) :: done) rounds
    | some c =>
      if isPlain c then
        skip 1
        basicRest (c :: done) rounds
      else refuse
    | none => refuse

/-- Blanks and line ends behind a backslash at the end of a line. -/
def continued : Nat -> Step Unit
  | 0 => return ()
  | rounds + 1 => do
    blanks
    if ← acceptNewline then continued rounds else return ()

/-- The closing marks of a text of many lines.  Up to two more marks in front
of the three that close it belong to the text. -/
def closing (mark : Char) : Step (Option (List Char)) := do
  let marks := ((← get).takeWhile (· == mark)).length
  if marks < 3 then return none
  else
    let more := min (marks - 3) 2
    skip (more + 3)
    return some (List.replicate more mark)

/-- The rest of a text of many lines, with escapes. -/
def longBasicRest (done : List Char) : Nat -> Step String
  | 0 => refuse
  | rounds + 1 => do
    match ← closing '"' with
    | some more => return String.ofList (done.reverse ++ more)
    | none =>
      if ← acceptNewline then longBasicRest ('\n' :: done) rounds
      else
        match ← peek with
        | some '\\' =>
          skip 1
          let rest ← get
          match rest.dropWhile fun c => c == ' ' || c == '\t' with
          | '\n' :: _ | '\r' :: '\n' :: _ =>
            continued rest.length
            longBasicRest done rounds
          | _ => longBasicRest ((← escape) :: done) rounds
        | some c =>
          if isPlain c then
            skip 1
            longBasicRest (c :: done) rounds
          else refuse
        | none => refuse

/-- The rest of a text of many lines, without escapes. -/
def longLiteralRest (done : List Char) : Nat -> Step String
  | 0 => refuse
  | rounds + 1 => do
    match ← closing '\'' with
    | some more => return String.ofList (done.reverse ++ more)
    | none =>
      if ← acceptNewline then longLiteralRest ('\n' :: done) rounds
      else
        match ← peek with
        | some c =>
          if isPlain c then
            skip 1
            longLiteralRest (c :: done) rounds
          else refuse
        | none => refuse

/-- The rest of a text on one line, without escapes. -/
def literalRest : Step String := do
  let body ← takeWhile fun c => isPlain c && c != '\''
  expect ['\'']
  return String.ofList body

/-- A text in quotation marks on one line. -/
def shortText : Step String := do
  if ← accept ['"'] then basicRest [] ((← get).length + 1)
  else
    expect ['\'']
    literalRest

/-- A text in quotation marks. -/
def text : Step String := do
  if ← accept ['"', '"', '"'] then
    let _ ← acceptNewline
    longBasicRest [] ((← get).length + 1)
  else if ← accept ['\'', '\'', '\''] then
    let _ ← acceptNewline
    longLiteralRest [] ((← get).length + 1)
  else shortText

/-- A part of a dotted key. -/
def keyPart : Step String := do
  match ← peek with
  | some '"' | some '\'' => shortText
  | _ =>
    let word ← takeWhile fun c => c.isAlphanum || c == '_' || c == '-'
    if word.isEmpty then refuse else return String.ofList word

/-- The parts of a dotted key behind the first. -/
def keyRest : Nat -> Step (List String)
  | 0 => refuse
  | rounds + 1 => do
    blanks
    if ← accept ['.'] then
      blanks
      let part ← keyPart
      return part :: (← keyRest rounds)
    else return []

/-- A dotted key. -/
def key : Step (List String) := do
  blanks
  let part ← keyPart
  let parts ← keyRest ((← get).length + 1)
  if maxDepth < parts.length + 1 then refuse else return part :: parts

/-- A value without quotation marks.  A date may be joined to a time by a
space. -/
def scalar : Step Node := do
  let word ← takeWhile Scalar.isPart
  let second ← peekSecond
  let joined ←
    if (← peek) = some ' ' ∧ second.any Char.isDigit ∧ Scalar.date? word = some [] then do
      skip 1
      pure (word ++ ' ' :: (← takeWhile Scalar.isPart))
    else pure word
  match Scalar.ofChars? joined with
  | some node => return node
  | none => refuse

/-- The items of a list behind its bracket. -/
def itemsRest (item : Step Node) (done : List Node) : Nat -> Step Node
  | 0 => refuse
  | rounds + 1 => do
    trivia ((← get).length + 1)
    if ← accept [']'] then return .array done.reverse
    let node ← item
    trivia ((← get).length + 1)
    if ← accept [','] then itemsRest item (node :: done) rounds
    else
      expect [']']
      return .array (node :: done).reverse

/-- A key and its value. -/
def assignment (item : Step Node) : Step Assignment := do
  let path ← key
  blanks
  expect ['=']
  blanks
  return ⟨path, ← item⟩

/-- The assignments of an inline table behind its brace. -/
def inlineRest (item : Step Node) (done : List Assignment) : Nat -> Step (List Assignment)
  | 0 => refuse
  | rounds + 1 => do
    let next ← assignment item
    blanks
    if ← accept [','] then inlineRest item (next :: done) rounds
    else
      expect ['}']
      return (next :: done).reverse

/-- An inline table behind its brace. -/
def inlineTable (item : Step Node) : Step Node := do
  blanks
  let assignments ←
    if ← accept ['}'] then pure [] else do inlineRest item [] ((← get).length + 1)
  match assignAll .inlineKey .inline assignments [] with
  | some table => return .table .inline table
  | none => refuse

/-- A value that may still hold `depth` levels of lists and inline tables. -/
def value : Nat -> Step Node
  | 0 => do
    match ← peek with
    | some '"' | some '\'' => return .text (← text)
    | some '[' | some '{' => refuse
    | _ => scalar
  | depth + 1 => do
    match ← peek with
    | some '"' | some '\'' => return .text (← text)
    | some '[' =>
      skip 1
      itemsRest (value depth) [] ((← get).length + 1)
    | some '{' =>
      skip 1
      inlineTable (value depth)
    | _ => scalar

/-- A line of a document. -/
inductive Line where
  | blank
  | assignment (a : Assignment)
  | header (path : List String) (repeated : Bool)

def line : Step Line := do
  blanks
  match ← peek with
  | none | some '#' | some '\n' | some '\r' =>
    lineEnd
    return .blank
  | some '[' =>
    let repeated ← accept ['[', '[']
    if !repeated then skip 1
    let path ← key
    blanks
    expect (if repeated then [']', ']'] else [']'])
    lineEnd
    return .header path repeated
  | some _ =>
    let a ← assignment (value maxDepth)
    lineEnd
    return .assignment a

/-- All lines up to the end of the text. -/
def lines : Nat -> Step (List Line)
  | 0 => refuse
  | rounds + 1 => do
    if (← get).isEmpty then return []
    let next ← line
    return next :: (← lines rounds)

end Step

/-- Group the lines of a document from the end: the assignments of the
section under way, and the sections behind it. -/
def grouped : List Step.Line -> List Assignment × List Section
  | [] => ([], [])
  | .blank :: rest => grouped rest
  | .assignment a :: rest =>
    let (assignments, sections) := grouped rest
    (a :: assignments, sections)
  | .header path repeated :: rest =>
    let (assignments, sections) := grouped rest
    ([], ⟨path, repeated, assignments⟩ :: sections)

/-- Read a document.  A byte order mark in front of it is skipped. -/
def Table.ofText? (text : String) : Option Table := do
  let body :=
    match text.toList with
    | c :: rest => if c.toNat = 0xFEFF then rest else c :: rest
    | [] => []
  let (lines, _) ← (Step.lines (body.length + 1)).run body
  let (leading, sections) := grouped lines
  assemble leading sections

end Toml
end Sensornet
