import Sensornet.Json.Number

namespace Sensornet
namespace Json

/-!
# Lexemes of a JSON text

The characters of a text are read one at a time by `Scan.step`, and
`lexemes?` is its run over the whole text.  Blanks between lexemes are space,
tab, line feed and carriage return, and no others.  A text may hold any
character from the space up; an escaped surrogate must have its partner.
-/

/-- A lexeme: a mark of structure or a scalar. -/
inductive Lexeme where
  | openArray
  | closeArray
  | openObject
  | closeObject
  | comma
  | colon
  | null
  | bool (flag : Bool)
  | number (n : Number)
  | text (s : String)
  deriving DecidableEq

/-- What the scanner is inside of.  Characters read so far are kept last
first. -/
inductive Scan.Mode where
  | between
  | word (letters : List Char)
  | number (chars : List Char)
  | text (chars : List Char)
  /-- behind a backslash -/
  | escape (chars : List Char)
  /-- among the four digits behind `\u`; `high` is a leading surrogate that
  waits for its partner -/
  | unit (chars : List Char) (high : Option Nat) (count value : Nat)
  /-- behind a leading surrogate, where `\u` must follow -/
  | partner (chars : List Char) (high : Nat)
  | partnerMark (chars : List Char) (high : Nat)
  deriving DecidableEq

/-- The state of a scan: its mode and the lexemes before it, last first. -/
structure Scan where
  mode : Scan.Mode
  done : List Lexeme
  deriving DecidableEq

namespace Scan

def start : Scan := ⟨.between, []⟩

/-- Blanks of the JSON grammar. -/
def isSpace (c : Char) : Bool :=
  c == ' ' || c == '\t' || c == '\n' || c == '\r'

/-- Characters that continue a number literal. -/
def continuesNumber (c : Char) : Bool :=
  c.isDigit || c == '.' || c == 'e' || c == 'E' || c == '+' || c == '-'

/-- The value of a hexadecimal digit in either case. -/
def hexValue? (c : Char) : Option Nat :=
  if c.isDigit then some (c.toNat - '0'.toNat)
  else if 'a' ≤ c ∧ c ≤ 'f' then some (c.toNat - 'a'.toNat + 10)
  else if 'A' ≤ c ∧ c ≤ 'F' then some (c.toNat - 'A'.toNat + 10)
  else none

/-- The character that a one-letter escape stands for. -/
def simpleEscape? (c : Char) : Option Char :=
  match c with
  | '"' => some '"'
  | '\\' => some '\\'
  | '/' => some '/'
  | 'b' => some (Char.ofNat 8)
  | 'f' => some (Char.ofNat 12)
  | 'n' => some '\n'
  | 'r' => some '\r'
  | 't' => some '\t'
  | _ => none

/-- The lexeme of a word. -/
def wordLexeme? (letters : List Char) : Option Lexeme :=
  if letters = ['n', 'u', 'l', 'l'] then some .null
  else if letters = ['t', 'r', 'u', 'e'] then some (.bool true)
  else if letters = ['f', 'a', 'l', 's', 'e'] then some (.bool false)
  else none

/-- One character where a lexeme may begin. -/
def begin? (done : List Lexeme) (c : Char) : Option Scan :=
  if isSpace c then some ⟨.between, done⟩
  else if c = '"' then some ⟨.text [], done⟩
  else if c = '[' then some ⟨.between, .openArray :: done⟩
  else if c = ']' then some ⟨.between, .closeArray :: done⟩
  else if c = '{' then some ⟨.between, .openObject :: done⟩
  else if c = '}' then some ⟨.between, .closeObject :: done⟩
  else if c = ',' then some ⟨.between, .comma :: done⟩
  else if c = ':' then some ⟨.between, .colon :: done⟩
  else if c = '-' ∨ c.isDigit then some ⟨.number [c], done⟩
  else if c.isLower then some ⟨.word [c], done⟩
  else none

/-- Close a word or number; other modes between lexemes have nothing to
close, and inside a text the end is an error. -/
def close? (s : Scan) : Option (List Lexeme) :=
  match s.mode with
  | .between => some s.done
  | .word letters => (wordLexeme? letters.reverse).map (· :: s.done)
  | .number chars => (Number.ofChars? chars.reverse).map (.number · :: s.done)
  | _ => none

/-- A complete code unit behind `\u`.  A leading surrogate asks for its
partner, and a trailing one is accepted only as such a partner. -/
def unit? (chars : List Char) (high : Option Nat) (value : Nat) : Option Mode :=
  match high with
  | some h =>
    if 0xDC00 ≤ value ∧ value ≤ 0xDFFF then
      some (.text (Char.ofNat (0x10000 + (h - 0xD800) * 0x400 + (value - 0xDC00)) :: chars))
    else none
  | none =>
    if 0xD800 ≤ value ∧ value ≤ 0xDBFF then some (.partner chars value)
    else if 0xDC00 ≤ value ∧ value ≤ 0xDFFF then none
    else some (.text (Char.ofNat value :: chars))

/-- One character of the text. -/
def step (s : Scan) (c : Char) : Option Scan :=
  match s.mode with
  | .between => begin? s.done c
  | .word letters =>
    if c.isLower then some ⟨.word (c :: letters), s.done⟩
    else s.close?.bind (begin? · c)
  | .number chars =>
    if continuesNumber c then some ⟨.number (c :: chars), s.done⟩
    else s.close?.bind (begin? · c)
  | .text chars =>
    if c = '"' then some ⟨.between, .text (String.ofList chars.reverse) :: s.done⟩
    else if c = '\\' then some ⟨.escape chars, s.done⟩
    else if c.toNat < 32 then none
    else some ⟨.text (c :: chars), s.done⟩
  | .escape chars =>
    if c = 'u' then some ⟨.unit chars none 0 0, s.done⟩
    else (simpleEscape? c).map fun plain => ⟨.text (plain :: chars), s.done⟩
  | .unit chars high count value =>
    (hexValue? c).bind fun digit =>
      if count < 3 then some ⟨.unit chars high (count + 1) (value * 16 + digit), s.done⟩
      else (unit? chars high (value * 16 + digit)).map fun mode => ⟨mode, s.done⟩
  | .partner chars high => if c = '\\' then some ⟨.partnerMark chars high, s.done⟩ else none
  | .partnerMark chars high =>
    if c = 'u' then some ⟨.unit chars (some high) 0 0, s.done⟩ else none

/-- A scan over many characters. -/
def run : Scan -> List Char -> Option Scan
  | s, [] => some s
  | s, c :: rest =>
    match s.step c with
    | some next => run next rest
    | none => none

/-- A scan goes on where it stopped. -/
theorem run_append (s : Scan) (front back : List Char) :
    s.run (front ++ back) = (s.run front).bind fun reached => reached.run back := by
  induction front generalizing s with
  | nil => rfl
  | cons c rest ih =>
    rw [List.cons_append, run, run]
    cases s.step c with
    | none => rfl
    | some next => exact ih next

end Scan

/-- The lexemes of a text, in order. -/
def lexemes? (text : List Char) : Option (List Lexeme) :=
  ((Scan.start.run text).bind Scan.close?).map List.reverse

end Json
end Sensornet
