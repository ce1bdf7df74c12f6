import Sensornet.Json.Writer
import Sensornet.Proofs.Json.Numbers
import Sensornet.Text.Blank

namespace Sensornet
namespace Json

/-!
# What the scanner makes of a text

Two directions.  A text that was written spells its lexemes: wherever a
lexeme may begin, scanning the text adds them.  A word or a number is only
closed by what follows it, so `Spells` speaks of the lexemes after closing,
and texts are put together at a character that ends both.

The other way round, whatever the text was, a scanned text is at least two
characters shorter than what was scanned, and a scanned number was read from
a literal.
-/

/-! ## Spelling lexemes -/

/-- Scanning the text from between two lexemes and closing adds these
lexemes. -/
def Spells (text : List Char) (lexemes : List Lexeme) : Prop :=
  forall done, ((⟨.between, done⟩ : Scan).run text).bind Scan.close? =
    some (lexemes.reverse ++ done)

/-- Characters that end a word and a number. -/
def endsScalar (c : Char) : Bool :=
  !c.isLower && !Scan.continuesNumber c

namespace Scan

/-- Where a lexeme can be closed, a character that ends it begins the next
one behind it. -/
theorem step_of_close? {s : Scan} {done : List Lexeme} (closed : s.close? = some done) {c : Char}
    (ends : endsScalar c = true) : s.step c = begin? done c := by
  obtain ⟨mode, old⟩ := s
  simp only [endsScalar, Bool.and_eq_true, Bool.not_eq_true'] at ends
  cases mode with
  | between => exact congrArg (begin? · c) (Option.some.inj closed)
  | word letters =>
    simp only [step, ends.1, Bool.false_eq_true, if_false]
    rw [closed, Option.bind_some]
  | number chars =>
    simp only [step, ends.2, Bool.false_eq_true, if_false]
    rw [closed, Option.bind_some]
  | text | escape | unit | partner | partnerMark => cases closed

end Scan

namespace Spells

variable {front back : List Char} {ls ms : List Lexeme} {c : Char}

theorem nil : Spells [] [] :=
  fun _ => rfl

/-- A mark stands for itself, whatever follows it. -/
theorem mark {lexeme : Lexeme} (rest : Spells back ms)
    (begins : ∀ done, Scan.begin? done c = some ⟨.between, lexeme :: done⟩) :
    Spells (c :: back) (lexeme :: ms) := by
  intro done
  rw [Scan.run, Scan.step, begins]
  simpa using rest (lexeme :: done)

/-- Two texts are put together at a character that ends a word or number. -/
theorem append (first : Spells front ls) (ends : endsScalar c = true)
    (second : Spells (c :: back) ms) : Spells (front ++ c :: back) (ls ++ ms) := by
  intro done
  obtain ⟨s, reached, closed⟩ := Option.bind_eq_some_iff.mp (first done)
  have next := second (ls.reverse ++ done)
  rw [Scan.run, Scan.step] at next
  rw [Scan.run_append, reached, Option.bind_some, Scan.run, Scan.step_of_close? closed ends, next,
    List.reverse_append, List.append_assoc]

/-- What is spelled is what the text is cut into. -/
theorem lexemes? (spells : Spells front ls) : lexemes? front = some ls := by
  rw [Json.lexemes?, Scan.start, spells [], Option.map_some, List.append_nil, List.reverse_reverse]

end Spells

/-! ## Texts in quotation marks -/

/-- A character is escaped by a mark of its own or as a control, or it stands
for itself. -/
theorem escape_cases (c : Char) :
    (c = '"' ∨ c = '\\' ∨ c = '\n' ∨ c = '\r' ∨ c = '\t' ∨ c = Char.ofNat 8 ∨
      c = Char.ofNat 12) ∨
    (c.toNat < 32 ∧
      escape c = ['\\', 'u', '0', '0', hexDigit (c.toNat / 16), hexDigit (c.toNat % 16)]) ∨
    (32 ≤ c.toNat ∧ c ≠ '"' ∧ c ≠ '\\' ∧ escape c = [c]) := by
  refine or_iff_not_imp_left.mpr fun long => ?_
  simp only [not_or] at long
  obtain ⟨quote, backslash, feed, carriage, tab, back, form⟩ := long
  unfold escape
  rw [if_neg quote, if_neg backslash, if_neg feed, if_neg carriage, if_neg tab, if_neg back,
    if_neg form]
  by_cases control : c.toNat < 32
  · exact .inl ⟨control, if_pos control⟩
  · exact .inr ⟨Nat.not_lt.mp control, quote, backslash, if_neg control⟩

theorem hexValue?_hexDigit : ∀ n < 16, Scan.hexValue? (hexDigit n) = some n := by
  decide

namespace Scan

/-- The code unit of a control is that character. -/
theorem unit?_toNat {c : Char} (control : c.toNat < 32) (chars : List Char) :
    unit? chars none c.toNat = some (.text (c :: chars)) := by
  have noHigh : ¬ (0xD800 ≤ c.toNat ∧ c.toNat ≤ 0xDBFF) := by omega
  have noLow : ¬ (0xDC00 ≤ c.toNat ∧ c.toNat ≤ 0xDFFF) := by omega
  rw [unit?, if_neg noHigh, if_neg noLow, Char.ofNat_toNat]

/-- An escaped character is read as that character. -/
theorem run_escape (chars : List Char) (done : List Lexeme) (c : Char) :
    (⟨.text chars, done⟩ : Scan).run (escape c) = some ⟨.text (c :: chars), done⟩ := by
  rcases escape_cases c with short | ⟨control, written⟩ | ⟨plain, quote, backslash, written⟩
  · rcases short with rfl | rfl | rfl | rfl | rfl | rfl | rfl <;> rfl
  · have zero : hexValue? '0' = some 0 := by decide
    have high := hexValue?_hexDigit (c.toNat / 16) (by omega)
    have low := hexValue?_hexDigit (c.toNat % 16) (by omega)
    rw [written]
    simp [run, step, zero, high, low, Nat.div_add_mod', unit?_toNat control]
  · rw [written]
    simp only [run, step, if_neg quote, if_neg backslash, if_neg (Nat.not_lt.mpr plain)]

theorem run_flatMap_escape (chars : List Char) (done : List Lexeme) (text : List Char) :
    (⟨.text chars, done⟩ : Scan).run (text.flatMap escape) =
      some ⟨.text (text.reverse ++ chars), done⟩ := by
  induction text generalizing chars with
  | nil => rfl
  | cons c rest ih =>
    rw [List.flatMap_cons, run_append, run_escape, Option.bind_some, ih, List.reverse_cons,
      List.append_assoc, List.singleton_append]

end Scan

namespace Spells

variable {front back : List Char} {ls ms : List Lexeme} {c : Char}

/-- A text in quotation marks is closed by its own mark. -/
theorem quoted (s : String) (rest : Spells back ms) :
    Spells (quoted s ++ back) (.text s :: ms) := by
  intro done
  have opened : (⟨.between, done⟩ : Scan).step '"' = some ⟨.text [], done⟩ := rfl
  have closed : (⟨.text (s.toList.reverse ++ []), done⟩ : Scan).step '"' =
      some ⟨.between, .text s :: done⟩ := by
    simp [Scan.step]
  rw [Json.quoted, List.cons_append, List.append_assoc, Scan.run, opened]
  dsimp only
  rw [Scan.run_append, Scan.run_flatMap_escape, Option.bind_some, List.singleton_append, Scan.run,
    closed]
  simpa using rest (.text s :: done)

/-! ## Words and numbers -/

theorem null : Spells ['n', 'u', 'l', 'l'] [.null] :=
  fun _ => rfl

theorem bool (flag : Bool) : Spells (Value.bool flag).compactChars [.bool flag] := by
  intro done
  cases flag <;> rfl

end Spells

/-- Number characters behind the first are all taken. -/
theorem Scan.run_number {chars text : List Char} {done : List Lexeme}
    (continues : ∀ c ∈ text, continuesNumber c = true) :
    (⟨.number chars, done⟩ : Scan).run text = some ⟨.number (text.reverse ++ chars), done⟩ := by
  induction text generalizing chars with
  | nil => rfl
  | cons c rest ih =>
    have first : (⟨.number chars, done⟩ : Scan).step c = some ⟨.number (c :: chars), done⟩ := by
      simp [step, continues c List.mem_cons_self]
    rw [run, first]
    dsimp only
    rw [ih fun c member => continues c (List.mem_cons_of_mem _ member), List.reverse_cons,
      List.append_assoc, List.singleton_append]

theorem Scan.begin?_digit {c : Char} (digit : c.isDigit = true) (done : List Lexeme) :
    begin? done c = some ⟨.number [c], done⟩ := by
  have other : forall d : Char, d.isDigit = false -> c ≠ d := by
    intro d noDigit same
    rw [same, noDigit] at digit
    cases digit
  have noSpace : isSpace c = false := by
    simp only [isSpace, Bool.or_eq_false_iff, beq_eq_false_iff_ne]
    exact ⟨⟨⟨other _ rfl, other _ rfl⟩, other _ rfl⟩, other _ rfl⟩
  rw [begin?, noSpace, if_neg Bool.false_ne_true, if_neg (other _ rfl), if_neg (other _ rfl),
    if_neg (other _ rfl), if_neg (other _ rfl), if_neg (other _ rfl), if_neg (other _ rfl),
    if_neg (other _ rfl), if_pos (Or.inr digit)]

/-- The text of a number is scanned as one literal. -/
theorem Scan.run_chars (n : Number) (done : List Lexeme) :
    (⟨.between, done⟩ : Scan).run n.chars = some ⟨.number n.chars.reverse, done⟩ := by
  obtain ⟨c, rest, written, starts⟩ := n.exists_chars_eq_cons
  have opened : (⟨.between, done⟩ : Scan).step c = some ⟨.number [c], done⟩ := by
    rcases starts with digit | rfl
    · exact begin?_digit digit done
    · rfl
  have continues : ∀ c ∈ rest, continuesNumber c = true := fun c member =>
    n.continuesNumber_of_mem_chars (written ▸ List.mem_cons_of_mem _ member)
  rw [written, run, opened]
  dsimp only
  rw [run_number continues, List.reverse_cons]

theorem Spells.number {n : Number} (back : Number.ofChars? n.chars = some n) :
    Spells n.chars [.number n] := by
  intro done
  rw [Scan.run_chars, Option.bind_some, Scan.close?]
  dsimp only
  rw [List.reverse_reverse, back]
  rfl

/-! ## What a lexeme has taken -/

/-- What a lexeme is like when so many characters were scanned: a text is
shorter by its quotation marks, and a number was read from a literal. -/
def Lexeme.Within (count : Nat) : Lexeme -> Prop
  | .text s => s.length + 2 ≤ count
  | .number n => ∃ literal, Number.ofChars? literal = some n
  | _ => True

theorem Lexeme.Within.mono {count more : Nat} (le : count ≤ more) {lexeme : Lexeme}
    (within : lexeme.Within count) : lexeme.Within more := by
  cases lexeme with
  | text s => exact Nat.le_trans within le
  | number n => exact within
  | _ => trivial

namespace Scan

/-- The characters of a text under way and its opening mark.  An escape stands
for one character, so it never adds more than it has taken. -/
def Mode.held : Mode -> Nat
  | .between | .word _ | .number _ => 0
  | .text chars | .escape chars | .unit chars _ _ _ | .partner chars _ | .partnerMark chars _ =>
    chars.length + 1

/-- A scan that has taken so many characters. -/
structure Within (count : Nat) (s : Scan) : Prop where
  held : s.mode.held ≤ count
  done : ∀ lexeme ∈ s.done, lexeme.Within count

namespace Within

variable {count : Nat} {s next : Scan} {done : List Lexeme} {c : Char}

/-- A scan with no more lexemes than before, and no more than one character
of a text. -/
theorem keep {mode : Mode} (held : mode.held ≤ count + 1)
    (before : ∀ lexeme ∈ done, lexeme.Within count) : Within (count + 1) ⟨mode, done⟩ :=
  ⟨held, fun lexeme member => (before lexeme member).mono (Nat.le_succ count)⟩

theorem add {lexeme : Lexeme} (new : lexeme.Within (count + 1))
    (before : ∀ lexeme ∈ done, lexeme.Within count) :
    Within (count + 1) ⟨.between, lexeme :: done⟩ :=
  ⟨Nat.zero_le _, List.forall_mem_cons.mpr
    ⟨new, fun lexeme member => (before lexeme member).mono (Nat.le_succ count)⟩⟩

theorem begin? (before : ∀ lexeme ∈ done, lexeme.Within count)
    (stepped : Scan.begin? done c = some next) : Within (count + 1) next := by
  unfold Scan.begin? at stepped
  repeat' split at stepped
  all_goals cases stepped
  all_goals first
    | exact keep (Nat.zero_le _) before
    | exact keep (Nat.succ_le_succ (Nat.zero_le _)) before
    | exact add trivial before

theorem close? (within : Within count s) (closed : s.close? = some done) :
    ∀ lexeme ∈ done, lexeme.Within count := by
  obtain ⟨mode, old⟩ := s
  cases mode with
  | between =>
    cases closed
    exact within.done
  | word letters =>
    obtain ⟨lexeme, word, rfl⟩ := Option.map_eq_some_iff.mp closed
    refine List.forall_mem_cons.mpr ⟨?_, within.done⟩
    unfold wordLexeme? at word
    repeat' split at word
    all_goals cases word
    all_goals trivial
  | number chars =>
    obtain ⟨n, read, rfl⟩ := Option.map_eq_some_iff.mp closed
    exact List.forall_mem_cons.mpr ⟨⟨chars.reverse, read⟩, within.done⟩
  | text | escape | unit | partner | partnerMark => cases closed

/-- One character more. -/
theorem step (within : Within count s) (stepped : s.step c = some next) :
    Within (count + 1) next := by
  obtain ⟨mode, old⟩ := s
  have held := within.held
  cases mode with
  | between => exact begin? within.done stepped
  | word letters | number letters =>
    simp only [Scan.step] at stepped
    split at stepped
    · cases stepped
      exact keep (Nat.zero_le _) within.done
    · obtain ⟨done, closed, begun⟩ := Option.bind_eq_some_iff.mp stepped
      exact begin? (within.close? closed) begun
  | text chars =>
    simp only [Scan.step] at stepped
    repeat' split at stepped
    · cases stepped
      have length : (String.ofList chars.reverse).length = chars.length := by simp
      have new : (String.ofList chars.reverse).length + 2 ≤ count + 1 :=
        length ▸ Nat.succ_le_succ held
      exact add new within.done
    · cases stepped
      exact keep (Nat.le_succ_of_le held) within.done
    · cases stepped
    · cases stepped
      exact keep (Nat.succ_le_succ held) within.done
  | escape chars =>
    simp only [Scan.step] at stepped
    split at stepped
    · cases stepped
      exact keep (Nat.le_succ_of_le held) within.done
    · obtain ⟨plain, -, rfl⟩ := Option.map_eq_some_iff.mp stepped
      exact keep (Nat.succ_le_succ held) within.done
  | unit chars high seen value =>
    obtain ⟨digit, -, stepped⟩ := Option.bind_eq_some_iff.mp stepped
    split at stepped
    · cases stepped
      exact keep (Nat.le_succ_of_le held) within.done
    · obtain ⟨mode, unit, rfl⟩ := Option.map_eq_some_iff.mp stepped
      refine keep ?_ within.done
      unfold unit? at unit
      repeat' split at unit
      all_goals cases unit
      · exact Nat.succ_le_succ held
      · exact Nat.le_succ_of_le held
      · exact Nat.succ_le_succ held
  | partner chars high | partnerMark chars high =>
    simp only [Scan.step] at stepped
    split at stepped
    · cases stepped
      exact keep (Nat.le_succ_of_le held) within.done
    · cases stepped

theorem run {text : List Char} (within : Within count s) (reached : s.run text = some next) :
    Within (count + text.length) next := by
  induction text generalizing s count with
  | nil =>
    cases reached
    exact within
  | cons c rest ih =>
    rw [Scan.run] at reached
    cases stepped : s.step c with
    | none => simp [stepped] at reached
    | some after =>
      rw [stepped] at reached
      have total := ih (within.step stepped) reached
      rwa [Nat.add_assoc, Nat.add_comm 1] at total

end Within
end Scan

/-- Every lexeme of a text is within that text. -/
theorem within_of_lexemes? {text : List Char} {lexemes : List Lexeme}
    (cut : lexemes? text = some lexemes) : ∀ lexeme ∈ lexemes, lexeme.Within text.length := by
  obtain ⟨done, closed, rfl⟩ := Option.map_eq_some_iff.mp cut
  obtain ⟨s, reached, closed⟩ := Option.bind_eq_some_iff.mp closed
  have start : Scan.Within 0 Scan.start := ⟨Nat.le_refl 0, fun _ member => by cases member⟩
  have total := (start.run reached).close? closed
  rw [Nat.zero_add] at total
  exact fun lexeme member => total lexeme (List.mem_reverse.mp member)

/-! ## Texts that cannot be scanned -/

theorem ne_of_isBlank {c d : Char} (blank : Text.isBlank c = true)
    (filled : Text.isBlank d = false) : c ≠ d := by
  rintro rfl
  rw [blank] at filled
  cases filled

/-- A blank ends a word and a number. -/
theorem endsScalar_of_isBlank {c : Char} (blank : Text.isBlank c = true) :
    endsScalar c = true := by
  have outside : c.toNat ≤ 32 ∨ 133 ≤ c.toNat := by
    simp only [Text.isBlank, Bool.or_eq_true, Bool.and_eq_true, decide_eq_true_eq, beq_iff_eq]
      at blank
    omega
  have noDigit : c.isDigit = false := by
    rw [Char.isDigit, Bool.and_eq_false_iff, decide_eq_false_iff_not, decide_eq_false_iff_not]
    simp only [ge_iff_le, UInt32.le_iff_toNat_le]
    change ¬ 48 ≤ c.toNat ∨ ¬ c.toNat ≤ 57
    omega
  have noLower : c.isLower = false := by
    change (decide ('a'.val ≤ c.val) && decide (c.val ≤ 'z'.val)) = false
    rw [Bool.and_eq_false_iff, decide_eq_false_iff_not, decide_eq_false_iff_not,
      UInt32.le_iff_toNat_le, UInt32.le_iff_toNat_le]
    change ¬ 97 ≤ c.toNat ∨ ¬ c.toNat ≤ 122
    omega
  simp only [endsScalar, Scan.continuesNumber, noLower, noDigit, Bool.not_false, Bool.true_and,
    Bool.false_or, Bool.not_eq_true', Bool.or_eq_false_iff, beq_eq_false_iff_ne]
  exact ⟨⟨⟨⟨ne_of_isBlank blank rfl, ne_of_isBlank blank rfl⟩, ne_of_isBlank blank rfl⟩,
    ne_of_isBlank blank rfl⟩, ne_of_isBlank blank rfl⟩

namespace Scan

/-- A blank is skipped or has no place in JSON. -/
theorem begin?_blank {c : Char} (blank : Text.isBlank c = true) (done : List Lexeme) :
    begin? done c = none ∨ begin? done c = some ⟨.between, done⟩ := by
  have other : ∀ d : Char, Text.isBlank d = false -> c ≠ d := fun _ => ne_of_isBlank blank
  have ends := endsScalar_of_isBlank blank
  simp only [endsScalar, continuesNumber, Bool.and_eq_true, Bool.not_eq_true', Bool.or_eq_false_iff]
    at ends
  have noLower := ends.1
  have noDigit := ends.2.1.1.1.1.1
  unfold begin?
  by_cases space : isSpace c = true
  · exact Or.inr (if_pos space)
  · rw [if_neg space, if_neg (other _ rfl), if_neg (other _ rfl), if_neg (other _ rfl),
      if_neg (other _ rfl), if_neg (other _ rfl), if_neg (other _ rfl), if_neg (other _ rfl)]
    refine Or.inl ?_
    rw [if_neg, if_neg]
    · simp [noLower]
    · simp [noDigit, other '-' rfl]

/-- Blanks before a lexeme are skipped, if they are blanks of JSON. -/
theorem run_trimStart {text : List Char} {done : List Lexeme} {s : Scan}
    (reached : (⟨.between, done⟩ : Scan).run text = some s) :
    (⟨.between, done⟩ : Scan).run (Text.trimStart text) = some s := by
  induction text with
  | nil => exact reached
  | cons c rest ih =>
    cases blank : Text.isBlank c with
    | false => rwa [Text.trimStart, List.dropWhile_cons_of_neg (by simp [blank])]
    | true =>
      rw [Text.trimStart, List.dropWhile_cons_of_pos blank]
      rw [run, step] at reached
      rcases begin?_blank blank done with stuck | skipped
      · simp [stuck] at reached
      · rw [skipped] at reached
        exact ih reached

/-- A word that starts with another letter than those of JSON is never
closed. -/
theorem close?_word {first : Char} (letter : first ≠ 'n' ∧ first ≠ 't' ∧ first ≠ 'f')
    (letters : List Char) {text : List Char} {done : List Lexeme} {s : Scan}
    (reached : (⟨.word (letters ++ [first]), done⟩ : Scan).run text = some s) :
    s.close? = none := by
  have stuck : ∀ letters, (⟨.word (letters ++ [first]), done⟩ : Scan).close? = none := by
    intro letters
    have noWord : wordLexeme? (letters ++ [first]).reverse = none := by
      rw [List.reverse_append, List.reverse_singleton, List.singleton_append]
      simp [wordLexeme?, letter]
    rw [close?]
    dsimp only
    rw [noWord, Option.map_none]
  induction text generalizing letters with
  | nil =>
    cases reached
    exact stuck letters
  | cons c rest ih =>
    rw [run, step] at reached
    dsimp only at reached
    rw [stuck, Option.bind_none] at reached
    by_cases goesOn : c.isLower = true
    · rw [if_pos goesOn] at reached
      exact ih (c :: letters) reached
    · rw [if_neg goesOn] at reached
      cases reached

end Scan

end Json
end Sensornet
