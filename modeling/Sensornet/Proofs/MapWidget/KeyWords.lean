import Mathlib
import Sensornet.MapWidget.ZoneKey

namespace Sensornet
namespace MapWidget

/-!
# The words of a key

A list of words can be spelled in many ways: with anything but letters and
digits between them, in capitals, or as one word with humps.  The scan finds
the same words in all these spellings, so whether a key holds zone ids does
not depend on the naming style.

The scan keeps the word under way and whether a capital would end it.  Each
style is carried by one lemma on what a word in that style does to this state,
whatever stands behind the word.  Of a key in no style at all it is still true
that none of its words is empty and that they lose no letter and no digit.
-/

/-! ## Words and their spellings -/

/-- Small letters and digits, with a letter in front. -/
def IsWord : List Char -> Prop
  | [] => False
  | first :: rest => first.isLower = true ∧ ∀ c ∈ rest, c.isLower = true ∨ c.isDigit = true

/-- No letter stands behind a digit. -/
def DigitsLast (word : List Char) : Prop :=
  word.Pairwise fun earlier later => earlier.isDigit = true -> later.isAlpha = false

/-- Pieces with something between any two neighbours that has neither letters
nor digits. -/
inductive Joined : List (List Char) -> List Char -> Prop where
  | one {piece : List Char} : Joined [piece] piece
  | more {piece separator text : List Char} {pieces : List (List Char)} (filled : separator ≠ [])
    (apart : ∀ c ∈ separator, c.isAlphanum = false) (behind : Joined pieces text) :
    Joined (piece :: pieces) (piece ++ (separator ++ text))

/-- A word in capitals. -/
def inCapitals (word : List Char) : List Char :=
  word.map Char.toUpper

/-- A word with its first letter as a capital. -/
def capitalized : List Char -> List Char
  | [] => []
  | first :: rest => first.toUpper :: rest

/-- Words in a row, each with a capital. -/
def pascalCase (words : List (List Char)) : List Char :=
  words.flatMap capitalized

/-- Words in a row, each but the first with a capital. -/
def camelCase : List (List Char) -> List Char
  | [] => []
  | first :: rest => first ++ pascalCase rest

/-- The spellings of a list of words in the usual styles. -/
inductive Spelling (words : List (List Char)) : List Char -> Prop where
  | lower {text : List Char} (joined : Joined words text) : Spelling words text
  | upper {text : List Char} (digitsLast : ∀ word ∈ words, DigitsLast word)
    (joined : Joined (words.map inCapitals) text) : Spelling words text
  | camel (long : ∀ word ∈ words, 2 ≤ word.length) : Spelling words (camelCase words)
  | pascal (long : ∀ word ∈ words, 2 ≤ word.length) : Spelling words (pascalCase words)

theorem IsWord.ne_nil {word : List Char} (isWord : IsWord word) : word ≠ [] := by
  rintro rfl
  exact isWord

theorem IsWord.plain {word : List Char} (isWord : IsWord word) :
    ∀ c ∈ word, c.isLower = true ∨ c.isDigit = true := by
  cases word with
  | nil => exact isWord.elim
  | cons first rest => exact List.forall_mem_cons.mpr ⟨Or.inl isWord.1, isWord.2⟩

/-! ## One character -/

theorem isAlpha_eq_false_of_isDigit {c : Char} (digit : c.isDigit = true) : c.isAlpha = false := by
  simp [Char.isDigit, Char.isAlpha, Char.isUpper, Char.isLower, UInt32.le_iff_toNat_le] at *
  omega

section Characters

variable {word rest : List Char} {afterLower : Bool} {c : Char}

/-- A small letter or a digit goes to the end of the word under way. -/
theorem wordsFrom_plain (plain : c.isLower = true ∨ c.isDigit = true) :
    wordsFrom word afterLower (c :: rest) = wordsFrom (c :: word) true rest := by
  have noCapital : c.isUpper = false := by
    rcases plain with lower | digit
    · exact Bool.eq_false_iff.mpr (Char.not_isUpper_of_isLower lower)
    · exact (Bool.or_eq_false_iff.mp (isAlpha_eq_false_of_isDigit digit)).1
  have same : c.toLower = c := Char.toLower_eq_of_not_isUpper (Bool.eq_false_iff.mp noCapital)
  have counts : c.isAlphanum = true := by
    rcases plain with lower | digit <;> simp [Char.isAlphanum, Char.isAlpha, *]
  have continues : (c.isLower || c.isDigit) = true := Bool.or_eq_true_iff.mpr plain
  rw [wordsFrom, counts, noCapital, same, continues]
  rfl

/-- A capital ends the word under way, if this ends in a small letter or a
digit, and goes to the end of a word as a small letter. -/
theorem wordsFrom_capital (letter : c.isLower = true) :
    wordsFrom word afterLower (c.toUpper :: rest) =
      if afterLower then word.reverse :: wordsFrom [c] false rest
      else wordsFrom (c :: word) false rest := by
  have noCapital : c.isUpper = false := Bool.eq_false_iff.mpr (Char.not_isUpper_of_isLower letter)
  have small : c.toUpper.toLower = c := by
    rw [Char.toLower_toUpper_eq_toLower]
    exact Char.toLower_eq_of_not_isUpper (Bool.eq_false_iff.mp noCapital)
  have capital : c.toUpper.isUpper = true := by
    rw [Char.isUpper_toUpper_eq_isAlpha, Char.isAlpha, letter, Bool.or_true]
  have noDigit : c.toUpper.isDigit = false := by
    apply Bool.eq_false_iff.mpr
    intro digit
    have none := (Bool.or_eq_false_iff.mp (isAlpha_eq_false_of_isDigit digit)).1
    exact Bool.false_ne_true (none.symm.trans capital)
  have counts : c.toUpper.isAlphanum = true := by
    rw [Char.isAlphanum, Char.isAlpha, capital]
    rfl
  rw [wordsFrom, counts, capital, small, noDigit, Char.isLower_toUpper_eq_false]
  cases afterLower <;> rfl

/-- Anything else ends the word under way. -/
theorem wordsFrom_apart (apart : c.isAlphanum = false) :
    wordsFrom word afterLower (c :: rest) =
      if word.isEmpty then wordsFrom [] false rest
      else word.reverse :: wordsFrom [] false rest := by
  rw [wordsFrom, apart]
  rfl

theorem wordsFrom_nil (filled : word ≠ []) : wordsFrom word afterLower [] = [word.reverse] := by
  rw [wordsFrom, if_neg (by simpa using filled)]

end Characters

/-! ## A whole word -/

section Words

variable {word text rest : List Char}

theorem wordsFrom_append_plain (plain : ∀ c ∈ text, c.isLower = true ∨ c.isDigit = true) :
    wordsFrom word true (text ++ rest) = wordsFrom (text.reverse ++ word) true rest := by
  induction text generalizing word with
  | nil => rfl
  | cons c others ih =>
    rw [List.cons_append, wordsFrom_plain (plain c List.mem_cons_self),
      ih fun d member => plain d (List.mem_cons_of_mem _ member)]
    simp

/-- What stands between words ends the one under way. -/
theorem wordsFrom_separator {separator : List Char} {afterLower : Bool} (filled : separator ≠ [])
    (apart : ∀ c ∈ separator, c.isAlphanum = false) (begun : word ≠ []) :
    wordsFrom word afterLower (separator ++ rest) = word.reverse :: wordsFrom [] false rest := by
  have skipped : ∀ blanks : List Char, (∀ c ∈ blanks, c.isAlphanum = false) ->
      wordsFrom [] false (blanks ++ rest) = wordsFrom [] false rest := by
    intro blanks apart
    induction blanks with
    | nil => rfl
    | cons c others ih =>
      rw [List.cons_append, wordsFrom_apart (apart c List.mem_cons_self)]
      exact ih fun d member => apart d (List.mem_cons_of_mem _ member)
  cases separator with
  | nil => exact absurd rfl filled
  | cons c others =>
    rw [List.cons_append, wordsFrom_apart (apart c List.mem_cons_self),
      if_neg (by simpa using begun),
      skipped others fun d member => apart d (List.mem_cons_of_mem _ member)]

/-- A text is taken for a word, whatever stands behind it. -/
def TakenFor (text word : List Char) : Prop :=
  ∀ rest, ∃ afterLower,
    wordsFrom [] false (text ++ rest) = wordsFrom word.reverse afterLower rest

theorem IsWord.wordsFrom_append (isWord : IsWord word) :
    wordsFrom [] false (word ++ rest) = wordsFrom word.reverse true rest := by
  cases word with
  | nil => exact isWord.elim
  | cons first others =>
    rw [List.cons_append, wordsFrom_plain (Or.inl isWord.1), wordsFrom_append_plain isWord.2,
      List.reverse_cons]

theorem IsWord.taken (isWord : IsWord word) : TakenFor word word :=
  fun _ => ⟨true, isWord.wordsFrom_append⟩

/-- Capitals are taken for a word as long as no digit has come, and digits
as long as no capital comes. -/
theorem exists_wordsFrom_inCapitals (plain : ∀ c ∈ word, c.isLower = true ∨ c.isDigit = true)
    (digitsLast : DigitsLast word) (before rest : List Char) :
    ∃ afterLower, wordsFrom before false (inCapitals word ++ rest) =
      wordsFrom (word.reverse ++ before) afterLower rest := by
  induction word generalizing before with
  | nil => exact ⟨false, rfl⟩
  | cons c others ih =>
    have later := fun d member => plain d (List.mem_cons_of_mem c member)
    rcases List.pairwise_cons.mp digitsLast with ⟨noLetter, lasts⟩
    rcases plain c List.mem_cons_self with lower | digit
    · rcases ih later lasts (c :: before) with ⟨afterLower, taken⟩
      refine ⟨afterLower, ?_⟩
      rw [inCapitals, List.map_cons, List.cons_append, wordsFrom_capital lower, List.reverse_cons,
        List.append_assoc]
      exact taken
    · -- All that is left are digits, which have no capitals.
      have same : ∀ d : Char, d.isAlpha = false -> d.toUpper = d := fun d noAlpha =>
        Char.toUpper_eq_of_not_isLower (Bool.eq_false_iff.mp (Bool.or_eq_false_iff.mp noAlpha).2)
      have all : inCapitals (c :: others) = c :: others := by
        refine (List.map_congr_left fun d member => ?_).trans (List.map_id _)
        rcases List.mem_cons.mp member with rfl | behind
        · exact same d (isAlpha_eq_false_of_isDigit digit)
        · exact same d (noLetter d behind digit)
      refine ⟨true, ?_⟩
      rw [all, List.cons_append, wordsFrom_plain (Or.inr digit), wordsFrom_append_plain later,
        List.reverse_cons, List.append_assoc]
      rfl

theorem IsWord.taken_inCapitals (isWord : IsWord word) (digitsLast : DigitsLast word) :
    TakenFor (inCapitals word) word := by
  intro rest
  have taken := exists_wordsFrom_inCapitals isWord.plain digitsLast [] rest
  rw [List.append_nil] at taken
  exact taken

/-- Behind its capital, a word of at least two characters goes on to an end
at which the next capital begins another word. -/
theorem wordsFrom_behind_capital {first : Char} {others : List Char}
    (isWord : IsWord (first :: others)) (long : 2 ≤ (first :: others).length) :
    wordsFrom [first] false (others ++ rest) = wordsFrom (first :: others).reverse true rest := by
  cases others with
  | nil => exact absurd long (by simp)
  | cons second others =>
    rcases List.forall_mem_cons.mp isWord.2 with ⟨own, later⟩
    rw [List.cons_append, wordsFrom_plain own, wordsFrom_append_plain later]
    simp

/-- Behind a small letter or a digit, a word with a capital ends the one under
way. -/
theorem IsWord.wordsFrom_hump (isWord : IsWord word) (long : 2 ≤ word.length)
    {before : List Char} : wordsFrom before true (capitalized word ++ rest) =
      before.reverse :: wordsFrom word.reverse true rest := by
  cases word with
  | nil => exact isWord.elim
  | cons first others =>
    rw [capitalized, List.cons_append, wordsFrom_capital isWord.1, if_pos rfl,
      wordsFrom_behind_capital isWord long]

theorem IsWord.wordsFrom_capitalized (isWord : IsWord word) (long : 2 ≤ word.length) :
    wordsFrom [] false (capitalized word ++ rest) = wordsFrom word.reverse true rest := by
  cases word with
  | nil => exact isWord.elim
  | cons first others =>
    rw [capitalized, List.cons_append, wordsFrom_capital isWord.1, if_neg Bool.false_ne_true,
      wordsFrom_behind_capital isWord long]

end Words

/-! ## Whole keys -/

section Keys

variable {words : List (List Char)} {text : List Char}

/-- Pieces that are taken for words, with something between them, are taken
for the list of these words. -/
theorem wordsFrom_joined {spell : List Char -> List Char} (filled : ∀ word ∈ words, word ≠ [])
    (taken : ∀ word ∈ words, TakenFor (spell word) word) (joined : Joined (words.map spell) text) :
    wordsFrom [] false text = words := by
  induction words generalizing text with
  | nil => cases joined
  | cons word rest ih =>
    have begun : word.reverse ≠ [] := by simpa using filled word List.mem_cons_self
    have own := taken word List.mem_cons_self
    rw [List.map_cons] at joined
    generalize later : rest.map spell = pieces at joined
    cases joined with
    | one =>
      rcases own [] with ⟨afterLower, scanned⟩
      rw [List.append_nil] at scanned
      rw [scanned, wordsFrom_nil begun, List.reverse_reverse, List.map_eq_nil_iff.mp later]
    | @more _ separator text _ between apart behind =>
      subst later
      rcases own (separator ++ text) with ⟨afterLower, scanned⟩
      rw [scanned, wordsFrom_separator between apart begun, List.reverse_reverse,
        ih (fun other member => filled other (List.mem_cons_of_mem _ member))
          (fun other member => taken other (List.mem_cons_of_mem _ member)) behind]

/-- Every hump begins a word. -/
theorem wordsFrom_pascalCase {before : List Char} (filled : before ≠ [])
    (each : ∀ word ∈ words, IsWord word) (long : ∀ word ∈ words, 2 ≤ word.length) :
    wordsFrom before true (pascalCase words) = before.reverse :: words := by
  induction words generalizing before with
  | nil => exact wordsFrom_nil filled
  | cons word rest ih =>
    have isWord := each word List.mem_cons_self
    have begun : word.reverse ≠ [] := by simpa using isWord.ne_nil
    have next := ih begun (fun other member => each other (List.mem_cons_of_mem _ member))
      (fun other member => long other (List.mem_cons_of_mem _ member))
    have split : pascalCase (word :: rest) = capitalized word ++ pascalCase rest :=
      List.flatMap_cons
    rw [split, isWord.wordsFrom_hump (long word List.mem_cons_self), next, List.reverse_reverse]

/-- All spellings of some words have these words. -/
theorem wordsFrom_spelling (each : ∀ word ∈ words, IsWord word) (spelling : Spelling words text) :
    wordsFrom [] false text = words := by
  have filled : ∀ word ∈ words, word ≠ [] := fun word member => (each word member).ne_nil
  cases spelling with
  | lower joined =>
    exact wordsFrom_joined filled (fun word member => (each word member).taken)
      ((List.map_id words).symm ▸ joined)
  | upper digitsLast joined =>
    exact wordsFrom_joined filled
      (fun word member => (each word member).taken_inCapitals (digitsLast word member)) joined
  | camel long =>
    cases words with
    | nil => rfl
    | cons first rest =>
      rcases List.forall_mem_cons.mp each with ⟨isWord, others⟩
      have begun : first.reverse ≠ [] := by simpa using isWord.ne_nil
      rw [camelCase, isWord.wordsFrom_append,
        wordsFrom_pascalCase begun others (List.forall_mem_cons.mp long).2, List.reverse_reverse]
  | pascal long =>
    cases words with
    | nil => rfl
    | cons first rest =>
      rcases List.forall_mem_cons.mp each with ⟨isWord, others⟩
      rcases List.forall_mem_cons.mp long with ⟨own, later⟩
      have begun : first.reverse ≠ [] := by simpa using isWord.ne_nil
      have split : pascalCase (first :: rest) = capitalized first ++ pascalCase rest :=
        List.flatMap_cons
      rw [split, isWord.wordsFrom_capitalized own, wordsFrom_pascalCase begun others later,
        List.reverse_reverse]

/-! ## Keys in no style -/

/-- A word under way that ends in a small letter or a digit is not empty, so
no empty word comes about. -/
theorem ne_nil_of_mem_wordsFrom {word : List Char} {afterLower : Bool}
    (begun : afterLower = true -> word ≠ []) :
    ∀ found ∈ wordsFrom word afterLower text, found ≠ [] := by
  have none : ∀ word : List Char, false = true -> word ≠ [] := fun _ same => nomatch same
  induction text generalizing word afterLower with
  | nil =>
    intro found member
    cases word with
    | nil => cases member
    | cons c others =>
      rw [wordsFrom_nil (List.cons_ne_nil c others), List.mem_singleton] at member
      simp [member]
  | cons c rest ih =>
    intro found member
    rw [wordsFrom] at member
    split at member
    · split at member
      · exact ih (none []) found member
      · next filled =>
        rcases List.mem_cons.mp member with rfl | later
        · simpa using filled
        · exact ih (none []) found later
    · dsimp only at member
      split at member
      · next ends =>
        rcases List.mem_cons.mp member with rfl | later
        · simpa using begun (Bool.and_eq_true_iff.mp ends).2
        · exact ih (fun _ => List.cons_ne_nil _ _) found later
      · exact ih (fun _ => List.cons_ne_nil _ _) found member

/-- Put together, the words are the letters and digits of the text in lower
case. -/
theorem flatten_wordsFrom (word : List Char) (afterLower : Bool) :
    (wordsFrom word afterLower text).flatten =
      word.reverse ++ (text.filter Char.isAlphanum).map Char.toLower := by
  induction text generalizing word afterLower with
  | nil =>
    rw [wordsFrom]
    split
    · next empty => simp [List.isEmpty_iff.mp empty]
    · simp
  | cons c rest ih =>
    rw [wordsFrom]
    split
    · next apart =>
      have lost : c.isAlphanum = false := by simpa using apart
      split
      · next empty => simp [ih, lost, List.isEmpty_iff.mp empty]
      · simp [ih, lost]
    · next counts =>
      have kept : c.isAlphanum = true := by simpa using counts
      dsimp only
      split <;> simp [ih, kept]

/-- All spellings of some words have these words, and hold zone ids alike.
Whatever the key, none of its words is empty, and together they are its
letters and digits in lower case. -/
theorem keyWords_exact :
    (∀ words : List (List Char), (∀ word ∈ words, IsWord word) ->
      ∀ key : String, Spelling words key.toList ->
        keyWords key = words.map String.ofList ∧
        ∀ other : String, Spelling words other.toList -> holdsZoneIds other = holdsZoneIds key) ∧
    ∀ key : String, (∀ word ∈ keyWords key, word ≠ "") ∧
      (keyWords key).flatMap String.toList =
        (key.toList.filter Char.isAlphanum).map Char.toLower := by
  constructor
  · intro words each key spelling
    have found : ∀ other : String, Spelling words other.toList ->
        keyWords other = words.map String.ofList :=
      fun other spelling => congrArg (List.map String.ofList) (wordsFrom_spelling each spelling)
    refine ⟨found key spelling, fun other again => ?_⟩
    unfold holdsZoneIds
    rw [found key spelling, found other again]
  · intro key
    constructor
    · intro word member
      rcases List.mem_map.mp member with ⟨chars, found, rfl⟩
      have none : false = true -> ([] : List Char) ≠ [] := fun same => nomatch same
      simpa using ne_nil_of_mem_wordsFrom none chars found
    · unfold keyWords
      rw [List.flatMap_map]
      have plain : ∀ found : List (List Char),
          found.flatMap (fun chars => (String.ofList chars).toList) = found.flatten := by
        intro found
        simp [List.flatMap_def]
      rw [plain, flatten_wordsFrom]
      rfl

/-- Two words, the first of which ends in a digit. -/
def zoneIds : List (List Char) :=
  [['z', 'o', 'n', 'e', '2'], ['i', 'd', 's']]

theorem isWord_zoneIds : ∀ word ∈ zoneIds, IsWord word := by
  simp [zoneIds, IsWord]

theorem camel_zoneIds : Spelling zoneIds "zone2Ids".toList := by
  have spelled : "zone2Ids".toList = camelCase zoneIds := by decide
  rw [spelled]
  exact .camel (by decide)

theorem upper_zoneIds : Spelling zoneIds "ZONE2 / IDS".toList := by
  have digitsLast : ∀ word ∈ zoneIds, DigitsLast word := by simp [zoneIds, DigitsLast]
  have spelled : "ZONE2 / IDS".toList =
      inCapitals ['z', 'o', 'n', 'e', '2'] ++ ([' ', '/', ' '] ++ inCapitals ['i', 'd', 's']) := by
    decide
  have apart : ∀ c ∈ [' ', '/', ' '], c.isAlphanum = false := by simp
  rw [spelled]
  exact .upper digitsLast (.more (List.cons_ne_nil _ _) apart .one)

theorem keyWords_exact_zoneIds : (∀ word ∈ zoneIds, IsWord word) ∧
    Spelling zoneIds "zone2Ids".toList ∧ Spelling zoneIds "ZONE2 / IDS".toList ∧
    keyWords "zone2Ids" = ["zone2", "ids"] ∧
    holdsZoneIds "ZONE2 / IDS" = holdsZoneIds "zone2Ids" := by
  rcases keyWords_exact.1 zoneIds isWord_zoneIds "zone2Ids" camel_zoneIds with ⟨found, alike⟩
  exact ⟨isWord_zoneIds, camel_zoneIds, upper_zoneIds, found, alike _ upper_zoneIds⟩

end Keys

end MapWidget
end Sensornet
