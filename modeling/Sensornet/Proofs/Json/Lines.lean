import Mathlib.Data.List.Forall2
import Sensornet.Json.Document
import Sensornet.Proofs.Json.Legible
import Sensornet.Proofs.Text.Lines

namespace Sensornet
namespace Json

/-!
# A value per line

Several values that stand behind one another, with blanks between them, are no
document: where the first value ends, a blank ends it, and whatever lexeme
follows has no place behind a whole value.  So a text with a value on each of
several lines is not taken for a document, and its lines are read one by one.
Blanks around a document make no difference to its value, as far as it can have
any.
-/

open Text (AllBlank isBlank)

/-! ## Blanks behind a lexeme -/

theorem isBlank_of_isSpace {c : Char} (space : Scan.isSpace c = true) : isBlank c = true := by
  simp only [Scan.isSpace, Bool.or_eq_true, beq_iff_eq] at space
  rcases space with ((rfl | rfl) | rfl) | rfl <;> decide

namespace Scan

variable {s next : Scan} {c : Char} {done : List Lexeme}

/-- The number of lexemes that were begun. -/
def begun (s : Scan) : Nat :=
  s.done.length + if s.mode = .between then 0 else 1

/-- A scan that lost no lexeme of another one and began as many. -/
structure Follows (s next : Scan) : Prop where
  done : s.done <:+ next.done
  begun : s.begun ≤ next.begun

theorem Follows.trans {first second third : Scan} (before : Follows first second)
    (after : Follows second third) : Follows first third :=
  ⟨before.done.trans after.done, before.begun.trans after.begun⟩

/-- A character that is no blank of JSON begins a lexeme. -/
theorem begun_of_begin? (started : begin? done c = some next) :
    Follows ⟨.between, done⟩ next ∧ (isSpace c = false -> done.length < next.begun) := by
  have same : Follows ⟨.between, done⟩ ⟨.between, done⟩ := ⟨List.suffix_refl _, le_rfl⟩
  have longer : ∀ lexeme, Follows ⟨.between, done⟩ ⟨.between, lexeme :: done⟩ := fun lexeme =>
    ⟨List.suffix_cons _ _, by simp [begun]⟩
  have opened : ∀ mode, Follows ⟨.between, done⟩ ⟨mode, done⟩ := fun mode =>
    ⟨List.suffix_refl _, by simp [begun]⟩
  unfold begin? at started
  repeat' split at started
  all_goals cases started
  · next space => exact ⟨same, fun noSpace => by simp [space] at noSpace⟩
  all_goals first
    | exact ⟨longer _, fun _ => by simp [begun]⟩
    | exact ⟨opened _, fun _ => by simp [begun]⟩

theorem begun_of_close? (closed : s.close? = some done) :
    s.done <:+ done ∧ done.length = s.begun := by
  obtain ⟨mode, old⟩ := s
  cases mode with
  | between =>
    cases closed
    exact ⟨List.suffix_refl _, rfl⟩
  | word letters =>
    obtain ⟨lexeme, -, rfl⟩ := Option.map_eq_some_iff.mp closed
    exact ⟨List.suffix_cons _ _, rfl⟩
  | number chars =>
    obtain ⟨n, -, rfl⟩ := Option.map_eq_some_iff.mp closed
    exact ⟨List.suffix_cons _ _, rfl⟩
  | text | escape | unit | partner | partnerMark => cases closed

/-- Closing and beginning anew. -/
theorem follows_of_close? (closed : s.close? = some done)
    (started : begin? done c = some next) : Follows s next := by
  have old := begun_of_close? closed
  have new := (begun_of_begin? started).1
  exact ⟨old.1.trans new.done, old.2 ▸ new.begun⟩

theorem follows_step (stepped : s.step c = some next) : Follows s next := by
  have inside : ∀ {mode other : Mode} {old : List Lexeme}, other ≠ .between ->
      Follows ⟨mode, old⟩ ⟨other, old⟩ := by
    intro mode other old different
    refine ⟨List.suffix_refl _, ?_⟩
    simp only [begun, if_neg different]
    split <;> omega
  obtain ⟨mode, old⟩ := s
  cases mode with
  | between => exact (begun_of_begin? stepped).1
  | word letters | number letters =>
    simp only [step] at stepped
    split at stepped
    · cases stepped
      exact inside Mode.noConfusion
    · obtain ⟨done, closed, started⟩ := Option.bind_eq_some_iff.mp stepped
      exact follows_of_close? closed started
  | text chars =>
    simp only [step] at stepped
    repeat' split at stepped
    all_goals cases stepped
    · exact ⟨List.suffix_cons _ _, by simp [begun]⟩
    · exact inside Mode.noConfusion
    · exact inside Mode.noConfusion
  | escape chars =>
    simp only [step] at stepped
    split at stepped
    · cases stepped
      exact inside Mode.noConfusion
    · obtain ⟨plain, -, rfl⟩ := Option.map_eq_some_iff.mp stepped
      exact inside Mode.noConfusion
  | unit chars high seen value =>
    obtain ⟨digit, -, stepped⟩ := Option.bind_eq_some_iff.mp stepped
    split at stepped
    · cases stepped
      exact inside Mode.noConfusion
    · obtain ⟨mode, unit, rfl⟩ := Option.map_eq_some_iff.mp stepped
      refine inside ?_
      unfold unit? at unit
      repeat' split at unit
      all_goals cases unit
      all_goals exact Mode.noConfusion
  | partner chars high | partnerMark chars high =>
    simp only [step] at stepped
    split at stepped
    · cases stepped
      exact inside Mode.noConfusion
    · cases stepped

theorem follows_run {text : List Char} (reached : s.run text = some next) : Follows s next := by
  induction text generalizing s with
  | nil =>
    cases reached
    exact ⟨List.suffix_refl _, le_rfl⟩
  | cons c rest ih =>
    rw [run] at reached
    split at reached
    · next stepped => exact (follows_step stepped).trans (ih reached)
    · cases reached

/-- A text that is not blank begins a lexeme. -/
theorem begun_of_filled {text : List Char} (filled : ¬ AllBlank text)
    (reached : (⟨.between, done⟩ : Scan).run text = some next) :
    done <:+ next.done ∧ done.length < next.begun := by
  induction text with
  | nil => exact absurd (List.forall_mem_nil _) filled
  | cons c rest ih =>
    rw [run] at reached
    split at reached
    · next after stepped =>
      cases space : isSpace c with
      | true =>
        have skipped : after = ⟨.between, done⟩ :=
          (Option.some.inj (stepped.symm.trans (if_pos space)))
        have others : ¬ AllBlank rest := fun blank =>
          filled (List.forall_mem_cons.mpr ⟨isBlank_of_isSpace space, blank⟩)
        exact ih others (skipped ▸ reached)
      | false =>
        have more := follows_run reached
        have new := begun_of_begin? stepped
        exact ⟨new.1.done.trans more.done, (new.2 space).trans_le more.begun⟩
    · cases reached

/-- A blank behind a lexeme closes it as the end of the text does. -/
theorem close?_of_step_blank (blank : isBlank c = true) (stepped : s.step c = some next)
    (closed : next.close? = some done) : s.close? = some done := by
  have ends := endsScalar_of_isBlank blank
  cases whole : s.close? with
  | some old =>
    rw [step_of_close? whole ends] at stepped
    rcases begin?_blank blank old with stuck | skipped
    · rw [stuck] at stepped
      cases stepped
    · rw [skipped] at stepped
      cases stepped
      exact closed
  | none =>
    -- within a text the next scan is not between lexemes either
    have noQuote : c ≠ '"' := ne_of_isBlank blank rfl
    simp only [endsScalar, Bool.and_eq_true, Bool.not_eq_true'] at ends
    obtain ⟨mode, old⟩ := s
    cases mode with
    | between => cases whole
    | word letters => simp [step, ends.1, whole] at stepped
    | number chars => simp [step, ends.2, whole] at stepped
    | text chars =>
      simp only [step, if_neg noQuote] at stepped
      repeat' split at stepped
      all_goals cases stepped
      all_goals cases closed
    | escape chars =>
      simp only [step] at stepped
      split at stepped
      · cases stepped
        cases closed
      · obtain ⟨plain, -, rfl⟩ := Option.map_eq_some_iff.mp stepped
        cases closed
    | unit chars high seen value =>
      obtain ⟨digit, -, stepped⟩ := Option.bind_eq_some_iff.mp stepped
      split at stepped
      · cases stepped
        cases closed
      · obtain ⟨mode, unit, rfl⟩ := Option.map_eq_some_iff.mp stepped
        unfold unit? at unit
        repeat' split at unit
        all_goals cases unit
        all_goals cases closed
    | partner chars high | partnerMark chars high =>
      simp only [step] at stepped
      split at stepped
      · cases stepped
        cases closed
      · cases stepped

end Scan

/-! ## Trimming a document -/

section

variable {text back : List Char} {lexemes : List Lexeme}

theorem lexemes?_eq_some_iff : lexemes? text = some lexemes ↔
    ∃ s, Scan.start.run text = some s ∧ s.close? = some lexemes.reverse := by
  unfold lexemes?
  rw [Option.map_eq_some_iff]
  simp only [Option.bind_eq_some_iff]
  constructor
  · rintro ⟨done, ⟨s, reached, closed⟩, rfl⟩
    exact ⟨s, reached, by rwa [List.reverse_reverse]⟩
  · rintro ⟨s, reached, closed⟩
    exact ⟨_, ⟨s, reached, closed⟩, List.reverse_reverse lexemes⟩

theorem lexemes?_concat_of_blank {c : Char} (blank : isBlank c = true)
    (cut : lexemes? (text ++ [c]) = some lexemes) : lexemes? text = some lexemes := by
  obtain ⟨next, reached, closed⟩ := lexemes?_eq_some_iff.mp cut
  rw [Scan.run_append] at reached
  obtain ⟨s, reached, last⟩ := Option.bind_eq_some_iff.mp reached
  have stepped : s.step c = some next := by
    rw [Scan.run] at last
    split at last
    · next stepped => exact stepped.trans last
    · cases last
  exact lexemes?_eq_some_iff.mpr ⟨s, reached, Scan.close?_of_step_blank blank stepped closed⟩

theorem lexemes?_append_of_blank (blank : AllBlank back)
    (cut : lexemes? (text ++ back) = some lexemes) : lexemes? text = some lexemes := by
  induction back using List.reverseRecOn with
  | nil => rwa [List.append_nil] at cut
  | append_singleton back c ih =>
    rw [← List.append_assoc] at cut
    exact ih blank.left (lexemes?_concat_of_blank (blank.right c List.mem_cons_self) cut)

theorem lexemes?_trimStart (cut : lexemes? text = some lexemes) :
    lexemes? (Text.trimStart text) = some lexemes := by
  obtain ⟨s, reached, closed⟩ := lexemes?_eq_some_iff.mp cut
  exact lexemes?_eq_some_iff.mpr ⟨s, Scan.run_trimStart reached, closed⟩

/-- Blanks around a document hold no lexeme. -/
theorem lexemes?_trim (cut : lexemes? text = some lexemes) :
    lexemes? (Text.trim text) = some lexemes := by
  have start := lexemes?_trimStart cut
  rw [← List.rdropWhile_append_rtakeWhile (p := isBlank) (l := Text.trimStart text)] at start
  exact lexemes?_append_of_blank (fun c member => List.mem_rtakeWhile_imp member) start

end

/-- Nothing may follow a whole value. -/
theorem Reading.run_whole {r : Reading} {v : Value} (whole : r.place = .whole v)
    {lexemes : List Lexeme} (some : lexemes ≠ []) : r.run lexemes = none := by
  cases lexemes with
  | nil => exact absurd rfl some
  | cons lexeme rest =>
    have stuck : r.step lexeme = none := by
      unfold Reading.step
      rw [whole]
    rw [Reading.run, stuck]

/-! ## Written on one line -/

theorem hexDigit_ne_feed : ∀ n < 16, hexDigit n ≠ '\n' := by decide

/-- A line end is escaped, and no escape holds one. -/
theorem feed_not_mem_escape (c : Char) : '\n' ∉ escape c := by
  rcases escape_cases c with short | ⟨control, written⟩ | ⟨plain, -, -, written⟩
  · rcases short with rfl | rfl | rfl | rfl | rfl | rfl | rfl <;> decide
  · have high := hexDigit_ne_feed (c.toNat / 16) (by omega)
    have low := hexDigit_ne_feed (c.toNat % 16) (by omega)
    simp [written, high.symm, low.symm]
  · rw [written, List.mem_singleton]
    exact fun feed => absurd plain (feed ▸ by decide)

theorem feed_not_mem_quoted (s : String) : '\n' ∉ quoted s := by
  have inside : '\n' ∉ s.toList.flatMap escape := by
    intro member
    obtain ⟨c, -, member⟩ := List.mem_flatMap.mp member
    exact feed_not_mem_escape c member
  simp [quoted, inside]

namespace Value

mutual

/-- The compact text of a value is a single line. -/
theorem feed_not_mem_compactChars : ∀ v : Value, '\n' ∉ v.compactChars
  | .null => by decide
  | .bool true => by decide
  | .bool false => by decide
  | .number n => fun member => absurd (n.continuesNumber_of_mem_chars member) (by decide)
  | .text s => feed_not_mem_quoted s
  | .array items => by
    have inside := feed_not_mem_compactItems items
    simp [compactChars, inside]
  | .object fields => by
    have inside := feed_not_mem_compactFields fields
    simp [compactChars, inside]

theorem feed_not_mem_compactItems : ∀ items : List Value, '\n' ∉ compactItems items
  | [] => List.not_mem_nil
  | item :: rest => by
    have first := feed_not_mem_compactChars item
    have others := feed_not_mem_compactItems rest
    cases rest <;> simp [compactItems, first] at others ⊢
    exact others

theorem feed_not_mem_compactFields : ∀ fields : Fields, '\n' ∉ compactFields fields
  | [] => List.not_mem_nil
  | (key, item) :: rest => by
    have name := feed_not_mem_quoted key
    have first := feed_not_mem_compactChars item
    have others := feed_not_mem_compactFields rest
    cases rest <;> simp [compactFields, name, first] at others ⊢
    exact others

end

/-! ## Documents and blanks -/

variable {text front gap back : List Char} {v : Value}

theorem ofChars?_eq_some_iff : ofChars? text = some v ↔
    ∃ lexemes r, lexemes? text = some lexemes ∧ Reading.start.run lexemes = some r ∧
      r.place = .whole v := by
  unfold ofChars?
  simp only [Option.bind_eq_some_iff]
  have result : ∀ r : Reading, r.result? = some v ↔ r.place = .whole v := by
    intro r
    unfold Reading.result?
    cases r.place <;> simp
  simp only [result, ← exists_and_left]

theorem ofChars?_trimStart (read : ofChars? text = some v) :
    ofChars? (Text.trimStart text) = some v := by
  obtain ⟨lexemes, r, cut, read⟩ := ofChars?_eq_some_iff.mp read
  exact ofChars?_eq_some_iff.mpr ⟨lexemes, r, lexemes?_trimStart cut, read⟩

theorem ofChars?_trim (read : ofChars? text = some v) : ofChars? (Text.trim text) = some v := by
  obtain ⟨lexemes, r, cut, read⟩ := ofChars?_eq_some_iff.mp read
  exact ofChars?_eq_some_iff.mpr ⟨lexemes, r, lexemes?_trim cut, read⟩

theorem not_allBlank_of_ofChars? (read : ofChars? text = some v) : ¬ AllBlank text := by
  intro blank
  have trimmed := ofChars?_trim read
  rw [Text.trim_eq_nil_iff.mpr blank] at trimmed
  cases trimmed

/-- A lexeme behind a document and a blank comes to the lexemes of the
document. -/
theorem exists_lexemes_append {c : Char} (blank : isBlank c = true) (filled : ¬ AllBlank back)
    {lexemes all : List Lexeme} (cut : lexemes? front = some lexemes)
    (whole : lexemes? (front ++ c :: back) = some all) :
    ∃ more, more ≠ [] ∧ all = lexemes ++ more := by
  obtain ⟨s, reached, closed⟩ := lexemes?_eq_some_iff.mp cut
  obtain ⟨next, reachedToo, closedToo⟩ := lexemes?_eq_some_iff.mp whole
  rw [Scan.run_append, reached, Option.bind_some, Scan.run,
    Scan.step_of_close? closed (endsScalar_of_isBlank blank)] at reachedToo
  rcases Scan.begin?_blank blank lexemes.reverse with stuck | skipped
  · simp [stuck] at reachedToo
  rw [skipped] at reachedToo
  obtain ⟨kept, longer⟩ := Scan.begun_of_filled filled reachedToo
  obtain ⟨keptToo, length⟩ := Scan.begun_of_close? closedToo
  obtain ⟨more, rfl⟩ := List.reverse_suffix.mp (kept.trans keptToo)
  refine ⟨more, fun none => ?_, rfl⟩
  simp only [none, List.append_nil] at length
  omega

/-- A value, blanks and something that is not blank are no document. -/
theorem ofChars?_append (read : ofChars? front = some v) (blank : AllBlank gap) (some : gap ≠ [])
    (filled : ¬ AllBlank back) : ofChars? (front ++ gap ++ back) = none := by
  rw [Option.eq_none_iff_forall_ne_some]
  intro w readToo
  obtain ⟨c, others, rfl⟩ := List.exists_cons_of_ne_nil some
  rw [List.append_assoc, List.cons_append] at readToo
  obtain ⟨lexemes, r, cut, reached, whole⟩ := ofChars?_eq_some_iff.mp read
  obtain ⟨all, last, cutToo, reachedToo, -⟩ := ofChars?_eq_some_iff.mp readToo
  have rest : ¬ AllBlank (others ++ back) := fun both => filled both.right
  obtain ⟨more, longer, rfl⟩ :=
    exists_lexemes_append (blank c List.mem_cons_self) rest cut cutToo
  rw [Reading.run_append, reached, Option.bind_some, Reading.run_whole whole longer] at reachedToo
  cases reachedToo

/-! ## Values on lines -/

/-- A text without line ends that is a document. -/
structure IsLine (v : Value) (line : List Char) : Prop where
  single : '\n' ∉ line
  read : ofChars? line = some v

/-- What a value is written as compactly is a line with that value, if it is
read back at all. -/
theorem ReadsBack.isLine (back : v.ReadsBack) : v.IsLine v.compactChars where
  single := feed_not_mem_compactChars v
  read := by rwa [ReadsBack, ofText?, compact, String.toList_ofList] at back

/-- A text with these values in order, each on a line of its own.  There may be
blanks around each of them, among these further line ends.  A carriage return in
front of a line feed is such a blank. -/
inductive OnLines : List Value -> List Char -> Prop where
  | last {v : Value} {front line back : List Char} (before : AllBlank front) (own : v.IsLine line)
    (after : AllBlank back) : OnLines [v] (front ++ line ++ back)
  | cons {v : Value} {values : List Value} {front line back rest : List Char}
    (before : AllBlank front) (own : v.IsLine line) (after : AllBlank back)
    (more : OnLines values rest) :
    OnLines (v :: values) (front ++ line ++ back ++ '\n' :: rest)

variable {values : List Value}

theorem OnLines.not_allBlank (lines : OnLines values text) : ¬ AllBlank text := by
  cases lines with
  | last before own after =>
    exact fun blank => not_allBlank_of_ofChars? own.read blank.left.right
  | cons before own after more =>
    exact fun blank => not_allBlank_of_ofChars? own.read blank.left.left.right

/-- Several lines are no document, trimmed or not. -/
theorem OnLines.ofChars?_trim (lines : OnLines values text) (several : 2 ≤ values.length) :
    ofChars? (Text.trim text) = none := by
  cases lines with
  | last => simp at several
  | @cons v values front line back rest before own after more =>
    have line_filled := not_allBlank_of_ofChars? own.read
    have first_filled : ¬ AllBlank (front ++ line ++ back ++ ['\n']) :=
      fun blank => line_filled blank.left.left.right
    have first : Text.trimStart (front ++ line ++ back ++ ['\n']) =
        Text.trimStart line ++ (back ++ ['\n']) := by
      rw [List.append_assoc, List.append_assoc, Text.trimStart_append_of_blank before,
        Text.trimStart_append line_filled]
    have last_filled : ¬ AllBlank (rest.rdropWhile isBlank) := by
      intro blank
      refine more.not_allBlank ?_
      rw [← List.rdropWhile_append_rtakeWhile (p := isBlank) (l := rest)]
      exact blank.append fun c member => List.mem_rtakeWhile_imp member
    have gap : AllBlank (back ++ ['\n']) := after.append (List.forall_mem_singleton.mpr rfl)
    rw [List.append_cons, Text.trim_append first_filled more.not_allBlank, first]
    exact ofChars?_append (ofChars?_trimStart own.read) gap (by simp) last_filled

/-- The filled lines are the texts of the values. -/
theorem OnLines.filledLines (lines : OnLines values text) :
    List.Forall₂ (fun line v => ofChars? line = some v) (Text.filledLines text) values := by
  have single : ∀ {v : Value} {front line back : List Char}, AllBlank front -> v.IsLine line ->
      AllBlank back -> Text.filledLines (front ++ line ++ back) = [Text.trim line] := by
    intro v front line back before own after
    rw [Text.filledLines_append_of_blank before line after,
      Text.filledLines_line own.single (not_allBlank_of_ofChars? own.read)]
  induction lines with
  | last before own after =>
    rw [single before own after]
    exact .cons (Value.ofChars?_trim own.read) .nil
  | cons before own after more ih =>
    rw [Text.filledLines_append_cons, single before own after]
    exact .cons (Value.ofChars?_trim own.read) ih

/-! ## Reading the lines -/

/-- A reader of documents, which may refuse what is none in any way. -/
def Reads {Fault : Type} (read : List Char -> Except Fault Value) : Prop :=
  ∀ text v, read text = .ok v ↔ ofChars? text = some v

theorem reads_ofDocument (what : String) : Reads (ofDocument what) := by
  intro text v
  unfold ofDocument
  cases ofChars? text <;> simp

section

variable {Fault : Type} {read : List Char -> Except Fault Value}

theorem mapM_eq_ok_iff {lines : List (List Char)} :
    lines.mapM read = .ok values ↔
      List.Forall₂ (fun line v => read line = .ok v) lines values := by
  induction lines generalizing values with
  | nil =>
    rw [List.mapM_nil, List.forall₂_nil_left_iff]
    exact ⟨fun done => (Except.ok.inj done).symm, fun none => none ▸ rfl⟩
  | cons line lines ih =>
    rw [List.mapM_cons, List.forall₂_cons_left_iff]
    cases first : read line with
    | error fault => simp [bind, Except.bind]
    | ok v =>
      cases others : lines.mapM read with
      | error fault =>
        simp only [others, reduceCtorEq, false_iff] at ih
        simp [bind, Except.bind, ih]
      | ok rest =>
        simp [bind, Except.bind, pure, Except.pure, ← ih, others, eq_comm]

/-- A text with a value on each of several lines comes to the array of them. -/
theorem readInput_of_onLines (reads : Reads read) (lines : OnLines values text)
    (several : 2 ≤ values.length) :
    readInput read (String.ofList text) = .ok (.array values) := by
  have some : (Text.trim text).isEmpty = false := by
    rw [List.isEmpty_eq_false_iff]
    exact fun none => lines.not_allBlank (Text.trim_eq_nil_iff.mp none)
  obtain ⟨fault, refused⟩ : ∃ fault, read (Text.trim text) = .error fault := by
    cases whole : read (Text.trim text) with
    | error fault => exact ⟨fault, rfl⟩
    | ok v =>
      have none := lines.ofChars?_trim several
      rw [(reads _ v).mp whole] at none
      cases none
  have each := List.Forall₂.imp (fun line v => (reads line v).mpr) lines.filledLines
  have enough : ¬ (Text.filledLines text).length < 2 := by
    have length := each.length_eq
    omega
  simp only [readInput, String.toList_ofList, some, Bool.false_eq_true, if_false, refused,
    Text.filledLines_trim, if_neg enough, mapM_eq_ok_iff.mpr each]

/-- A line that is no value leaves the fault of the whole text. -/
theorem readInput_of_faulty {text : String} (reads : Reads read)
    (several : 2 ≤ (Text.filledLines text.toList).length) {line : List Char}
    (among : line ∈ Text.filledLines text.toList) (faulty : ofChars? line = none) {fault : Fault}
    (refused : read (Text.trim text.toList) = .error fault) :
    readInput read text = .error fault := by
  have some : (Text.trim text.toList).isEmpty = false := by
    rw [List.isEmpty_eq_false_iff]
    intro none
    rw [← Text.filledLines_trim, none] at several
    exact absurd several (by decide)
  obtain ⟨other, stuck⟩ : ∃ other, (Text.filledLines text.toList).mapM read = .error other := by
    cases each : (Text.filledLines text.toList).mapM read with
    | error other => exact ⟨other, rfl⟩
    | ok values =>
      have all := mapM_eq_ok_iff.mp each
      obtain ⟨i, bound, rfl⟩ := List.getElem_of_mem among
      have found := (reads _ _).mp (all.get bound (all.length_eq ▸ bound))
      rw [List.get_eq_getElem, faulty] at found
      cases found
  simp only [readInput, some, Bool.false_eq_true, if_false, refused, Text.filledLines_trim,
    if_neg (Nat.not_lt.mpr several), stuck]

/-- Whatever reads the documents, a text with a value on each of several lines
comes to the array of these values, and a text with a line that is no value
comes to the fault of the whole text.  A value that is read back from what it is
written as may stand on a line in that form. -/
theorem readInput_lines (reads : Reads read) :
    (∀ values text, 2 ≤ values.length -> OnLines values text ->
      readInput read (String.ofList text) = .ok (.array values)) ∧
    (∀ text fault, 2 ≤ (Text.filledLines text.toList).length ->
      (∃ line ∈ Text.filledLines text.toList, ofChars? line = none) ->
      read (Text.trim text.toList) = .error fault -> readInput read text = .error fault) ∧
    (∀ v : Value, v.ReadsBack -> v.IsLine v.compactChars) ∧
    (∀ what, Reads (ofDocument what) ∧ ofInput what = readInput (ofDocument what)) := by
  refine ⟨?_, ?_, fun v => ReadsBack.isLine, fun what => ⟨reads_ofDocument what, rfl⟩⟩
  · intro values text several lines
    exact readInput_of_onLines reads lines several
  · rintro text fault several ⟨line, among, faulty⟩ refused
    exact readInput_of_faulty reads several among faulty refused

/-- A carriage return, a no-break space and blank lines around two values, and
two lines of which the second one is no value. -/
theorem readInput_lines_blanks :
    ofInput "input" "\n\x7b\"a\":1\x7d\r\n \n\u00a0[2]\t\n" =
      .ok (.array [.object [("a", .number (.integer 1))], .array [.number (.integer 2)]]) ∧
    ofInput "input" "1\n\x7b nope" = .error (.json "input") := by
  have input := readInput_lines (reads_ofDocument "input")
  have first : (object [("a", .number (.integer 1))]).ReadsBack := rfl
  have second : (array [.number (.integer 2)]).ReadsBack := rfl
  constructor
  · have front : AllBlank ['\n'] := by decide
    have gap : AllBlank ['\r'] := by decide
    have gapToo : AllBlank [' ', '\n', '\u00a0'] := by decide
    have back : AllBlank ['\t', '\n'] := by decide
    have last := OnLines.last gapToo (input.2.2.1 _ second) back
    have both := OnLines.cons front (input.2.2.1 _ first) gap last
    exact input.1 _ _ (by decide) both
  · exact input.2.1 _ _ (by decide) ⟨"\x7b nope".toList, by decide, by decide⟩ rfl

end

end Value

end Json
end Sensornet
