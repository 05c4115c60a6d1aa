import Mathlib.Data.List.Basic
import Mathlib.Data.List.Induction
import ProviderRouting.Sources.ProductionLines

/-!
# Lines with a comment

A comment at the end of a line starts behind a blank.  The line keeps its code and its mark of test
code, but it is not blank any more, and it ends as the comment ends.  In a text the comment stands
before the line break, which may have taken a carriage return off the line.
-/

namespace ProviderRouting

namespace Text

variable {letters tail gap : List Char}

theorem trimEnd_eq_nil_iff : trimEnd letters = [] ↔ allBlank letters = true := by
  induction letters with
  | nil => simp [trimEnd, allBlank]
  | cons letter rest ih =>
    simp only [trimEnd, allBlank, List.all_cons, Bool.and_eq_true] at ih ⊢
    cases kept : trimEnd rest with
    | nil => simp [ih.1 kept]
    | cons head more =>
      have visible : ¬ rest.all isBlank = true := fun blank => by simp [ih.2 blank] at kept
      simp [visible]

/-- What is not blank ends the part that trimming keeps. -/
theorem trimEnd_append_of_visible (visible : allBlank tail = false) :
    trimEnd (letters ++ tail) = letters ++ trimEnd tail := by
  induction letters with
  | nil => rfl
  | cons letter rest ih =>
    have kept : trimEnd tail ≠ [] := fun none => by simp [trimEnd_eq_nil_iff.1 none] at visible
    rw [List.cons_append, trimEnd, ih]
    cases seen : rest ++ trimEnd tail with
    | nil => exact absurd (List.append_eq_nil_iff.1 seen).2 kept
    | cons head more => simp [← seen]

theorem trimEnd_append_of_blank (blank : allBlank tail = true) :
    trimEnd (letters ++ tail) = trimEnd letters := by
  induction letters with
  | nil => exact trimEnd_eq_nil_iff.2 blank
  | cons letter rest ih => rw [List.cons_append, trimEnd, trimEnd, ih]

theorem allBlank_append_of_blank (blank : allBlank tail = true) :
    allBlank (letters ++ tail) = allBlank letters := by
  simp only [allBlank, List.all_append] at blank ⊢
  rw [blank, Bool.and_true]

/-- Trimming takes off blanks only. -/
theorem exists_trimEnd_append (letters : List Char) :
    ∃ pad, allBlank pad = true ∧ letters = trimEnd letters ++ pad := by
  induction letters with
  | nil => exact ⟨[], rfl, rfl⟩
  | cons letter rest ih =>
    obtain ⟨pad, blank, split⟩ := ih
    rw [trimEnd]
    cases kept : trimEnd rest with
    | nil =>
      rw [kept, List.nil_append] at split
      by_cases light : isBlank letter = true
      · refine ⟨letter :: pad, by simpa [allBlank, light] using blank, ?_⟩
        simp [light, split]
      · exact ⟨pad, blank, by simp [light, split]⟩
    | cons head more =>
      rw [kept] at split
      exact ⟨pad, blank, by simp [split]⟩

/-- A text without blanks starts a text that goes on with a blank only if it starts what stands
before that blank. -/
theorem isPrefixOf_append_blank {mark : List Char} (solid : ∀ letter ∈ mark, isBlank letter = false)
    {blank : Char} (light : isBlank blank = true) :
    mark.isPrefixOf (letters ++ blank :: tail) = mark.isPrefixOf letters := by
  induction mark generalizing letters with
  | nil => simp
  | cons first more ih =>
    have dark := solid first List.mem_cons_self
    cases letters with
    | nil =>
      have other : first ≠ blank := fun same => by simp [same, light] at dark
      simp [List.isPrefixOf, other]
    | cons letter rest =>
      rw [List.cons_append, List.isPrefixOf, List.isPrefixOf,
        ih fun letter inside => solid letter (List.mem_cons_of_mem _ inside)]

end Text

namespace Sources

/-! ### Ends of lines -/

/-- Whether a text ends a declaration, blanks at its end aside. -/
def closes (letters : List Char) : Bool := (Text.trimEnd letters).getLast? == some ';'

section Closing

variable {letters tail : List Char}

theorem closes_append_of_blank (blank : Text.allBlank tail = true) :
    closes (letters ++ tail) = closes letters := by
  rw [closes, Text.trimEnd_append_of_blank blank, closes]

theorem closes_append_of_visible (visible : Text.allBlank tail = false) :
    closes (letters ++ tail) = closes tail := by
  have kept : Text.trimEnd tail ≠ [] := fun none => by
    simp [Text.trimEnd_eq_nil_iff.1 none] at visible
  rw [closes, Text.trimEnd_append_of_visible visible, List.getLast?_append_of_ne_nil _ kept, closes]

/-- A letter before an end says nothing about the end, unless it ends a declaration itself. -/
theorem closes_cons {letter : Char} (other : letter ≠ ';') :
    closes (letter :: tail) = closes tail := by
  cases blank : Text.allBlank tail with
  | false => exact (closes_append_of_visible blank : closes ([letter] ++ tail) = closes tail)
  | true =>
    have bare : Text.trimEnd tail = [] := Text.trimEnd_eq_nil_iff.2 blank
    by_cases light : Text.isBlank letter = true <;> simp [closes, Text.trimEnd, bare, light, other]

end Closing

/-! ### Lines with a comment -/

theorem isBlank_slash : Text.isBlank '/' = false := by decide

theorem ne_slash_of_blank {letter : Char} (light : Text.isBlank letter = true) : letter ≠ '/' := by
  rintro rfl
  exact absurd (isBlank_slash.symm.trans light) Bool.false_ne_true

/-- Nothing but blanks stands before the comment of a line without code. -/
theorem dropComment_of_blank {gap : List Char} (blanks : Text.allBlank gap = true)
    (tail : List Char) : dropComment (gap ++ '/' :: '/' :: tail) = gap := by
  induction gap with
  | nil => rfl
  | cons blank rest ih =>
    simp only [Text.allBlank, List.all_cons, Bool.and_eq_true] at blanks ih
    rw [List.cons_append, dropComment.eq_3 _ _ (by simp [ne_slash_of_blank blanks.1]), ih blanks.2]

/-- Dropping the comment leaves what dropping comments left before, and blanks. -/
theorem dropComment_append {blank : Char} (light : Text.isBlank blank = true) {gap : List Char}
    (blanks : Text.allBlank gap = true) (letters tail : List Char) :
    ∃ pad, Text.allBlank pad = true ∧
      dropComment (letters ++ (blank :: gap ++ '/' :: '/' :: tail)) =
        dropComment letters ++ pad := by
  have all : Text.allBlank (blank :: gap) = true := by simpa [Text.allBlank, light] using blanks
  fun_induction dropComment letters with
  | case1 => exact ⟨blank :: gap, all, dropComment_of_blank all tail⟩
  | case2 rest => exact ⟨[], rfl, by simp [dropComment]⟩
  | case3 letter rest single ih =>
    obtain ⟨pad, padded, left⟩ := ih
    refine ⟨pad, padded, ?_⟩
    -- A slash at the end of the line is parted from the mark by the blank.
    have apart : ∀ more, letter = '/' →
        rest ++ (blank :: gap ++ '/' :: '/' :: tail) = '/' :: more → False := by
      intro more same start
      cases rest with
      | nil => exact ne_slash_of_blank light (List.cons.inj start).1
      | cons first rest => exact single rest same (by rw [(List.cons.inj start).1])
    rw [List.cons_append, dropComment.eq_3 _ _ apart, left, List.cons_append]

/-- One line is another one with a comment behind it, and a blank at least before its mark. -/
structure Line.Commented (line commented : Line) (tail : List Char) : Prop where
  /-- The number stays. -/
  number : commented.number = line.number
  /-- The letters go on with blanks, the mark of a comment and its text. -/
  letters : ∃ blank gap, Text.isBlank blank = true ∧ Text.allBlank gap = true ∧
    commented.letters = line.letters ++ (blank :: gap ++ '/' :: '/' :: tail)

namespace Line

/-- What rules compare of a line of code: its number, and its text up to trailing blanks. -/
def shown (line : Line) : Nat × List Char := (line.number, Text.trimEnd line.letters)

theorem testMark_eq :
    testMark = ['#', '[', 'c', 'f', 'g', '(', 't', 'e', 's', 't', ')', ']'] := rfl

theorem testMark_solid : ∀ letter ∈ testMark, Text.isBlank letter = false := by
  rw [testMark_eq]
  simp [Text.isBlank]

/-- The mark has no blanks, so trimming the end of a line is no part of looking for it. -/
theorem isMarked_eq (line : Line) :
    line.isMarked = testMark.isPrefixOf (Text.trimStart line.letters) := by
  obtain ⟨pad, blank, split⟩ := Text.exists_trimEnd_append (Text.trimStart line.letters)
  calc testMark.isPrefixOf (Text.trim line.letters)
      = testMark.isPrefixOf (Text.trim line.letters ++ pad) := by
        cases pad with
        | nil => rw [List.append_nil]
        | cons first more =>
          simp only [Text.allBlank, List.all_cons, Bool.and_eq_true] at blank
          exact (Text.isPrefixOf_append_blank testMark_solid blank.1).symm
    _ = testMark.isPrefixOf (Text.trimStart line.letters) := by rw [Text.trim, ← split]

namespace Commented

variable {line commented : Line} {tail : List Char}

theorem isMarked_eq (behind : Commented line commented tail) :
    commented.isMarked = line.isMarked := by
  obtain ⟨blank, gap, light, blanks, letters⟩ := behind.letters
  rw [Line.isMarked_eq, Line.isMarked_eq, letters, Text.trimStart, Text.trimStart,
    List.dropWhile_append]
  cases start : List.dropWhile Text.isBlank line.letters with
  | nil =>
    have bare : List.dropWhile Text.isBlank (blank :: gap ++ '/' :: '/' :: tail) =
        '/' :: '/' :: tail := by
      rw [List.dropWhile_append_of_pos (by simpa [Text.allBlank, light] using blanks)]
      simp [isBlank_slash]
    rw [bare]
    rfl
  | cons first more =>
    simp only [List.isEmpty_cons, Bool.false_eq_true, if_false, List.cons_append]
    rw [← List.cons_append]
    exact Text.isPrefixOf_append_blank testMark_solid light

theorem isBlank_eq (behind : Commented line commented tail) : commented.isBlank = false := by
  obtain ⟨blank, gap, -, -, letters⟩ := behind.letters
  simp [isBlank, letters, Text.allBlank, isBlank_slash]

theorem endsDeclaration_eq (behind : Commented line commented tail) :
    commented.endsDeclaration = closes tail := by
  obtain ⟨blank, gap, -, -, letters⟩ := behind.letters
  change closes commented.letters = _
  rw [letters, ← List.append_assoc, closes_append_of_visible (by simp [Text.allBlank, isBlank_slash]),
    closes_cons (by decide), closes_cons (by decide)]

theorem code?_map_shown (behind : Commented line commented tail) :
    commented.code?.map shown = line.code?.map shown := by
  obtain ⟨blank, gap, light, blanks, letters⟩ := behind.letters
  obtain ⟨pad, padded, left⟩ := dropComment_append light blanks line.letters tail
  simp only [code?, letters, left, Text.allBlank_append_of_blank padded, behind.number]
  split
  · rfl
  · simp only [Option.map_some, shown, Text.trimEnd_append_of_blank padded]

end Commented

end Line

/-! ### Lines of a text -/

/-- The lines of a text, not numbered yet. -/
def lettersOf (text : List Char) : List (List Char) := linesAmong (text.splitOn '\n')

section Lines

variable {text rest : List Char} {pieces more : List (List Char)}

theorem linesAmong_append (others : more ≠ []) :
    linesAmong (pieces ++ more) = pieces.map dropReturn ++ linesAmong more := by
  induction pieces with
  | nil => rfl
  | cons piece pieces ih =>
    obtain ⟨first, later, split⟩ :=
      List.exists_cons_of_ne_nil (List.append_ne_nil_of_right_ne_nil pieces others)
    rw [List.cons_append, split, linesAmong, ← split, ih, List.map_cons, List.cons_append]
    simp

theorem lettersOf_append_break (text rest : List Char) :
    lettersOf (text ++ '\n' :: rest) =
      (text.splitOn '\n').map dropReturn ++ lettersOf rest := by
  have split : (text ++ '\n' :: rest).splitOn '\n' = text.splitOn '\n' ++ rest.splitOn '\n' :=
    List.splitOnP_append_cons text rest (by simp)
  have others : rest.splitOn '\n' ≠ [] := List.splitOnP_ne_nil _ _
  rw [lettersOf, split, linesAmong_append others, lettersOf]

/-- The lines of a text that has ended its last line stay when the text goes on. -/
theorem lettersOf_append (whole : text = [] ∨ text.getLast? = some '\n') (rest : List Char) :
    lettersOf (text ++ rest) = lettersOf text ++ lettersOf rest := by
  obtain rfl | ended := whole
  · rfl
  · obtain ⟨above, rfl⟩ : ∃ above, text = above ++ ['\n'] :=
      ⟨text.dropLast, (List.dropLast_append_getLast? _ ended).symm⟩
    have none : lettersOf [] = [] := rfl
    rw [List.append_assoc, List.singleton_append, lettersOf_append_break, lettersOf_append_break,
      none, List.append_nil]

theorem lettersOf_of_inline {line : List Char} (inline : '\n' ∉ line) (present : line ≠ []) :
    lettersOf line = [line] := by
  rw [lettersOf, List.splitOn_eq_singleton inline, linesAmong, if_neg present]

theorem lettersOf_inline_break {line : List Char} (inline : '\n' ∉ line) (rest : List Char) :
    lettersOf (line ++ '\n' :: rest) = dropReturn line :: lettersOf rest := by
  rw [lettersOf_append_break, List.splitOn_eq_singleton inline, List.map_singleton,
    List.singleton_append]

theorem numberFrom_append (number : Nat) (above below : List (List Char)) :
    numberFrom number (above ++ below) =
      numberFrom number above ++ numberFrom (number + above.length) below := by
  induction above generalizing number with
  | nil => rfl
  | cons first rest ih =>
    rw [List.cons_append, numberFrom, ih, numberFrom, List.cons_append, List.length_cons,
      Nat.add_assoc, Nat.add_comm 1]

end Lines

/-- A way to end a line, which drops blanks at its end at most. -/
structure Finishes (finish : List Char → List Char) : Prop where
  /-- Only blanks are dropped. -/
  pads : ∀ letters, ∃ pad, Text.allBlank pad = true ∧ letters = finish letters ++ pad
  /-- Only the end is looked at. -/
  append : ∀ letters tail, tail ≠ [] → finish (letters ++ tail) = letters ++ finish tail

theorem finishes_id : Finishes id where
  pads letters := ⟨[], rfl, (List.append_nil letters).symm⟩
  append _ _ _ := rfl

theorem finishes_dropReturn : Finishes dropReturn where
  pads letters := by
    by_cases back : letters.getLast? = some '\r'
    · refine ⟨['\r'], rfl, ?_⟩
      rw [dropReturn, if_pos back, List.dropLast_append_getLast? _ back]
    · exact ⟨[], rfl, by rw [dropReturn, if_neg back, List.append_nil]⟩
  append letters tail present := by
    rw [dropReturn, dropReturn, List.getLast?_append_of_ne_nil _ present,
      List.dropLast_append_of_ne_nil present]
    split <;> rfl

namespace Finishes

variable {finish : List Char → List Char}

/-- What blanks at the end do not change, the way a line ends does not change. -/
theorem eq_of_append (finishes : Finishes finish) {look : List Char → Bool}
    (blind : ∀ letters pad, Text.allBlank pad = true → look (letters ++ pad) = look letters)
    (letters : List Char) : look (finish letters) = look letters := by
  obtain ⟨pad, blank, split⟩ := finishes.pads letters
  calc look (finish letters)
      = look (finish letters ++ pad) := (blind _ pad blank).symm
    _ = look letters := by rw [← split]

theorem closes_eq (finishes : Finishes finish) (letters : List Char) :
    closes (finish letters) = closes letters :=
  finishes.eq_of_append (fun _ _ => closes_append_of_blank) letters

theorem allBlank_eq (finishes : Finishes finish) (letters : List Char) :
    Text.allBlank (finish letters) = Text.allBlank letters :=
  finishes.eq_of_append (fun _ _ => Text.allBlank_append_of_blank) letters

/-- A comment stands behind what the line was, also where the line had lost a carriage return. -/
theorem commented (finishes : Finishes finish) (number : Nat) (letters comment : List Char) :
    Line.Commented ⟨number, finish letters⟩
      ⟨number, finish (letters ++ ' ' :: '/' :: '/' :: ' ' :: comment)⟩
      (finish (' ' :: comment)) where
  number := rfl
  letters := by
    obtain ⟨pad, padded, split⟩ := finishes.pads letters
    obtain ⟨blank, gap, joined⟩ : ∃ blank gap, pad ++ [' '] = blank :: gap :=
      List.exists_cons_of_ne_nil (by simp)
    have blanks : Text.allBlank (blank :: gap) = true := by
      rw [← joined, Text.allBlank_append_of_blank (by decide), padded]
    simp only [Text.allBlank, List.all_cons, Bool.and_eq_true] at blanks
    refine ⟨blank, gap, blanks.1, blanks.2, ?_⟩
    calc finish (letters ++ ' ' :: '/' :: '/' :: ' ' :: comment)
        = finish (letters ++ [' ', '/', '/'] ++ ' ' :: comment) := by simp
      _ = letters ++ [' ', '/', '/'] ++ finish (' ' :: comment) :=
        finishes.append _ _ (List.cons_ne_nil _ _)
      _ = finish letters ++ (pad ++ [' ']) ++ '/' :: '/' :: finish (' ' :: comment) := by
        rw [← List.append_assoc, ← split]
        simp
      _ = finish letters ++ (blank :: gap ++ '/' :: '/' :: finish (' ' :: comment)) := by
        rw [joined, List.append_assoc]

end Finishes

/-- A text cut at one of its lines: what stands before the line, the line, and what stands after
it, from its line break on.  The last line may lack the break, but then it is not empty. -/
structure LineAt (before line after : String) : Prop where
  /-- The line starts a text, or follows a line break. -/
  starts : before.toList = [] ∨ before.toList.getLast? = some '\n'
  /-- The line has no break in it. -/
  inline : '\n' ∉ line.toList
  /-- The line ends with a break or with the text. -/
  ends : ['\n'] <+: after.toList ∨ ['\r', '\n'] <+: after.toList ∨
    (after.toList = [] ∧ line.toList ≠ [])

namespace LineAt

variable {before line after comment : String}

/-- The lines from a place on: the line there, and lines that do not depend on it. -/
theorem lettersOf_eq (place : LineAt before line after) :
    ∃ (finish : List Char → List Char) (below : List (List Char)), Finishes finish ∧
      ∀ letters, '\n' ∉ letters → (line.toList ≠ [] → letters ≠ []) →
        lettersOf (letters ++ after.toList) = finish letters :: below := by
  obtain ⟨rest, split⟩ | ⟨rest, split⟩ | ⟨none, present⟩ := place.ends
  · refine ⟨dropReturn, lettersOf rest, finishes_dropReturn, fun letters inline _ => ?_⟩
    rw [← split, List.singleton_append, lettersOf_inline_break inline]
  · refine ⟨id, lettersOf rest, finishes_id, fun letters inline _ => ?_⟩
    have longer : '\n' ∉ letters ++ ['\r'] := by simp [inline]
    have lone : dropReturn (letters ++ ['\r']) = letters := by simp [dropReturn]
    have shape : letters ++ (['\r', '\n'] ++ rest) = letters ++ ['\r'] ++ '\n' :: rest := by simp
    rw [← split, shape, lettersOf_inline_break longer, lone, id]
  · refine ⟨id, [], finishes_id, fun letters inline kept => ?_⟩
    rw [none, List.append_nil, lettersOf_of_inline inline (kept present), id]

/-- A text with a comment at one of its lines has the lines of the text, but for that one. -/
theorem exists_lines (place : LineAt before line after) (inline : '\n' ∉ comment.toList) :
    ∃ (current commented : Line) (below : List Line) (tail : List Char),
      linesOf (before ++ line ++ after).toList = linesOf before.toList ++ current :: below ∧
      linesOf (before ++ line ++ " // " ++ comment ++ after).toList =
        linesOf before.toList ++ commented :: below ∧
      current.Commented commented tail ∧ closes tail = closes comment.toList ∧
      current.isBlank = Text.allBlank line.toList ∧
      current.endsDeclaration = closes line.toList := by
  obtain ⟨finish, below, finishes, lines⟩ := place.lettersOf_eq
  let number := 1 + (lettersOf before.toList).length
  have numbered : ∀ letters, '\n' ∉ letters → (line.toList ≠ [] → letters ≠ []) →
      linesOf (before.toList ++ (letters ++ after.toList)) =
        linesOf before.toList ++ ⟨number, finish letters⟩ :: numberFrom (number + 1) below := by
    intro letters inline kept
    change numberFrom 1 (lettersOf _) = numberFrom 1 (lettersOf _) ++ _
    rw [lettersOf_append place.starts, lines letters inline kept, numberFrom_append, numberFrom]
  let added := line.toList ++ ' ' :: '/' :: '/' :: ' ' :: comment.toList
  have whole : '\n' ∉ added := by simp [added, place.inline, inline]
  refine ⟨⟨number, finish line.toList⟩, ⟨number, finish added⟩, numberFrom (number + 1) below,
    finish (' ' :: comment.toList), ?_, ?_, finishes.commented number _ _, ?_,
    finishes.allBlank_eq _, finishes.closes_eq _⟩
  · rw [String.toList_append, String.toList_append, List.append_assoc,
      numbered line.toList place.inline id]
  · have shape : (before ++ line ++ " // " ++ comment ++ after).toList =
        before.toList ++ (added ++ after.toList) := by
      simp [added, String.toList_append]
    rw [shape, numbered added whole (by simp [added])]
  · rw [finishes.closes_eq, closes_cons (by decide)]

end LineAt

/-- The first line of a text that holds a line break, and what the break ends it with. -/
theorem exists_first_line {first : List Char} (inline : '\n' ∉ first) (rest : List Char) :
    ∃ after, first ++ '\n' :: rest = dropReturn first ++ after ∧
      LineAt "" (String.ofList (dropReturn first)) (String.ofList after) := by
  by_cases back : first.getLast? = some '\r'
  · have split := List.dropLast_append_getLast? _ back
    refine ⟨'\r' :: '\n' :: rest, ?_, .inl rfl, ?_, .inr (.inl ⟨rest, by simp⟩)⟩
    · rw [dropReturn, if_pos back]
      calc first ++ '\n' :: rest
          = first.dropLast ++ ['\r'] ++ '\n' :: rest := by rw [split]
        _ = first.dropLast ++ '\r' :: '\n' :: rest := by simp
    · rw [dropReturn, if_pos back, String.toList_ofList]
      exact fun inside => inline ((List.dropLast_sublist _).subset inside)
  · refine ⟨'\n' :: rest, ?_, .inl rfl, ?_, .inl ⟨rest, by simp⟩⟩
    · rw [dropReturn, if_neg back]
    · rw [dropReturn, if_neg back, String.toList_ofList]
      exact inline

/-- Every line of a text stands at a place of it. -/
theorem exists_place {text : List Char} {number : Nat} {line : Line}
    (found : line ∈ numberFrom number (lettersOf text)) :
    ∃ before after, text = before ++ line.letters ++ after ∧
      LineAt (String.ofList before) (String.ofList line.letters) (String.ofList after) ∧
      line.number = number + (lettersOf before).length := by
  induction height : text.length using Nat.strongRecOn generalizing text number with
  | ind size ih =>
    by_cases break' : '\n' ∈ text
    · obtain ⟨first, rest, rfl, inline⟩ := List.eq_append_cons_of_mem break'
      rw [lettersOf_inline_break inline, numberFrom, List.mem_cons] at found
      obtain rfl | found := found
      · obtain ⟨after, split, place⟩ := exists_first_line inline rest
        exact ⟨[], after, split, place, rfl⟩
      · have shorter : rest.length < size := by
          rw [← height, List.length_append, List.length_cons]
          omega
        obtain ⟨before, after, rfl, place, number'⟩ := ih _ shorter found rfl
        have above : lettersOf (first ++ '\n' :: before) = dropReturn first :: lettersOf before :=
          lettersOf_inline_break inline before
        refine ⟨first ++ '\n' :: before, after, by simp, ⟨.inr ?_, place.inline, place.ends⟩, ?_⟩
        · have starts := place.starts
          rw [String.toList_ofList] at starts ⊢
          obtain rfl | ended := starts
          · simp
          · simp [List.getLast?_cons, ended]
        · rw [number', above, List.length_cons]
          omega
    · cases text with
      | nil => simp [lettersOf, linesAmong, numberFrom] at found
      | cons letter letters =>
        rw [lettersOf_of_inline break' (List.cons_ne_nil _ _), numberFrom, numberFrom,
          List.mem_singleton] at found
        subst found
        exact ⟨[], [], by simp, ⟨.inl rfl, by simpa using break', .inr (.inr (by simp))⟩, rfl⟩

theorem length_numberFrom (number : Nat) (pieces : List (List Char)) :
    (numberFrom number pieces).length = pieces.length := by
  induction pieces generalizing number with
  | nil => rfl
  | cons letters pieces ih => rw [numberFrom, List.length_cons, List.length_cons, ih]

/-- Every line of a file stands at a place of it, and its number counts the lines above. -/
theorem exists_lineAt {text : String} {line : Line} (found : line ∈ linesOf text.toList) :
    ∃ before after : String, text = before ++ String.ofList line.letters ++ after ∧
      LineAt before (String.ofList line.letters) after ∧
      line.number = (linesOf before.toList).length + 1 := by
  obtain ⟨before, after, split, place, number⟩ := exists_place found
  refine ⟨String.ofList before, String.ofList after, ?_, place, ?_⟩
  · rw [← String.ofList_append, ← String.ofList_append, ← split, String.ofList_toList]
  · rw [number, String.toList_ofList, linesOf, length_numberFrom, Nat.add_comm]
    rfl

end Sources

end ProviderRouting
