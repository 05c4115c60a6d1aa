import ProviderRouting.Proofs.Sources.CommentedLines

/-!
# Comments and production lines

Reading a file for its production lines is a machine with three modes: it shows code, it awaits the
declaration that a mark of test code covers, or everything that follows is test code.  A comment at
the end of a line is invisible in the first mode and in the last one.  A line read while a
declaration is awaited is not stripped of its comment before its end is examined, so there the end
of the comment decides whether the declaration alone is skipped or the whole rest of the file.
-/

namespace ProviderRouting.Sources

/-! ### Modes of reading -/

/-- What is made of the next line of a file. -/
inductive Mode where
  /-- Its code is shown, unless it is marked for tests. -/
  | showing
  /-- Unless it is blank, it is the first line of what a mark covers. -/
  | awaiting
  /-- It is test code. -/
  | hidden
deriving DecidableEq

namespace Mode

/-- The mode after a line. -/
def next : Mode → Line → Mode
  | .showing, line => if line.isMarked then .awaiting else .showing
  | .awaiting, line =>
    if line.isBlank then .awaiting else if line.endsDeclaration then .showing else .hidden
  | .hidden, _ => .hidden

/-- What is shown of a line. -/
def show? : Mode → Line → Option Line
  | .showing, line => if line.isMarked then none else line.code?
  | .awaiting, _ => none
  | .hidden, _ => none

/-- The mode after some lines. -/
def after (mode : Mode) (lines : List Line) : Mode := lines.foldl next mode

/-- What is shown of some lines. -/
def production : Mode → List Line → List Line
  | _, [] => []
  | mode, line :: rest => (mode.show? line).toList ++ (mode.next line).production rest

theorem production_append (mode : Mode) (above below : List Line) :
    mode.production (above ++ below) =
      mode.production above ++ (mode.after above).production below := by
  induction above generalizing mode with
  | nil => rfl
  | cons line rest ih =>
    rw [List.cons_append, production, ih, production, List.append_assoc, after, after,
      List.foldl_cons]

theorem after_concat (mode : Mode) (above : List Line) (line : Line) :
    mode.after (above ++ [line]) = (mode.after above).next line := by
  rw [after, List.foldl_append]
  rfl

theorem production_hidden (lines : List Line) : Mode.hidden.production lines = [] := by
  induction lines with
  | nil => rfl
  | cons line rest ih => rw [production, next, ih, show?, Option.toList_none, List.append_nil]

/-- Blank lines are passed over until the first line of what a mark covers. -/
theorem production_awaiting (lines : List Line) :
    Mode.awaiting.production lines =
      Mode.awaiting.production (lines.dropWhile Line.isBlank) := by
  induction lines with
  | nil => rfl
  | cons line rest ih =>
    cases blank : line.isBlank with
    | true =>
      rw [List.dropWhile_cons_of_pos blank, ← ih, production, next, if_pos blank, show?,
        Option.toList_none, List.nil_append]
    | false => rw [List.dropWhile_cons_of_neg (by simp [blank])]

/-- The line that a mark covers ends its declaration, or starts the test code. -/
theorem production_covered {line : Line} (visible : line.isBlank = false) (rest : List Line) :
    Mode.awaiting.production (line :: rest) =
      if line.endsDeclaration then Mode.showing.production rest else [] := by
  rw [production, next, if_neg (by simp [visible]), show?, Option.toList_none, List.nil_append]
  split
  · rfl
  · exact production_hidden rest

end Mode

/-- Reading line by line shows the production lines. -/
theorem productionOf_eq (lines : List Line) :
    productionOf lines = Mode.showing.production lines := by
  fun_induction productionOf lines with
  | case1 => rfl
  | case2 line rest marked covered later split ends ih =>
    have visible : covered.isBlank = false := by
      simpa [split] using List.head?_dropWhile_not Line.isBlank rest
    rw [ih, Mode.production, Mode.show?, Mode.next, if_pos marked, if_pos marked,
      Mode.production_awaiting, split, Mode.production_covered visible, if_pos ends]
    rfl
  | case3 line rest marked covered later split ends =>
    have visible : covered.isBlank = false := by
      simpa [split] using List.head?_dropWhile_not Line.isBlank rest
    rw [Mode.production, Mode.show?, Mode.next, if_pos marked, if_pos marked,
      Mode.production_awaiting, split, Mode.production_covered visible, if_neg ends]
    rfl
  | case4 line rest marked split =>
    rw [Mode.production, Mode.show?, Mode.next, if_pos marked, if_pos marked,
      Mode.production_awaiting, split]
    rfl
  | case5 line rest unmarked ih =>
    rw [ih, Mode.production, Mode.show?, Mode.next, if_neg unmarked, if_neg unmarked]

/-! ### What rules see -/

/-- What rules see of a text: the numbers of its production lines with their code. -/
def seen (text : String) : List (Nat × List Char) := (productionLines text).map Line.shown

namespace Mode

variable {line commented : Line} {tail : List Char}

/-- A comment changes nothing where no declaration is awaited. -/
theorem production_comment (mode : Mode) (other : mode ≠ .awaiting)
    (behind : line.Commented commented tail) (below : List Line) :
    (mode.production (commented :: below)).map Line.shown =
      (mode.production (line :: below)).map Line.shown := by
  cases mode with
  | showing =>
    rw [production, production, List.map_append, List.map_append, next, next, show?, show?,
      behind.isMarked_eq]
    split
    · rfl
    · rw [← Option.toList_map, ← Option.toList_map, behind.code?_map_shown]
  | awaiting => exact absurd rfl other
  | hidden => rw [production_hidden, production_hidden]

end Mode

/-- A declaration is awaited after some lines: a mark of test code is read, and only blank lines
follow it. -/
def Awaits (lines : List Line) : Prop :=
  ∃ above mark blanks, lines = above ++ mark :: blanks ∧ Mode.showing.after above = .showing ∧
    mark.isMarked = true ∧ ∀ line ∈ blanks, line.isBlank = true

theorem awaits_iff {lines : List Line} :
    Awaits lines ↔ Mode.showing.after lines = .awaiting := by
  constructor
  · rintro ⟨above, mark, blanks, rfl, reading, marked, blank⟩
    induction blanks using List.reverseRecOn with
    | nil => rw [Mode.after_concat, reading, Mode.next, if_pos marked]
    | append_singleton blanks line ih =>
      have rest : ∀ line ∈ blanks, line.isBlank = true :=
        fun line inside => blank line (List.mem_append_left _ inside)
      rw [← List.cons_append, ← List.append_assoc, Mode.after_concat, ih rest, Mode.next,
        if_pos (blank line (by simp))]
  · intro waits
    induction lines using List.reverseRecOn with
    | nil => exact absurd waits (by decide)
    | append_singleton lines line ih =>
      rw [Mode.after_concat] at waits
      cases mode : Mode.showing.after lines with
      | showing =>
        rw [mode, Mode.next] at waits
        have marked : line.isMarked = true := by
          by_contra unmarked
          simp [unmarked] at waits
        exact ⟨lines, line, [], rfl, mode, marked, by simp⟩
      | awaiting =>
        rw [mode, Mode.next] at waits
        have blank : line.isBlank = true := by
          by_contra visible
          cases ends : line.endsDeclaration <;> simp [visible, ends] at waits
        obtain ⟨above, mark, blanks, split, reading, marked, rest⟩ := ih mode
        refine ⟨above, mark, blanks ++ [line], by simp [split], reading, marked, ?_⟩
        simpa [or_imp, forall_and, blank] using rest
      | hidden => simp [mode, Mode.next] at waits

theorem seen_of_lines {text : String} {above rest : List Line}
    (lines : linesOf text.toList = above ++ rest) :
    seen text = (Mode.showing.production above).map Line.shown ++
      ((Mode.showing.after above).production rest).map Line.shown := by
  rw [seen, productionLines, lines, productionOf_eq, Mode.production_append, List.map_append]

theorem seen_eq (text : String) :
    seen text = (Mode.showing.production (linesOf text.toList)).map Line.shown := by
  rw [seen, productionLines, productionOf_eq]

/-- The line where a declaration is awaited decides over everything below it. -/
theorem seen_of_awaited {text before : String} {line : Line} {rest : List Line}
    (lines : linesOf text.toList = linesOf before.toList ++ line :: rest)
    (waits : Mode.showing.after (linesOf before.toList) = .awaiting)
    (visible : line.isBlank = false) :
    seen text = seen before ++
      (if line.endsDeclaration then (Mode.showing.production rest).map Line.shown else []) := by
  rw [seen_of_lines lines, waits, Mode.production_covered visible, seen_eq]
  split <;> rfl

/-- Every line of a file stands at a place of it.  A comment at the end of the line at a place, behind
` // `, never changes what rules see, unless a declaration is awaited at that line.  There everything
below is seen if the comment ends as a declaration does, and nothing below is seen otherwise.  If the
line is not blank, that is what was seen without the comment exactly when the comment ends like the
line, or nothing below could be seen anyway. -/
theorem comment_law (text : String) :
    (∀ line ∈ linesOf text.toList, ∃ before after : String,
      text = before ++ String.ofList line.letters ++ after ∧
      LineAt before (String.ofList line.letters) after ∧
      line.number = (linesOf before.toList).length + 1) ∧
    ∀ before line after comment : String, text = before ++ line ++ after →
      LineAt before line after → '\n' ∉ comment.toList →
      let commented := before ++ line ++ " // " ++ comment ++ after
      let below := productionOf ((linesOf text.toList).drop ((linesOf before.toList).length + 1))
      (¬ Awaits (linesOf before.toList) → seen commented = seen text) ∧
      (Awaits (linesOf before.toList) →
        seen commented = seen before ++
          (if closes comment.toList then below.map Line.shown else []) ∧
        (Text.allBlank line.toList = false →
          (seen commented = seen text ↔
            closes comment.toList = closes line.toList ∨ below = []))) := by
  refine ⟨fun line found => exists_lineAt found, ?_⟩
  rintro before line after comment rfl place inline commented below
  obtain ⟨current, behind, rest, tail, lines, lines', comments, ends, blank, ends'⟩ :=
    place.exists_lines inline
  have below_eq : below = Mode.showing.production rest := by
    simp only [below, lines, ← productionOf_eq]
    rw [List.drop_append, List.drop_of_length_le (by omega)]
    simp
  rw [awaits_iff]
  refine ⟨fun other => ?_, fun waits => ?_⟩
  · rw [seen_of_lines lines', seen_of_lines lines, Mode.production_comment _ other comments]
  · have shown : seen commented = seen before ++
        (if closes comment.toList then below.map Line.shown else []) := by
      rw [seen_of_awaited lines' waits comments.isBlank_eq, comments.endsDeclaration_eq, ends,
        below_eq]
    refine ⟨shown, fun visible => ?_⟩
    have plain : seen (before ++ line ++ after) = seen before ++
        (if closes line.toList then below.map Line.shown else []) := by
      rw [seen_of_awaited lines waits (blank.trans visible), ends', below_eq]
    rw [shown, plain, List.append_cancel_left_eq]
    cases closes comment.toList <;> cases closes line.toList <;> simp

/-- The law of comments at a declaration behind a mark: a comment that ends like the declaration is
harmless there, and any other one leaves only what stands above the mark. -/
theorem comment_law_declaration :
    let before := "pub mod a;\n#[cfg(test)]\n"
    let line := "pub mod test_utils;"
    let after := "\npub use a::A;\n"
    LineAt before line after ∧ Awaits (linesOf before.toList) ∧
      seen (before ++ line ++ " // " ++ "see mock;" ++ after) = seen (before ++ line ++ after) ∧
      seen (before ++ line ++ " // " ++ "mock" ++ after) = seen before := by
  intro before line after
  have place : LineAt before line after :=
    ⟨.inr (by decide), by decide, .inl (by decide)⟩
  have waits : Awaits (linesOf before.toList) :=
    ⟨[⟨1, "pub mod a;".toList⟩], ⟨2, "#[cfg(test)]".toList⟩, [], by decide, by decide, by decide,
      by simp⟩
  have law := (comment_law (before ++ line ++ after)).2 before line after
  have like := (law "see mock;" rfl place (by decide)).2 waits
  have unlike := (law "mock" rfl place (by decide)).2 waits
  refine ⟨place, waits, (like.2 (by decide)).2 (.inl (by decide)), ?_⟩
  rw [unlike.1, if_neg (by decide), List.append_nil]

/-- A comment behind a declaration that a mark covers hides the rest of the file. -/
theorem comment_hides_rest :
    ¬ ∀ before line after comment : String, LineAt before line after → '\n' ∉ comment.toList →
      seen (before ++ line ++ " // " ++ comment ++ after) = seen (before ++ line ++ after) := by
  intro harmless
  have place : LineAt "pub mod a;\n#[cfg(test)]\n" "pub mod test_utils;" "\npub use a::A;\n" :=
    ⟨.inr (by decide), by decide, .inl (by decide)⟩
  have same := harmless _ _ _ "mock" place (by decide)
  have commented : seen "pub mod a;\n#[cfg(test)]\npub mod test_utils; // mock\npub use a::A;\n" =
      [(1, "pub mod a;".toList)] := by
    rw [seen_eq]
    decide +kernel
  have plain : seen "pub mod a;\n#[cfg(test)]\npub mod test_utils;\npub use a::A;\n" =
      [(1, "pub mod a;".toList), (4, "pub use a::A;".toList)] := by
    rw [seen_eq]
    decide +kernel
  exact absurd (commented.symm.trans (same.trans plain)) (by decide)

end ProviderRouting.Sources
