import Mathlib.Data.List.TakeWhile
import ProviderRouting.Proofs.Sources.Comments

/-!
# Production lines are the plain lines

A file is laid out in blocks: plain lines, declarations behind a mark of test code, and at its end
perhaps the test part.  Every file can be cut into such blocks, and whichever way it is cut, reading
it shows the code of its plain lines, numbered as they stand in the file, and nothing else.  Reading
is a loop over a cursor that a declaration makes jump over several lines at once; it ends after at
most as many turns as there are lines.
-/

namespace ProviderRouting.Sources

/-! ### Blocks -/

/-- Some lines are laid out in blocks, of which some plain lines are the ones outside test code. -/
inductive Layout : (lines plain : List Line) → Prop where
  /-- There are no lines. -/
  | finished : Layout [] []
  /-- A plain line comes first. -/
  | plain {line : Line} {rest plain : List Line} (unmarked : line.isMarked = false)
    (later : Layout rest plain) : Layout (line :: rest) (line :: plain)
  /-- A declaration for tests comes first: a mark, blank lines, and the line that ends the
  declaration. -/
  | declaration {mark covered : Line} {blanks rest plain : List Line}
    (marked : mark.isMarked = true) (blank : ∀ line ∈ blanks, line.isBlank = true)
    (ends : covered.endsDeclaration = true) (later : Layout rest plain) :
    Layout (mark :: (blanks ++ covered :: rest)) plain
  /-- The test part comes first: behind the mark and blank lines is one that ends no declaration. -/
  | tests {mark opened : Line} {blanks rest : List Line} (marked : mark.isMarked = true)
    (blank : ∀ line ∈ blanks, line.isBlank = true) (visible : opened.isBlank = false)
    (goesOn : opened.endsDeclaration = false) : Layout (mark :: (blanks ++ opened :: rest)) []
  /-- The test part comes first: behind the mark are blank lines only. -/
  | bare {mark : Line} {blanks : List Line} (marked : mark.isMarked = true)
    (blank : ∀ line ∈ blanks, line.isBlank = true) : Layout (mark :: blanks) []

/-- What ends a declaration is not blank. -/
theorem Line.isBlank_of_endsDeclaration {line : Line} (ends : line.endsDeclaration = true) :
    line.isBlank = false := by
  refine Bool.eq_false_iff.mpr fun blank => ?_
  rw [Line.endsDeclaration, Text.trimEnd_eq_nil_iff.mpr blank] at ends
  exact absurd ends (by decide)

section Blanks

variable {blanks rest : List Line} {first : Line}

/-- Blank lines are passed over up to the first one that is not blank. -/
theorem dropWhile_blanks (blank : ∀ line ∈ blanks, line.isBlank = true)
    (visible : first.isBlank = false) :
    (blanks ++ first :: rest).dropWhile Line.isBlank = first :: rest := by
  rw [List.dropWhile_append_of_pos blank, List.dropWhile_cons_of_neg (by simp [visible])]

theorem findIdx?_blanks (blank : ∀ line ∈ blanks, line.isBlank = true) :
    blanks.findIdx? (!·.isBlank) = none := by
  rw [List.findIdx?_eq_none_iff]
  exact fun line inside => by simp [blank line inside]

theorem findIdx?_visible (blank : ∀ line ∈ blanks, line.isBlank = true)
    (visible : first.isBlank = false) :
    (blanks ++ first :: rest).findIdx? (!·.isBlank) = some blanks.length := by
  rw [List.findIdx?_append, findIdx?_blanks blank, List.findIdx?_cons]
  simp [visible]

/-- Lines are blank, or some blank lines come before one that is not. -/
theorem blanks_cases (lines : List Line) :
    (∀ line ∈ lines, line.isBlank = true) ∨
      ∃ blanks first rest, lines = blanks ++ first :: rest ∧
        (∀ line ∈ blanks, line.isBlank = true) ∧ first.isBlank = false := by
  induction lines with
  | nil => exact .inl nofun
  | cons line rest ih =>
    cases visible : line.isBlank with
    | false => exact .inr ⟨[], line, rest, rfl, nofun, visible⟩
    | true =>
      obtain blank | ⟨blanks, first, later, rfl, blank, seen⟩ := ih
      · exact .inl (List.forall_mem_cons.mpr ⟨visible, blank⟩)
      · exact .inr ⟨line :: blanks, first, later, rfl, List.forall_mem_cons.mpr ⟨visible, blank⟩,
          seen⟩

end Blanks

/-- The code of some lines starts with the code of the first one. -/
theorem filterMap_code?_cons (line : Line) (rest : List Line) :
    (line :: rest).filterMap Line.code? = line.code?.toList ++ rest.filterMap Line.code? := by
  rw [List.filterMap_cons]
  cases line.code? <;> rfl

namespace Mode

/-- From a mark on everything depends on the first line that is not blank. -/
theorem production_marked {mark : Line} (marked : mark.isMarked = true) (rest : List Line) :
    Mode.showing.production (mark :: rest) =
      Mode.awaiting.production (rest.dropWhile Line.isBlank) := by
  rw [production, show?, next, if_pos marked, if_pos marked, Option.toList_none, List.nil_append,
    production_awaiting]

theorem production_unmarked {line : Line} (unmarked : line.isMarked = false) (rest : List Line) :
    Mode.showing.production (line :: rest) =
      line.code?.toList ++ Mode.showing.production rest := by
  rw [production, show?, next, if_neg (by simp [unmarked]), if_neg (by simp [unmarked])]

end Mode

namespace Layout

variable {lines plain : List Line}

/-- Every file can be cut into blocks. -/
theorem exists_layout (lines : List Line) : ∃ plain, Layout lines plain := by
  induction size : lines.length using Nat.strongRecOn generalizing lines with
  | ind size ih =>
    cases lines with
    | nil => exact ⟨[], .finished⟩
    | cons line rest =>
      rw [List.length_cons] at size
      cases marked : line.isMarked with
      | false =>
        obtain ⟨plain, later⟩ := ih rest.length (by omega) rest rfl
        exact ⟨_, .plain marked later⟩
      | true =>
        obtain blank | ⟨blanks, first, later, rfl, blank, visible⟩ := blanks_cases rest
        · exact ⟨[], .bare marked blank⟩
        · cases ends : first.endsDeclaration with
          | false => exact ⟨[], .tests marked blank visible ends⟩
          | true =>
            rw [List.length_append, List.length_cons] at size
            obtain ⟨plain, layout⟩ := ih later.length (by omega) later rfl
            exact ⟨plain, .declaration marked blank ends layout⟩

/-- Plain lines stay in their order. -/
theorem sublist (layout : Layout lines plain) : plain.Sublist lines := by
  induction layout with
  | finished => exact .refl _
  | plain _ _ ih => exact ih.cons_cons _
  | declaration _ _ _ _ ih =>
    exact ((ih.cons _).trans (List.sublist_append_right _ _)).cons _
  | tests | bare => exact List.nil_sublist _

/-- Reading shows the code of the plain lines. -/
theorem productionOf_eq (layout : Layout lines plain) :
    productionOf lines = plain.filterMap Line.code? := by
  rw [Sources.productionOf_eq]
  induction layout with
  | finished => rfl
  | plain unmarked later ih =>
    rw [Mode.production_unmarked unmarked, ih, filterMap_code?_cons]
  | declaration marked blank ends later ih =>
    have visible := Line.isBlank_of_endsDeclaration ends
    rw [Mode.production_marked marked, dropWhile_blanks blank visible,
      Mode.production_covered visible, if_pos ends, ih]
  | tests marked blank visible goesOn =>
    rw [Mode.production_marked marked, dropWhile_blanks blank visible,
      Mode.production_covered visible, if_neg (by simp [goesOn])]
    rfl
  | bare marked blank =>
    rw [Mode.production_marked marked, List.dropWhile_eq_nil_iff.mpr blank]
    rfl

end Layout

/-! ### The code of a line -/

/-- Some code is all that stands in a text before its first comment mark. -/
structure UpToComment (letters code : List Char) : Prop where
  /-- The text starts with the code. -/
  starts : code <+: letters
  /-- The code ends with the text, or where a mark starts. -/
  stops : code = letters ∨ ['/', '/'] <+: letters.drop code.length
  /-- No mark starts before that. -/
  first : ∀ place, ['/', '/'] <+: letters.drop place → code.length ≤ place

namespace UpToComment

variable {letters code other : List Char}

theorem unique (left : UpToComment letters code) (right : UpToComment letters other) :
    code = other := by
  have shorter {one two : List Char} (left : UpToComment letters one)
      (right : UpToComment letters two) : two.length ≤ one.length := by
    obtain rfl | mark := left.stops
    · exact right.starts.length_le
    · exact right.first _ mark
  have same : code.length = other.length :=
    Nat.le_antisymm (shorter right left) (shorter left right)
  rw [List.prefix_iff_eq_take.mp left.starts, List.prefix_iff_eq_take.mp right.starts, same]

theorem dropComment (letters : List Char) : UpToComment letters (dropComment letters) := by
  fun_induction Sources.dropComment letters with
  | case1 => exact ⟨List.prefix_rfl, .inl rfl, fun _ _ => Nat.zero_le _⟩
  | case2 rest => exact ⟨List.nil_prefix, .inr ⟨rest, rfl⟩, fun _ _ => Nat.zero_le _⟩
  | case3 letter rest single ih =>
    refine ⟨List.prefix_cons_inj _ |>.mpr ih.starts, ?_, ?_⟩
    · exact ih.stops.imp (congrArg _) id
    · rintro (_ | place) mark
      · obtain ⟨more, split⟩ := mark
        obtain ⟨slash, second⟩ := List.cons.inj split
        exact absurd second.symm fun same => single more slash.symm same
      · exact Nat.succ_le_succ (ih.first place mark)

end UpToComment

theorem dropComment_eq_iff {letters code : List Char} :
    dropComment letters = code ↔ UpToComment letters code :=
  ⟨fun same => same ▸ .dropComment letters, fun up => (UpToComment.dropComment letters).unique up⟩

namespace Line

/-- The code of a line is what stands before its first comment mark, unless that is blank. -/
theorem code?_eq_some_iff {line shown : Line} :
    line.code? = some shown ↔ shown.number = line.number ∧
      UpToComment line.letters shown.letters ∧ Text.allBlank shown.letters = false := by
  rw [← dropComment_eq_iff, code?]
  obtain ⟨number, letters⟩ := shown
  cases blank : Text.allBlank (dropComment line.letters) with
  | true =>
    refine iff_of_false (Option.some_ne_none _).symm ?_
    rintro ⟨-, rfl, visible⟩
    exact Bool.false_ne_true (visible.symm.trans blank)
  | false =>
    constructor
    · rintro ⟨rfl⟩
      exact ⟨rfl, rfl, blank⟩
    · rintro ⟨rfl, rfl, -⟩
      rfl

end Line

/-! ### Numbers -/

theorem numberFrom_eq (number : Nat) (pieces : List (List Char)) :
    numberFrom number pieces = pieces.mapIdx fun index letters => ⟨index + number, letters⟩ := by
  induction pieces generalizing number with
  | nil => rfl
  | cons letters rest ih =>
    rw [numberFrom, ih, List.mapIdx_cons, Nat.zero_add]
    congr 2
    funext index letters
    rw [Nat.add_assoc, Nat.add_comm 1]

theorem pairwise_numberFrom (number : Nat) (pieces : List (List Char)) :
    (numberFrom number pieces).Pairwise (·.number < ·.number) := by
  rw [numberFrom_eq, List.pairwise_iff_getElem]
  intro first second _ _ before
  simp only [List.getElem_mapIdx]
  omega

/-! ### Reading with a cursor -/

/-- Where reading stands. -/
structure Cursor where
  /-- The place of the next line, counted from zero. -/
  place : Nat
  /-- What has been shown so far. -/
  shown : List Line

namespace Cursor

/-- One turn of the loop, unless it ends here. -/
def next (lines : List Line) (cursor : Cursor) : Option Cursor :=
  match lines[cursor.place]? with
  | none => none
  | some line =>
    if line.isMarked then
      match (lines.drop (cursor.place + 1)).findIdx? (!·.isBlank) with
      | none => none
      | some offset =>
        if lines[cursor.place + 1 + offset]?.any Line.endsDeclaration then
          some { cursor with place := cursor.place + offset + 2 }
        else none
    else some ⟨cursor.place + 1, cursor.shown ++ line.code?.toList⟩

/-- After so many turns the loop ends and has shown some lines. -/
inductive Ends (lines : List Line) : (turns : Nat) → Cursor → (shown : List Line) → Prop where
  /-- There is no further turn. -/
  | stop {cursor : Cursor} (last : cursor.next lines = none) : Ends lines 0 cursor cursor.shown
  /-- A turn is taken. -/
  | turn {cursor after : Cursor} {turns : Nat} {shown : List Line}
    (step : cursor.next lines = some after) (later : Ends lines turns after shown) :
    Ends lines (turns + 1) cursor shown

end Cursor

namespace Cursor

variable {lines rest : List Line} {line mark : Line} {place : Nat}

theorem next_of_nil (here : lines.drop place = []) (shown : List Line) :
    next lines ⟨place, shown⟩ = none := by
  have none : lines[place]? = none := by
    rw [← Nat.add_zero place, ← List.getElem?_drop, here, List.getElem?_nil]
  rw [next, none]

theorem next_of_unmarked (here : lines.drop place = line :: rest)
    (unmarked : line.isMarked = false) (shown : List Line) :
    next lines ⟨place, shown⟩ = some ⟨place + 1, shown ++ line.code?.toList⟩ := by
  have found : lines[place]? = some line := by
    rw [← Nat.add_zero place, ← List.getElem?_drop, here, List.getElem?_cons_zero]
  rw [next, found]
  exact if_neg (by simp [unmarked])

/-- At a mark the loop looks ahead, and jumps behind the line that it finds if that ends a
declaration. -/
theorem next_of_marked (here : lines.drop place = mark :: rest) (marked : mark.isMarked = true)
    (shown : List Line) :
    next lines ⟨place, shown⟩ =
      match rest.findIdx? (!·.isBlank) with
      | none => none
      | some offset =>
        if rest[offset]?.any Line.endsDeclaration then some ⟨place + offset + 2, shown⟩
        else none := by
  have found : lines[place]? = some mark := by
    rw [← Nat.add_zero place, ← List.getElem?_drop, here, List.getElem?_cons_zero]
  have behind : lines.drop (place + 1) = rest := by
    rw [← List.drop_drop, here, List.drop_succ_cons, List.drop_zero]
  have ahead (offset : Nat) : lines[place + 1 + offset]? = rest[offset]? := by
    rw [← behind, List.getElem?_drop]
  rw [next, found]
  simp only [marked, if_true, behind, ahead]

end Cursor

/-- From every cursor in front of some blocks the loop ends, and then it has also shown what reading
the blocks shows. -/
theorem Layout.ends {lines rest plain : List Line} (layout : Layout rest plain) :
    ∀ (place : Nat) (shown : List Line), lines.drop place = rest →
      ∃ turns ≤ rest.length,
        Cursor.Ends lines turns ⟨place, shown⟩ (shown ++ plain.filterMap Line.code?) := by
  have stopping {rest : List Line} {place : Nat} {shown : List Line}
      (last : Cursor.next lines ⟨place, shown⟩ = none) :
      ∃ turns ≤ rest.length,
        Cursor.Ends lines turns ⟨place, shown⟩ (shown ++ [].filterMap Line.code?) := by
    refine ⟨0, Nat.zero_le _, ?_⟩
    rw [List.filterMap_nil, List.append_nil]
    exact .stop last
  induction layout with
  | finished => exact fun place shown here => stopping (Cursor.next_of_nil here shown)
  | @plain line rest plain unmarked later ih =>
    intro place shown here
    have behind : lines.drop (place + 1) = rest := by
      rw [← List.drop_drop, here, List.drop_succ_cons, List.drop_zero]
    obtain ⟨turns, few, ended⟩ := ih (place + 1) (shown ++ line.code?.toList) behind
    rw [List.append_assoc, ← filterMap_code?_cons] at ended
    exact ⟨turns + 1, Nat.succ_le_succ few,
      .turn (Cursor.next_of_unmarked here unmarked shown) ended⟩
  | @declaration mark covered blanks rest plain marked blank ends later ih =>
    intro place shown here
    have visible := Line.isBlank_of_endsDeclaration ends
    have step : Cursor.next lines ⟨place, shown⟩ = some ⟨place + blanks.length + 2, shown⟩ := by
      rw [Cursor.next_of_marked here marked, findIdx?_visible blank visible]
      simp [ends]
    have behind : lines.drop (place + blanks.length + 2) = rest := by
      rw [Nat.add_assoc, ← List.drop_drop, here, List.drop_succ_cons, ← List.drop_drop,
        List.drop_left, List.drop_succ_cons, List.drop_zero]
    obtain ⟨turns, few, ended⟩ := ih _ shown behind
    refine ⟨turns + 1, ?_, .turn step ended⟩
    simp only [List.length_cons, List.length_append]
    omega
  | @tests mark opened blanks rest marked blank visible goesOn =>
    intro place shown here
    refine stopping ?_
    rw [Cursor.next_of_marked here marked, findIdx?_visible blank visible]
    simp [goesOn]
  | bare marked blank =>
    intro place shown here
    refine stopping ?_
    rw [Cursor.next_of_marked here marked, findIdx?_blanks blank]

/-! ### The law -/

/-- The production lines of a file are the code of its plain lines, whichever way it is cut into
blocks, and it can be cut: each plain line with code is shown once, in its place, with its number in
the file and what stands before its first comment mark, and nothing else is shown.  So the numbers
grow.  The loop that reads the file ends, after at most as many turns as there are lines. -/
theorem coverage_law (text : String) :
    let lines := linesOf text.toList
    lines = (lettersOf text.toList).mapIdx (fun index letters => ⟨index + 1, letters⟩) ∧
    (∃ plain, Layout lines plain) ∧
    (∀ plain, Layout lines plain →
      plain.Sublist lines ∧ productionLines text = plain.filterMap Line.code?) ∧
    (∀ line shown : Line, line.code? = some shown ↔ shown.number = line.number ∧
      UpToComment line.letters shown.letters ∧ Text.allBlank shown.letters = false) ∧
    (productionLines text).Pairwise (·.number < ·.number) ∧
    ∃ turns ≤ lines.length, Cursor.Ends lines turns ⟨0, []⟩ (productionLines text) := by
  intro lines
  obtain ⟨plain, layout⟩ := Layout.exists_layout lines
  have shown : productionLines text = plain.filterMap Line.code? := layout.productionOf_eq
  refine ⟨numberFrom_eq 1 _, ⟨plain, layout⟩, ?_, fun _ _ => Line.code?_eq_some_iff, ?_, ?_⟩
  · exact fun plain layout => ⟨layout.sublist, layout.productionOf_eq⟩
  · rw [shown, List.pairwise_filterMap]
    refine ((pairwise_numberFrom 1 _).sublist layout.sublist).imp fun before => ?_
    intro first firstCode second secondCode
    rwa [(Line.code?_eq_some_iff.mp firstCode).1, (Line.code?_eq_some_iff.mp secondCode).1]
  · rw [shown]
    exact layout.ends 0 [] rfl

/-- A file with a comment, a declaration for tests behind a blank line, a line without code, and a
test part. -/
theorem coverage_law_declaration :
    let text := "pub mod a; // b\n#[cfg(test)]\n\npub mod c;\n// d\npub use a::A;\n" ++
      "#[cfg(test)]\nmod t \x7b\n\x7d"
    ∃ plain, Layout (linesOf text.toList) plain ∧ plain.map (·.number) = [1, 5, 6] ∧
      productionLines text = [⟨1, "pub mod a; ".toList⟩, ⟨6, "pub use a::A;".toList⟩] := by
  intro text
  have lines : linesOf text.toList =
      ⟨1, "pub mod a; // b".toList⟩ ::
      ⟨2, "#[cfg(test)]".toList⟩ :: ([⟨3, []⟩] ++ ⟨4, "pub mod c;".toList⟩ ::
      ⟨5, "// d".toList⟩ ::
      ⟨6, "pub use a::A;".toList⟩ ::
      ⟨7, "#[cfg(test)]".toList⟩ :: ([] ++ ⟨8, "mod t \x7b".toList⟩ :: [⟨9, "\x7d".toList⟩])) := by
    decide
  have layout : Layout (linesOf text.toList)
      [⟨1, "pub mod a; // b".toList⟩, ⟨5, "// d".toList⟩, ⟨6, "pub use a::A;".toList⟩] := by
    rw [lines]
    refine .plain (by decide) (.declaration (by decide) (by decide) (by decide) ?_)
    exact .plain (by decide) (.plain (by decide) (.tests (by decide) nofun (by decide) (by decide)))
  refine ⟨_, layout, rfl, ?_⟩
  rw [((coverage_law text).2.2.1 _ layout).2]
  decide

end ProviderRouting.Sources
