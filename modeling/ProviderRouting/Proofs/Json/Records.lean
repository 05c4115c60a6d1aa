import Mathlib.Data.List.DropRight
import Mathlib.Tactic.Common
import ProviderRouting.Json.Reader
import ProviderRouting.Json.Writer

/-!
# Records of texts survive JSON

A record of texts and missing values, written with every field on a line of its own, is read back as
it was, whatever characters are in its texts.
-/

namespace ProviderRouting.Json

/-! ## Quoted texts -/

/-- A character is written as a short escape, as the number of a control, or as itself. -/
theorem escapeChar_cases (letter : Char) :
    (∃ sign, escapeChar letter = ['\\', sign] ∧ shortEscape? sign = some letter) ∨
      (letter.toNat < 0x20 ∧ escapeChar letter =
        ['\\', 'u', '0', '0', hexDigit (letter.toNat / 16), hexDigit (letter.toNat % 16)]) ∨
      (escapeChar letter = [letter] ∧ letter ≠ '"' ∧ letter ≠ '\\' ∧ ¬letter.toNat < 0x20) := by
  rw [escapeChar]
  split_ifs with quotes backslash backspace feed newline return_ tab control
  · exact .inl ⟨'"', rfl, by rw [quotes]; rfl⟩
  · exact .inl ⟨'\\', rfl, by rw [backslash]; rfl⟩
  · exact .inl ⟨'b', rfl, by rw [backspace]; rfl⟩
  · exact .inl ⟨'f', rfl, by rw [feed]; rfl⟩
  · exact .inl ⟨'n', rfl, by rw [newline]; rfl⟩
  · exact .inl ⟨'r', rfl, by rw [return_]; rfl⟩
  · exact .inl ⟨'t', rfl, by rw [tab]; rfl⟩
  · exact .inr (.inl ⟨control, rfl⟩)
  · exact .inr (.inr ⟨rfl, quotes, backslash, control⟩)

/-- The four digits of a control give back its number. -/
theorem hexUnit?_control :
    ∀ code < 0x20, hexUnit? ['0', '0', hexDigit (code / 16), hexDigit (code % 16)] = some code := by
  decide

/-- What a character is written as is read as its number. -/
theorem scanUnits_escapeChar (letter : Char) (rest : List Char) :
    scanUnits (escapeChar letter ++ rest) =
      (scanUnits rest).map fun (units, after) => (letter.toNat :: units, after) := by
  rcases escapeChar_cases letter with ⟨sign, written, short⟩ | ⟨control, written⟩ |
    ⟨written, notQuote, notBackslash, printed⟩
  · have notNumber : sign ≠ 'u' := by
      rintro rfl
      exact absurd short nofun
    rw [written, List.cons_append, List.cons_append, List.nil_append, scanUnits]
    · simp only [short]
      cases scanUnits rest <;> rfl
    · intro _ _ _ _ _ number _
      exact notNumber number
  · rw [written]
    simp only [List.cons_append, List.nil_append, scanUnits, hexUnit?_control _ control]
    cases scanUnits rest <;> rfl
  · rw [written, List.singleton_append, scanUnits]
    · rw [if_neg (not_or.mpr ⟨notBackslash, printed⟩)]
      cases scanUnits rest <;> rfl
    · exact notQuote
    · intro _ _ _ _ _ backslash _
      exact notBackslash backslash
    · intro _ _ backslash _
      exact notBackslash backslash

theorem scanUnits_escaped (letters rest : List Char) :
    scanUnits (letters.flatMap escapeChar ++ '"' :: rest) =
      some (letters.map Char.toNat, rest) := by
  induction letters with
  | nil => rw [List.flatMap_nil, List.nil_append, scanUnits, List.map_nil]
  | cons letter letters ih =>
      rw [List.flatMap_cons, List.append_assoc, scanUnits_escapeChar, ih]
      rfl

/-- No character has the number of half a pair. -/
theorem joinUnits_toNat (letters : List Char) :
    joinUnits (letters.map Char.toNat) = some letters := by
  induction letters with
  | nil => rfl
  | cons letter letters ih =>
      have whole : ¬isLeading letter.toNat ∧ ¬isTrailing letter.toNat := by
        have valid : letter.toNat < 0xd800 ∨ 0xdfff < letter.toNat ∧ letter.toNat < 0x110000 :=
          letter.valid
        simp only [isLeading, isTrailing, Bool.and_eq_true, decide_eq_true_eq]
        omega
      rw [List.map_cons, joinUnits.eq_def]
      simp [whole.1, whole.2, ih, Char.ofNat_toNat]

/-- A quoted text is read as it was. -/
theorem scanText_escaped (text : String) (rest : List Char) :
    scanText (text.toList.flatMap escapeChar ++ '"' :: rest) = some (some text, rest) := by
  rw [scanText, scanUnits_escaped]
  simp [joinUnits_toNat]

/-! ## Records -/

/-- A text or a missing value. -/
inductive IsPlain : Document → Prop where
  | null : IsPlain .null
  | text (value : String) : IsPlain (.text value)

/-- The characters of a quoted text. -/
theorem toList_quote (text : String) :
    (quote text).toList = '"' :: (text.toList.flatMap escapeChar ++ ['"']) := by
  simp [quote]

theorem scanValue_plain {value : Document} (plain : IsPlain value) (indent : String) (fuel : Nat)
    (rest : List Char) :
    scanValue (fuel + 1) (' ' :: (writeIndented indent value).toList ++ rest) =
      some (value, rest) := by
  cases plain with
  | null => simp [writeIndented, write, scanValue, skipGaps, isGap]
  | text value =>
      have quoted := scanText_escaped value rest
      simp [writeIndented, write, toList_quote, scanValue, skipGaps, isGap, quoted]

/-- The line of a field. -/
def line (field : String × Document) : String :=
  "  " ++ (quote field.1 ++ ": " ++ writeIndented "  " field.2)

theorem toList_lines (field next : String × Document) (fields : List (String × Document)) :
    (",\n".intercalate ((field :: next :: fields).map line)).toList =
      (line field).toList ++
        ',' :: '\n' :: (",\n".intercalate ((next :: fields).map line)).toList := by
  simp [String.intercalate_cons_cons]

theorem length_lines (fields : List (String × Document)) :
    fields.length ≤ (",\n".intercalate (fields.map line)).toList.length := by
  induction fields with
  | nil => exact Nat.zero_le _
  | cons field fields ih =>
      cases fields with
      | nil => simp [line]
      | cons next fields =>
          rw [toList_lines]
          simp only [List.length_cons, List.length_append] at ih ⊢
          omega

/-- A line before a comma is read as its field, and more fields come after it. -/
theorem scanFields_line_comma {field : String × Document} (plain : IsPlain field.2) (fuel : Nat)
    (rest : List Char) :
    scanFields (fuel + 2) ((line field).toList ++ ',' :: rest) =
      (scanFields (fuel + 1) rest).map fun (fields, after) =>
        ((some field.1, field.2) :: fields, after) := by
  have named := scanText_escaped field.1
  have valued := scanValue_plain plain "  " fuel (',' :: rest)
  rw [List.cons_append] at valued
  rw [scanFields.eq_def]
  simp only [line, skipGaps, String.toList_append, toList_quote]
  cases more : scanFields (fuel + 1) rest <;> simp [isGap, named, valued, more]

/-- A line before a closing brace is read as its field. -/
theorem scanFields_line_brace {field : String × Document} (plain : IsPlain field.2) (fuel : Nat)
    (rest : List Char) :
    scanFields (fuel + 2) ((line field).toList ++ '\n' :: '\x7d' :: rest) =
      some ([(some field.1, field.2)], rest) := by
  have named := scanText_escaped field.1
  have valued := scanValue_plain plain "  " fuel ('\n' :: '\x7d' :: rest)
  rw [List.cons_append] at valued
  rw [scanFields.eq_def]
  simp only [line, skipGaps, String.toList_append, toList_quote]
  simp [isGap, named, valued]

theorem scanFields_gap (fuel : Nat) {letter : Char} (gap : isGap letter) (rest : List Char) :
    scanFields fuel (letter :: rest) = scanFields fuel rest := by
  cases fuel with
  | zero => rfl
  | succ fuel => simp only [scanFields, skipGaps, List.dropWhile_cons_of_pos gap]

theorem scanFields_skipGaps (fuel : Nat) (rest : List Char) :
    scanFields fuel (skipGaps rest) = scanFields fuel rest := by
  cases fuel with
  | zero => rfl
  | succ fuel => simp only [scanFields, skipGaps, List.dropWhile_idempotent]

variable {fuel : Nat} {rest : List Char}

/-- Fields start with a quote. -/
theorem quote_of_scanFields {result : List (Option String × Document) × List Char}
    (scanned : scanFields fuel rest = some result) : ∃ after, skipGaps rest = '"' :: after := by
  cases fuel with
  | zero => exact absurd scanned nofun
  | succ fuel =>
      rw [scanFields] at scanned
      split at scanned
      · exact ⟨_, ‹_›⟩
      · exact absurd scanned nofun

theorem scanValue_record {fields : List (Option String × Document)} {after : List Char}
    (scanned : scanFields fuel rest = some (fields, after)) :
    scanValue (fuel + 1) ('\x7b' :: rest) = some (recordOf fields, after) := by
  obtain ⟨quoted, start⟩ := quote_of_scanFields scanned
  rw [← scanFields_skipGaps, start] at scanned
  have brace : skipGaps ('\x7b' :: rest) = '\x7b' :: rest := rfl
  rw [scanValue, brace]
  simp [start, scanned]

/-- Lines with commas between them are read as their fields. -/
theorem scanFields_lines {fields : List (String × Document)} (given : fields ≠ [])
    (plain : ∀ field ∈ fields, IsPlain field.2) (enough : fields.length < fuel) (rest : List Char) :
    scanFields fuel ((",\n".intercalate (fields.map line)).toList ++ '\n' :: '\x7d' :: rest) =
      some (fields.map fun field => (some field.1, field.2), rest) := by
  induction fields generalizing fuel with
  | nil => exact absurd rfl given
  | cons field fields ih =>
      have first := plain field List.mem_cons_self
      obtain ⟨fuel, rfl⟩ : ∃ less, fuel = less + 2 :=
        ⟨fuel - 2, by rw [List.length_cons] at enough; omega⟩
      cases fields with
      | nil =>
          rw [List.map_singleton, String.intercalate_singleton, scanFields_line_brace first]
          rfl
      | cons next fields =>
          have others := ih (List.cons_ne_nil _ _)
            (fun field later => plain field (List.mem_cons_of_mem _ later))
            (by rw [List.length_cons] at enough; omega : (next :: fields).length < fuel + 1)
          rw [toList_lines, List.append_assoc, List.cons_append, List.cons_append,
            scanFields_line_comma first, scanFields_gap _ (by decide), others]
          rfl

theorem indentFields_eq (indent : String) (fields : List (String × Document)) :
    indentFields indent fields =
      fields.map fun field => quote field.1 ++ ": " ++ writeIndented indent field.2 := by
  induction fields with
  | nil => rfl
  | cons field fields ih => rw [indentFields, ih, List.map_cons]

theorem mapM_named (fields : List (String × Document)) :
    (fields.map fun field => (some field.1, field.2)).mapM
      (fun (name, value) => name.map (·, value)) = some fields := by
  induction fields with
  | nil => rfl
  | cons field fields ih => simp [List.mapM_cons, ih]

theorem recordOf_named (fields : List (String × Document)) :
    recordOf (fields.map fun field => (some field.1, field.2)) = .record fields := by
  rw [recordOf, mapM_named]

/-- A record of texts and missing values is read as it was. -/
theorem read?_writePretty {fields : List (String × Document)} (given : fields ≠ [])
    (plain : ∀ field ∈ fields, IsPlain field.2) :
    read? (writePretty (.record fields)) = some (.record fields) := by
  have layout : (writePretty (.record fields)).toList =
      '\x7b' :: '\n' :: ((",\n".intercalate (fields.map line)).toList ++ ['\n', '\x7d']) := by
    simp [writePretty, writeIndented, block, indentFields_eq, given, line, Function.comp_def]
  have enough : fields.length < 2 * (writePretty (.record fields)).toList.length := by
    have lines := length_lines fields
    rw [layout]
    simp only [List.length_cons, List.length_append]
    omega
  have scanned := scanFields_lines given plain enough []
  rw [← scanFields_gap _ (by decide : isGap '\n')] at scanned
  rw [layout] at scanned
  rw [read?, layout, scanValue_record scanned, recordOf_named]
  rfl

end ProviderRouting.Json
