import Mathlib.Algebra.Order.Field.Rat
import Mathlib.Data.List.TakeWhile
import Mathlib.Tactic.Common
import ProviderRouting.Metrics.Exposition

/-!
# The text format of metrics

A text of metrics is read line by line.  A line is empty, gives the help or the type of a metric
family, or is a sample: a name, perhaps labels, and a number.  Label values stand in quotes, and a
backslash, a quote and a line break in them are escaped.  A family is declared once, before its
samples, and no two of its samples have the same labels.
-/

namespace ProviderRouting.Exposition

/-- The value of a sample. -/
inductive Figure where
  | number (value : ℚ)
  | nan
  | infinite (negative : Bool)
deriving DecidableEq

/-- One measured value. -/
structure Sample where
  labels : List (String × String)
  figure : Figure
deriving DecidableEq

/-- A metric family as it is read. -/
structure Family where
  name : String
  help : String
  /-- Its type, once it is given. -/
  kind : Option Kind
  samples : List Sample
deriving DecidableEq

/-- A line of the text. -/
inductive Line where
  | blank
  | help (name text : String)
  | type (name : String) (kind : Kind)
  | sample (name : String) (sample : Sample)
deriving DecidableEq

/-! ## Numbers -/

/-- The number that some digits write. -/
def readNatural (letters : List Char) : Option ℕ :=
  if letters ≠ [] ∧ letters.all Char.isDigit then some (Nat.ofDigitChars 10 letters 0) else none

/-- The number that some digits write with or without a point. -/
def readFraction (letters : List Char) : Option ℚ :=
  let places := (letters.dropWhile (· ≠ '.')).drop 1
  (readNatural (letters.takeWhile (· ≠ '.') ++ places)).map (· / 10 ^ places.length)

/-- A power of ten by its exponent. -/
def readPower : List Char → Option ℚ
  | '-' :: digits => (readNatural digits).map (1 / 10 ^ ·)
  | '+' :: digits => (readNatural digits).map (10 ^ ·)
  | digits => (readNatural digits).map (10 ^ ·)

/-- A number without a sign. -/
def readUnsigned (letters : List Char) : Option ℚ :=
  let digits := letters.takeWhile fun letter => letter ≠ 'e' ∧ letter ≠ 'E'
  match letters.drop digits.length with
  | [] => readFraction digits
  | _ :: exponent => do return (← readFraction digits) * (← readPower exponent)

/-- The value of a sample. -/
def readFigure (letters : List Char) : Option Figure :=
  match letters with
  | ['N', 'a', 'N'] => some .nan
  | ['I', 'n', 'f'] | ['+', 'I', 'n', 'f'] => some (.infinite false)
  | ['-', 'I', 'n', 'f'] => some (.infinite true)
  | '+' :: digits => (readUnsigned digits).map .number
  | '-' :: digits => (readUnsigned digits).map fun value => .number (-value)
  | digits => (readUnsigned digits).map .number

/-! ## Lines -/

/-- Whether a name of a metric can start with a letter. -/
def isNameStart (letter : Char) : Bool := letter.isAlpha || letter = '_' || letter = ':'

/-- Whether a name can go on with a letter. -/
def isNamePart (letter : Char) : Bool := isNameStart letter || letter.isDigit

/-- Read a name off the front. -/
def readName : List Char → Option (String × List Char)
  | [] => none
  | first :: rest =>
    if isNameStart first then
      some (String.ofList (first :: rest.takeWhile isNamePart), rest.dropWhile isNamePart)
    else none

/-- Read a label value up to the quote that ends it. -/
def readQuoted : List Char → Option (List Char × List Char)
  | [] => none
  | '"' :: rest => some ([], rest)
  | '\\' :: '\\' :: rest => (readQuoted rest).map fun (value, rest) => ('\\' :: value, rest)
  | '\\' :: '"' :: rest => (readQuoted rest).map fun (value, rest) => ('"' :: value, rest)
  | '\\' :: 'n' :: rest => (readQuoted rest).map fun (value, rest) => ('\n' :: value, rest)
  | letter :: rest =>
    if letter = '\\' then none
    else (readQuoted rest).map fun (value, rest) => (letter :: value, rest)

/-- Read labels up to the brace that ends them, at most `fuel` ones. -/
def readLabels : (fuel : ℕ) → List Char → Option (List (String × String) × List Char)
  | _, '\x7d' :: rest => some ([], rest)
  | 0, _ => none
  | fuel + 1, letters => do
    let (name, rest) ← readName letters
    match rest with
    | '=' :: '"' :: quoted =>
      let (value, rest) ← readQuoted quoted
      let label := (name, String.ofList value)
      match rest with
      | ',' :: rest =>
        let (labels, rest) ← readLabels fuel rest
        return (label :: labels, rest)
      | '\x7d' :: rest => return ([label], rest)
      | _ => none
    | _ => none

/-- Whether a letter only separates the parts of a line. -/
def isBlank (letter : Char) : Bool := letter = ' ' || letter = '\t'

/-- Read the labels of a sample, if it has any. -/
def readBraces : List Char → Option (List (String × String) × List Char)
  | '\x7b' :: rest => readLabels rest.length rest
  | rest => some ([], rest)

/-- Read a sample. -/
def readSample (letters : List Char) : Option Line := do
  let (name, rest) ← readName letters
  let (labels, rest) ← readBraces (rest.dropWhile isBlank)
  let figure ← readFigure (rest.dropWhile isBlank)
  return .sample name ⟨labels, figure⟩

/-- Read the help of a family, in which a backslash and a line break are escaped. -/
def readHelp : List Char → Option (List Char)
  | [] => some []
  | '\\' :: '\\' :: rest => (readHelp rest).map ('\\' :: ·)
  | '\\' :: 'n' :: rest => (readHelp rest).map ('\n' :: ·)
  | letter :: rest => if letter = '\\' then none else (readHelp rest).map (letter :: ·)

/-- A kind by its name. -/
def Kind.ofName? (letters : List Char) : Option Kind :=
  [counter, gauge].find? (·.name.toList = letters)

/-- Read a line. -/
def readLine (letters : List Char) : Option Line :=
  if letters.all isBlank then some .blank
  else match "# HELP ".toList.isPrefixOf? letters, "# TYPE ".toList.isPrefixOf? letters with
    | some rest, _ => do
      let (name, rest) ← readName rest
      match rest with
      | ' ' :: help => return .help name (String.ofList (← readHelp help))
      | _ => none
    | none, some rest => do
      let (name, rest) ← readName rest
      match rest with
      | ' ' :: kind => return .type name (← Kind.ofName? kind)
      | _ => none
    | none, none => readSample letters

/-- The lines of a text, each of which must come to its end. -/
def breakLines : List Char → Option (List (List Char))
  | [] => some []
  | letter :: rest =>
    if letter = '\n' then (breakLines rest).map ([] :: ·)
    else match breakLines rest with
      | some (line :: lines) => some ((letter :: line) :: lines)
      | _ => none

/-! ## Families -/

/-- The families that were read so far, and the one that is being read. -/
structure Draft where
  complete : List Family
  current : Option Family

namespace Draft

/-- All families. -/
def families (draft : Draft) : List Family := draft.complete ++ draft.current.toList

/-- Take the next line into account. -/
def take (draft : Draft) : Line → Option Draft
  | .blank => some draft
  | .help name text =>
    if ∃ family ∈ draft.families, family.name = name then none
    else some ⟨draft.families, some ⟨name, text, none, []⟩⟩
  | .type name kind => do
    let family ← draft.current
    if family.name = name ∧ family.kind = none ∧ family.samples = [] then
      some { draft with current := some { family with kind := some kind } }
    else none
  | .sample name sample => do
    let family ← draft.current
    if family.name = name ∧ family.kind ≠ none ∧
        sample.labels ∉ family.samples.map (·.labels) then
      some { draft with current := some { family with samples := family.samples ++ [sample] } }
    else none

end Draft

/-- The metric families that a text gives. -/
def read (text : String) : Option (List Family) := do
  let lines ← breakLines text.toList
  let draft ← (← lines.mapM readLine).foldlM Draft.take ⟨[], none⟩
  return draft.families

section Reading

variable {letters line rest value : List Char} {lines : List (List Char)} {letter : Char}

/-! ## Reading numbers -/

theorem isDigit_ne {other : Char} (digit : letter.isDigit = true)
    (different : other.isDigit = false) : letter ≠ other := by
  rintro rfl
  exact Bool.false_ne_true (different.symm.trans digit)

theorem isDigit_of_mem {number : ℕ} (member : letter ∈ Nat.toDigits 10 number) :
    letter.isDigit = true :=
  Nat.isDigit_of_mem_toDigits (by decide) (by decide) member

theorem readNatural_toDigits (number : ℕ) : readNatural (Nat.toDigits 10 number) = some number := by
  have digits : (Nat.toDigits 10 number).all Char.isDigit :=
    List.all_eq_true.mpr fun _ member => isDigit_of_mem member
  rw [readNatural, if_pos ⟨Nat.toDigits_ne_nil, digits⟩,
    Nat.ofDigitChars_toDigits (by decide) (by decide)]

/-- A number in digits is read as that number. -/
theorem readFigure_toDigits (number : ℕ) :
    readFigure (Nat.toDigits 10 number) = some (.number number) := by
  have digits : ∀ letter ∈ Nat.toDigits 10 number, letter.isDigit = true :=
    fun _ member => isDigit_of_mem member
  have unpointed : ∀ letter ∈ Nat.toDigits 10 number, decide (letter ≠ '.') = true :=
    fun letter member => decide_eq_true (isDigit_ne (digits letter member) rfl)
  have unscaled : ∀ letter ∈ Nat.toDigits 10 number,
      decide (letter ≠ 'e' ∧ letter ≠ 'E') = true := fun letter member =>
    decide_eq_true ⟨isDigit_ne (digits letter member) rfl, isDigit_ne (digits letter member) rfl⟩
  have fraction : readFraction (Nat.toDigits 10 number) = some (number : ℚ) := by
    rw [readFraction, List.takeWhile_eq_self_iff.mpr unpointed,
      List.dropWhile_eq_nil_iff.mpr unpointed]
    simp [readNatural_toDigits]
  have unsigned : readUnsigned (Nat.toDigits 10 number) = some (number : ℚ) := by
    rw [readUnsigned, List.takeWhile_eq_self_iff.mpr unscaled]
    simp [fraction]
  have nonempty : Nat.toDigits 10 number ≠ [] := Nat.toDigits_ne_nil
  generalize Nat.toDigits 10 number = text at digits unsigned nonempty
  cases text with
  | nil => exact absurd rfl nonempty
  | cons first others =>
      have head : first.isDigit = true := digits first List.mem_cons_self
      rw [readFigure]
      · rw [unsigned]
        rfl
      all_goals
        intros
        rename_i same
        exact isDigit_ne head rfl (List.cons.inj same).1

/-! ## Reading lines -/

/-- A text of lines. -/
def ended (lines : List (List Char)) : List Char := lines.flatMap (· ++ ['\n'])

theorem breakLines_line (whole : '\n' ∉ line) (rest : List Char) :
    breakLines (line ++ '\n' :: rest) = (breakLines rest).map (line :: ·) := by
  induction line with
  | nil => simp [breakLines]
  | cons letter line ih =>
      obtain ⟨other, tail⟩ := not_or.mp (mt List.mem_cons.mpr whole)
      rw [List.cons_append, breakLines, if_neg (Ne.symm other), ih tail]
      cases breakLines rest <;> rfl

theorem breakLines_ended (whole : ∀ line ∈ lines, '\n' ∉ line) (rest : List Char) :
    breakLines (ended lines ++ rest) = (breakLines rest).map (lines ++ ·) := by
  induction lines with
  | nil => cases h : breakLines rest <;> simp [ended, h]
  | cons line lines ih =>
      have others := ih fun other member => whole other (List.mem_cons_of_mem _ member)
      have layout : ended (line :: lines) ++ rest = line ++ '\n' :: (ended lines ++ rest) := by
        simp [ended]
      rw [layout, breakLines_line (whole line List.mem_cons_self), others]
      cases breakLines rest <;> rfl

/-- The first line of a text goes up to the first line break. -/
theorem exists_breakLines (broken : breakLines letters = some lines) (given : letters ≠ []) :
    ∃ others, lines = letters.takeWhile (· ≠ '\n') :: others := by
  induction letters generalizing lines with
  | nil => exact absurd rfl given
  | cons letter rest ih =>
      rw [breakLines] at broken
      split at broken
      · rename_i newline
        obtain ⟨others, -, rfl⟩ := Option.map_eq_some_iff.mp broken
        exact ⟨others, by simp [newline]⟩
      · rename_i other
        split at broken
        · rename_i line others inner
          obtain rfl := Option.some.inj broken
          have more : rest ≠ [] := by
            rintro rfl
            cases inner
          obtain ⟨_, same⟩ := ih inner more
          obtain ⟨rfl, rfl⟩ := List.cons.inj same
          exact ⟨others, by simp [other]⟩
        · cases broken

/-! ## Reading label values -/

/-- Nothing in a text has to be escaped. -/
def Plain (letters : List Char) : Prop := '\\' ∉ letters ∧ '"' ∉ letters ∧ '\n' ∉ letters

theorem plain_cons :
    Plain (letter :: letters) ↔ (letter ≠ '\\' ∧ letter ≠ '"' ∧ letter ≠ '\n') ∧ Plain letters := by
  simp only [Plain, List.mem_cons, not_or, ne_comm]
  tauto

theorem readQuoted_cons (kept : letter ≠ '\\') (inside : letter ≠ '"') (rest : List Char) :
    readQuoted (letter :: rest) =
      (readQuoted rest).map fun (value, rest) => (letter :: value, rest) := by
  rw [readQuoted, if_neg kept]
  · exact inside
  · exact fun _ backslash => absurd backslash kept
  · exact fun _ backslash => absurd backslash kept
  · exact fun _ backslash => absurd backslash kept

theorem readQuoted_plain (plain : Plain letters) (rest : List Char) :
    readQuoted (letters ++ '"' :: rest) = some (letters, rest) := by
  induction letters with
  | nil => rw [List.nil_append, readQuoted]
  | cons letter letters ih =>
      obtain ⟨⟨kept, inside, -⟩, others⟩ := plain_cons.mp plain
      rw [List.cons_append, readQuoted_cons kept inside, ih others]
      rfl

/-- What is read up to a quote is at least as long as its value, and longer if something in it was
escaped. -/
theorem exists_of_readQuoted (read : readQuoted letters = some (value, rest)) :
    ∃ passed, letters = passed ++ '"' :: rest ∧
      (passed = value ∧ '\\' ∉ value ∧ '"' ∉ value ∨ value.length < passed.length) := by
  fun_induction readQuoted letters generalizing value with
  | case1 => cases read
  | case2 rest =>
      obtain ⟨rfl, rfl⟩ := Prod.mk.inj (Option.some.inj read)
      exact ⟨[], rfl, .inl ⟨rfl, List.not_mem_nil, List.not_mem_nil⟩⟩
  | case3 rest ih | case4 rest ih | case5 rest ih =>
      obtain ⟨⟨inner, _⟩, before, same⟩ := Option.map_eq_some_iff.mp read
      obtain ⟨rfl, rfl⟩ := Prod.mk.inj same
      obtain ⟨passed, rfl, fate⟩ := ih before
      refine ⟨_ :: _ :: passed, rfl, .inr ?_⟩
      rcases fate with ⟨rfl, -⟩ | shorter
      · simp
      · simp only [List.length_cons]
        omega
  | case6 rest => cases read
  | case7 letter rest inside _ _ _ kept ih =>
      obtain ⟨⟨inner, _⟩, before, same⟩ := Option.map_eq_some_iff.mp read
      obtain ⟨rfl, rfl⟩ := Prod.mk.inj same
      obtain ⟨passed, rfl, fate⟩ := ih before
      refine ⟨letter :: passed, rfl, ?_⟩
      rcases fate with ⟨rfl, unescaped, unquoted⟩ | shorter
      · refine .inl ⟨rfl, ?_, ?_⟩
        · simpa [Ne.symm kept] using unescaped
        · simpa [Ne.symm inside] using unquoted
      · exact .inr (Nat.succ_lt_succ shorter)

/-- A name that is written as it is, is read as it is only if nothing in it had to be escaped. -/
theorem plain_of_readQuoted {name tail : List Char} (unquoted : '"' ∉ tail)
    (read : readQuoted ((name ++ '"' :: tail).takeWhile (· ≠ '\n')) = some (name, rest)) :
    Plain name := by
  obtain ⟨passed, same, fate⟩ := exists_of_readQuoted read
  have within : name.length ≤ passed.length := by
    rcases fate with ⟨rfl, -⟩ | shorter
    · exact Nat.le_refl _
    · exact Nat.le_of_lt shorter
  have cut : passed ++ '"' :: rest <+: name ++ '"' :: tail := same ▸ List.takeWhile_prefix _
  obtain ⟨extra, rfl⟩ : name <+: passed :=
    List.prefix_of_prefix_length_le (List.prefix_append _ _)
      ((List.prefix_append _ _).trans cut) within
  rw [List.append_assoc, List.prefix_append_right_inj] at cut
  cases extra with
  | cons letter extra =>
      -- another quote would have to come after the name
      have quote : '"' ∈ extra ++ '"' :: rest := by simp
      exact absurd ((List.cons_prefix_cons.mp cut).2.subset quote) unquoted
  | nil =>
      rw [List.append_nil] at fate same
      obtain ⟨-, unescaped, inside⟩ := fate.resolve_right (Nat.lt_irrefl _)
      refine ⟨unescaped, inside, fun broken => ?_⟩
      have member : '\n' ∈ (name ++ '"' :: tail).takeWhile (· ≠ '\n') := by
        rw [same]
        exact List.mem_append_left _ broken
      have other := List.mem_takeWhile_imp member
      simp at other

end Reading

/-! ## Gathering families -/

namespace Family

/-- The lines that declare a family and give its samples. -/
def lines (family : Family) : List Line :=
  .help family.name family.help ::
    (family.kind.toList.map (.type family.name) ++ family.samples.map (.sample family.name))

/-- A family has a type, and its samples have different labels. -/
structure Sound (family : Family) : Prop where
  typed : family.kind ≠ none
  distinct : (family.samples.map (·.labels)).Nodup

end Family

namespace Draft

variable {draft after : Draft} {family : Family} {families : List Family} {line : Line}

theorem take_samples (typed : family.kind ≠ none) (complete : List Family) (samples : List Sample)
    (distinct : ((family.samples ++ samples).map (·.labels)).Nodup) :
    (samples.map (Line.sample family.name)).foldlM take ⟨complete, some family⟩ =
      some ⟨complete, some { family with samples := family.samples ++ samples }⟩ := by
  induction samples generalizing family with
  | nil => simp
  | cons sample samples ih =>
      have fresh : sample.labels ∉ family.samples.map (·.labels) := by
        intro member
        rw [List.map_append, List.nodup_append] at distinct
        exact distinct.2.2 _ member _ (by simp) rfl
      have taken : take ⟨complete, some family⟩ (.sample family.name sample) =
          some ⟨complete, some { family with samples := family.samples ++ [sample] }⟩ :=
        if_pos ⟨rfl, typed, fresh⟩
      let longer : Family := { family with samples := family.samples ++ [sample] }
      have more : (samples.map (Line.sample longer.name)).foldlM take ⟨complete, some longer⟩ = _ :=
        ih typed (by simpa [longer] using distinct)
      rw [List.map_cons, List.foldlM_cons, taken]
      simpa [longer] using more

/-- The lines of a family that is new add it to the others. -/
theorem take_lines (sound : family.Sound)
    (unknown : ¬∃ other ∈ draft.families, other.name = family.name) :
    family.lines.foldlM take draft = some ⟨draft.families, some family⟩ := by
  obtain ⟨kind, typed⟩ := Option.ne_none_iff_exists'.mp sound.typed
  have named : take draft (.help family.name family.help) =
      some ⟨draft.families, some ⟨family.name, family.help, none, []⟩⟩ :=
    if_neg unknown
  have declared : take ⟨draft.families, some ⟨family.name, family.help, none, []⟩⟩
      (.type family.name kind) =
        some ⟨draft.families, some ⟨family.name, family.help, some kind, []⟩⟩ :=
    if_pos ⟨rfl, rfl, rfl⟩
  let empty : Family := ⟨family.name, family.help, some kind, []⟩
  have sampled : (family.samples.map (Line.sample empty.name)).foldlM take
      ⟨draft.families, some empty⟩ = _ :=
    take_samples (Option.some_ne_none kind) draft.families family.samples sound.distinct
  rw [Family.lines, typed, List.foldlM_cons, named]
  change (take _ (.type family.name kind)).bind _ = _
  rw [declared]
  refine sampled.trans ?_
  rw [List.nil_append]
  simp only [empty, ← typed]

/-- The lines of several families, with an empty line after each, add them all. -/
theorem take_families (sound : ∀ family ∈ families, family.Sound)
    (distinct : ((draft.families ++ families).map (·.name)).Nodup) :
    ∃ after, (families.flatMap fun family => family.lines ++ [.blank]).foldlM take draft =
      some after ∧ after.families = draft.families ++ families := by
  induction families generalizing draft with
  | nil => exact ⟨draft, rfl, (List.append_nil _).symm⟩
  | cons family families ih =>
      have unknown : ¬∃ other ∈ draft.families, other.name = family.name := by
        rintro ⟨other, member, same⟩
        rw [List.map_append, List.nodup_append] at distinct
        exact distinct.2.2 _ (List.mem_map_of_mem member) _ (by simp) same
      have gathered := take_lines (sound family List.mem_cons_self) unknown
      let next : Draft := ⟨draft.families, some family⟩
      have apart : ((next.families ++ families).map (·.name)).Nodup := by
        simpa [next, Draft.families] using distinct
      obtain ⟨after, taken, same⟩ :=
        ih (fun other member => sound other (List.mem_cons_of_mem _ member)) apart
      refine ⟨after, ?_, ?_⟩
      · rw [List.flatMap_cons, List.foldlM_append, List.foldlM_append, gathered]
        exact taken
      · rw [same]
        simp [next, Draft.families]

/-- A sample by its place. -/
def sampleAt (draft : Draft) (place index : ℕ) : Option Sample :=
  draft.families[place]?.bind (·.samples[index]?)

/-- A line adds a family or adds to the last one. -/
theorem take_cases (taken : draft.take line = some after) :
    after = draft ∨ (∃ family, after = ⟨draft.families, some family⟩) ∨
      ∃ family grown, draft.current = some family ∧ after = ⟨draft.complete, some grown⟩ ∧
        family.samples <+: grown.samples := by
  cases line with
  | blank => exact .inl (Option.some.inj taken).symm
  | help name text =>
      rw [take] at taken
      split at taken
      · cases taken
      · exact .inr (.inl ⟨_, (Option.some.inj taken).symm⟩)
  | type name kind =>
      obtain ⟨family, current, changed⟩ := Option.bind_eq_some_iff.mp taken
      split at changed
      · obtain rfl := Option.some.inj changed
        exact .inr (.inr ⟨family, _, current, rfl, List.prefix_rfl⟩)
      · cases changed
  | sample name sample =>
      obtain ⟨family, current, changed⟩ := Option.bind_eq_some_iff.mp taken
      split at changed
      · obtain rfl := Option.some.inj changed
        exact .inr (.inr ⟨family, _, current, rfl, List.prefix_append _ _⟩)
      · cases changed

theorem getElem?_of_prefix {α : Type} {left right : List α} {index : ℕ} {item : α}
    (prefixed : left <+: right) (here : left[index]? = some item) : right[index]? = some item := by
  obtain ⟨more, rfl⟩ := prefixed
  rw [List.getElem?_append_left (List.getElem?_eq_some_iff.mp here).1]
  exact here

/-- A sample that was read stays where it is. -/
theorem sampleAt_take {place index : ℕ} {sample : Sample}
    (here : draft.sampleAt place index = some sample) (taken : draft.take line = some after) :
    after.sampleAt place index = some sample := by
  obtain ⟨family, there, sampled⟩ := Option.bind_eq_some_iff.mp here
  rcases take_cases taken with rfl | ⟨added, rfl⟩ | ⟨last, grown, current, rfl, more⟩
  · exact here
  · have still := getElem?_of_prefix (List.prefix_append _ [added]) there
    exact Option.bind_eq_some_iff.mpr ⟨family, still, sampled⟩
  · rw [families, current, Option.toList_some] at there
    refine Option.bind_eq_some_iff.mpr ?_
    by_cases before : place < draft.complete.length
    · rw [List.getElem?_append_left before] at there
      refine ⟨family, ?_, sampled⟩
      rw [families, List.getElem?_append_left before, there]
    · rw [List.getElem?_append_right (Nat.not_lt.mp before), List.getElem?_singleton] at there
      split at there
      · rename_i only
        obtain rfl := Option.some.inj there
        refine ⟨grown, ?_, getElem?_of_prefix more sampled⟩
        rw [families, List.getElem?_append_right (Nat.not_lt.mp before), only]
        rfl
      · cases there

theorem sampleAt_foldlM {place index : ℕ} {sample : Sample} {read : List Line}
    (here : draft.sampleAt place index = some sample)
    (taken : read.foldlM take draft = some after) :
    after.sampleAt place index = some sample := by
  induction read generalizing draft with
  | nil =>
      obtain rfl := Option.some.inj taken
      exact here
  | cons line read ih =>
      obtain ⟨next, first, others⟩ := Option.bind_eq_some_iff.mp taken
      exact ih (sampleAt_take here first) others

end Draft

end ProviderRouting.Exposition
