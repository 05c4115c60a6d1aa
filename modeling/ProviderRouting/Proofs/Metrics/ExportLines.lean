import Mathlib.Data.List.Forall2
import Mathlib.Data.List.Induction
import ProviderRouting.Proofs.Metrics.TextFormat
import ProviderRouting.Proofs.Tables

/-!
# The lines of exported metrics

The lines of an export are the ones of the families that it has to give: whatever was counted, the
values are whole numbers, and a provider's sample is read as it is if its name needs no escapes.
-/

namespace ProviderRouting

/-! ## Metrics in use -/

/-- A step that changes metrics. -/
inductive MetricsStep where
  /-- The counts of the engine as a whole change. -/
  | total (change : Totals → Totals)
  /-- The counts of a provider change.  Its latencies go to the buckets there are. -/
  | provider (name : String) (change : ProviderMetrics → ProviderMetrics)
    (kept : ∀ metrics, (change metrics).latency.bounds = metrics.latency.bounds)

/-- A call is counted. -/
def MetricsStep.call (name : String) (succeeded : Bool) (latency : Duration) : MetricsStep :=
  .provider name (·.recordCall succeeded latency) fun _ => Histogram.bounds_record _ _

namespace Metrics

/-- Take one step. -/
def next (metrics : Metrics) : MetricsStep → Metrics
  | .total change => { metrics with totals := change metrics.totals }
  | .provider name change _ => metrics.update name change

/-- The metrics after some steps. -/
def run (steps : List MetricsStep) : Metrics := steps.foldl next fresh

/-- Latencies are counted in the same buckets for every provider. -/
def Calibrated (metrics : Metrics) : Prop :=
  ∀ name counts, metrics.providers.get? name = some counts →
    counts.latency.bounds = Histogram.latencyBounds

theorem Calibrated.next {metrics : Metrics} (calibrated : metrics.Calibrated) (step : MetricsStep) :
    (metrics.next step).Calibrated := by
  cases step with
  | total change => exact calibrated
  | provider name change kept =>
      have before : (metrics.provider name).latency.bounds = Histogram.latencyBounds := by
        rw [provider]
        cases held : metrics.providers.get? name with
        | none => rfl
        | some counts => exact calibrated name counts held
      intro other counts held
      rw [Metrics.next, update, Table.get?_insert] at held
      split at held
      · obtain rfl := Option.some.inj held
        exact (kept _).trans before
      · exact calibrated other counts held

theorem calibrated_run (steps : List MetricsStep) : (run steps).Calibrated := by
  induction steps using List.reverseRecOn with
  | nil => exact nofun
  | append_singleton steps step ih =>
      rw [run, List.foldl_append]
      exact ih.next step

end Metrics

namespace Histogram

theorem scan_mem (target : ℕ) (fallback : Float) (bounds : List Float) (counts : List ℕ)
    (below : ℕ) :
    HistogramSnapshot.scan target fallback bounds counts below ∈ fallback :: bounds := by
  induction bounds generalizing counts below with
  | nil => cases counts <;> exact List.mem_cons_self
  | cons bound bounds ih =>
      cases counts with
      | nil => exact List.mem_cons_self
      | cons count counts =>
          rw [HistogramSnapshot.scan]
          split
          · exact List.mem_cons_of_mem _ List.mem_cons_self
          · rcases List.mem_cons.mp (ih counts (below + count)) with same | among
            · rw [same]
              exact List.mem_cons_self
            · exact List.mem_cons_of_mem _ (List.mem_cons_of_mem _ among)

/-- A quantile of latencies is zero or one of the bounds. -/
theorem percentile_mem {histogram : Histogram} (calibrated : histogram.bounds = latencyBounds)
    (quantile : Float) : histogram.snapshot.percentile quantile ∈ 0.0 :: latencyBounds := by
  have bounds : histogram.snapshot.bounds = latencyBounds := calibrated
  have last : latencyBounds.getLast?.getD 0.0 ∈ latencyBounds :=
    List.mem_of_getLast? rfl
  rw [HistogramSnapshot.percentile, bounds]
  split
  · exact List.mem_cons_self
  · refine List.mem_cons_of_mem _ ?_
    rcases List.mem_cons.mp (scan_mem _ _ latencyBounds _ _) with same | among
    · rw [same]
      exact last
    · exact among

end Histogram

namespace Exposition

/-! ## What an export has to give -/

/-- The number that a double is. -/
def Figure.ofDouble (value : Float) : Figure :=
  match Binary64.read value with
  | .nan => .nan
  | .infinite negative => .infinite negative
  | .finite negative mantissa exponent =>
    let magnitude : ℚ := (mantissa * 2 ^ exponent.toNat : ℕ) / (2 ^ (-exponent).toNat : ℕ)
    .number (if negative then -magnitude else magnitude)

/-- The nine values of a provider. -/
def figures : List (ProviderSummary → Figure) :=
  [fun summary => .number summary.metrics.calls,
    fun summary => .number summary.metrics.successes,
    fun summary => .number summary.metrics.failures,
    fun summary => .number summary.metrics.rejections,
    fun summary => .number summary.metrics.opened,
    fun summary => .number summary.metrics.halfOpened,
    fun summary => .number summary.metrics.closed,
    fun summary => .number summary.metrics.phase,
    fun summary => .ofDouble summary.median]

/-- The families of providers with the values that they show. -/
def shown : List (ProviderFamily × (ProviderSummary → Figure)) := providerFamilies.zip figures

/-- A count of the engine as a whole. -/
def totalFamily (totals : Totals) (family : TotalFamily) : Family :=
  ⟨family.name, family.help, some .counter, [⟨[], .number (totals.get family.counter)⟩]⟩

/-- A sample of a provider. -/
def providerSample (figure : ProviderSummary → Figure) (summary : ProviderSummary) : Sample :=
  ⟨[("provider", summary.provider)], figure summary⟩

/-- One value of every provider. -/
def providerFamily (summaries : List ProviderSummary)
    (entry : ProviderFamily × (ProviderSummary → Figure)) : Family :=
  ⟨entry.1.name, entry.1.help, some entry.1.kind, summaries.map (providerSample entry.2)⟩

/-- What the export has to give: the counts of the engine as a whole, and for every provider its
name with its nine values. -/
def families (metrics : Metrics) : List Family :=
  totalFamilies.map (totalFamily metrics.totals) ++
    if metrics.summaries.isEmpty then [] else shown.map (providerFamily metrics.summaries)

/-- The bounds of latencies are whole numbers and written as such. -/
theorem exists_write_bound :
    ∀ bound ∈ 0.0 :: Histogram.latencyBounds,
      ∃ number ∈ [0, 50, 100, 250, 500, 1000, 2500, 5000, 10000, 30000, 60000, 120000],
        NumberStyle.plain.write bound = toString number ∧
          Figure.ofDouble bound = .number (number : ℕ) := by
  decide +kernel

/-- Every value of a provider is a whole number and written as such. -/
def Whole (summary : ProviderSummary) : Prop :=
  ∀ entry ∈ shown, ∃ number : ℕ,
    entry.1.value summary = toString number ∧ entry.2 summary = .number number

theorem whole_summary {metrics : Metrics} (calibrated : metrics.Calibrated) :
    ∀ summary ∈ metrics.summaries, Whole summary := by
  intro summary member
  obtain ⟨⟨name, counts⟩, listed, rfl⟩ := List.mem_map.mp member
  have bounds := calibrated name counts (Table.mem_entries_iff.mp listed)
  have median : ∃ number : ℕ,
      NumberStyle.plain.write (counts.summary name).median = toString number ∧
        Figure.ofDouble (counts.summary name).median = .number number := by
    obtain ⟨number, -, written⟩ := exists_write_bound _ (Histogram.percentile_mem bounds 0.5)
    exact ⟨number, written⟩
  simp only [Whole, shown, providerFamilies, figures, List.zip_cons_cons, List.forall_mem_cons]
  exact ⟨⟨_, rfl, rfl⟩, ⟨_, rfl, rfl⟩, ⟨_, rfl, rfl⟩, ⟨_, rfl, rfl⟩, ⟨_, rfl, rfl⟩, ⟨_, rfl, rfl⟩,
    ⟨_, rfl, rfl⟩, ⟨_, rfl, rfl⟩, median, by simp⟩

/-! ## The lines of an export -/

/-- The lines that start a family. -/
def headingTexts (name help : String) (kind : Kind) : List (List Char) :=
  [("# HELP " ++ name ++ " " ++ help).toList, ("# TYPE " ++ name ++ " " ++ kind.name).toList]

/-- The line of a count of the engine as a whole. -/
def totalText (totals : Totals) (family : TotalFamily) : List Char :=
  (family.name ++ " " ++ toString (totals.get family.counter)).toList

/-- The sample of a provider, which is a line unless its name has a line break. -/
def sampleText (family : ProviderFamily) (summary : ProviderSummary) : List Char :=
  (family.name ++ "\x7bprovider=\"" ++ summary.provider ++ "\"\x7d " ++
    family.value summary).toList

/-- The lines of a family of the engine as a whole. -/
def totalTexts (totals : Totals) (family : TotalFamily) : List (List Char) :=
  headingTexts family.name family.help .counter ++ [totalText totals family, []]

/-- The lines of a family with one sample per provider. -/
def providerTexts (summaries : List ProviderSummary) (family : ProviderFamily) :
    List (List Char) :=
  headingTexts family.name family.help family.kind ++ summaries.map (sampleText family) ++ [[]]

theorem toList_heading (name help : String) (kind : Kind) :
    (heading name help kind).toList = ended (headingTexts name help kind) := by
  unfold heading
  simp [headingTexts, ended]

theorem ended_append (left right : List (List Char)) :
    ended (left ++ right) = ended left ++ ended right :=
  List.flatMap_append

theorem toList_writeTotal (totals : Totals) (family : TotalFamily) :
    (writeTotal totals family).toList = ended (totalTexts totals family) := by
  rw [totalTexts, ended_append, ← toList_heading]
  simp [writeTotal, totalText, ended]

theorem toList_writeProviders (summaries : List ProviderSummary) (family : ProviderFamily) :
    (writeProviders summaries family).toList = ended (providerTexts summaries family) := by
  have samples : (summaries.map (writeSample family)).flatMap String.toList =
      ended (summaries.map (sampleText family)) := by
    simp [ended, List.flatMap_map, writeSample, sampleText]
  rw [providerTexts, ended_append, ended_append, ← toList_heading, ← samples]
  simp [writeProviders, ended]

theorem toList_write (metrics : Metrics) :
    (write metrics).toList = ended (totalFamilies.flatMap (totalTexts metrics.totals) ++
      if metrics.summaries.isEmpty then []
      else shown.flatMap fun entry => providerTexts metrics.summaries entry.1) := by
  have totals : (totalFamilies.map (writeTotal metrics.totals)).flatMap String.toList =
      ended (totalFamilies.flatMap (totalTexts metrics.totals)) := by
    simp [ended, List.flatMap_map, List.flatMap_assoc, toList_writeTotal]
  have providers : (providerFamilies.map (writeProviders metrics.summaries)).flatMap
      String.toList =
        ended (shown.flatMap fun entry => providerTexts metrics.summaries entry.1) := by
    have same : providerFamilies = shown.map (·.1) := rfl
    simp [same, ended, List.flatMap_map, List.flatMap_assoc, toList_writeProviders]
  rw [write, ended_append, ← totals]
  split
  · simp [ended]
  · rw [← providers]
    simp

/-! ## Reading the lines -/

/-- Texts that are lines and are read as given. -/
def Reads : List (List Char) → List Line → Prop :=
  List.Forall₂ fun text line => '\n' ∉ text ∧ readLine text = some line

theorem Reads.append {left right : List (List Char)} {first second : List Line}
    (front : Reads left first) (back : Reads right second) :
    Reads (left ++ right) (first ++ second) :=
  List.rel_append front back

theorem reads_map {α : Type} {items : List α} {text : α → List Char} {line : α → Line}
    (each : ∀ item ∈ items, '\n' ∉ text item ∧ readLine (text item) = some (line item)) :
    Reads (items.map text) (items.map line) :=
  List.forall₂_map_left_iff.mpr (List.forall₂_map_right_iff.mpr (List.forall₂_same.mpr each))

theorem reads_flatMap {α : Type} {items : List α} {texts : α → List (List Char)}
    {lines : α → List Line} (each : ∀ item ∈ items, Reads (texts item) (lines item)) :
    Reads (items.flatMap texts) (items.flatMap lines) := by
  induction items with
  | nil => exact .nil
  | cons item items ih =>
      rw [List.flatMap_cons, List.flatMap_cons]
      exact (each item List.mem_cons_self).append
        (ih fun other member => each other (List.mem_cons_of_mem _ member))

theorem Reads.whole {texts : List (List Char)} {lines : List Line} (reads : Reads texts lines) :
    ∀ text ∈ texts, '\n' ∉ text := by
  induction reads with
  | nil => exact fun _ member => absurd member List.not_mem_nil
  | cons first _ ih => exact List.forall_mem_cons.mpr ⟨first.1, ih⟩

theorem Reads.mapM {texts : List (List Char)} {lines : List Line} (reads : Reads texts lines) :
    texts.mapM readLine = some lines := by
  induction reads with
  | nil => rfl
  | cons first _ ih => simp [List.mapM_cons, first.2, ih]

theorem reads_blank : Reads [[]] [.blank] := .cons ⟨List.not_mem_nil, rfl⟩ .nil

/-- Whether letters make up a name. -/
def isName (letters : List Char) : Bool :=
  letters.head?.any isNameStart && letters.all isNamePart

/-- Whether letters can be written as help without escapes. -/
def isClear (letters : List Char) : Bool := letters.all fun letter => letter ≠ '\\' && letter ≠ '\n'

section Lines

variable {name help : String} {kind : Kind} {stop : Char} {rest : List Char}

theorem exists_of_isName (named : isName name.toList = true) :
    ∃ first others, name = String.ofList (first :: others) ∧ isNameStart first = true ∧
      ∀ letter ∈ others, isNamePart letter = true := by
  rw [isName, Bool.and_eq_true] at named
  cases letters : name.toList with
  | nil => simp [letters] at named
  | cons first others =>
      rw [letters] at named
      refine ⟨first, others, ?_, named.1, fun letter member => ?_⟩
      · rw [← letters, String.ofList_toList]
      · exact List.all_eq_true.mp named.2 letter (List.mem_cons_of_mem _ member)

theorem unbroken_of_isName (named : isName name.toList = true) : '\n' ∉ name.toList := by
  intro member
  have part := List.all_eq_true.mp (Bool.and_eq_true_iff.mp named).2 _ member
  exact absurd part (by decide)

theorem readName_append (named : isName name.toList = true) (stops : isNamePart stop = false)
    (rest : List Char) :
    readName (name.toList ++ stop :: rest) = some (name, stop :: rest) := by
  obtain ⟨first, others, rfl, starts, parts⟩ := exists_of_isName named
  rw [String.toList_ofList, List.cons_append, readName, if_pos starts,
    List.takeWhile_append_of_pos parts, List.dropWhile_append_of_pos parts]
  simp [stops]

theorem clear_of_isClear (clear : isClear help.toList = true) :
    '\\' ∉ help.toList ∧ '\n' ∉ help.toList := by
  have each := List.all_eq_true.mp clear
  exact ⟨fun member => absurd (each _ member) (by decide),
    fun member => absurd (each _ member) (by decide)⟩

theorem readHelp_plain {letters : List Char} (unescaped : '\\' ∉ letters) :
    readHelp letters = some letters := by
  induction letters with
  | nil => rfl
  | cons letter letters ih =>
      obtain ⟨kept, others⟩ := not_or.mp (mt List.mem_cons.mpr unescaped)
      rw [readHelp, if_neg (Ne.symm kept), ih others]
      · rfl
      · exact fun _ backslash => absurd backslash.symm kept
      · exact fun _ backslash => absurd backslash.symm kept

theorem readLine_help (named : isName name.toList = true) (unescaped : '\\' ∉ help.toList) :
    readLine ("# HELP " ++ name ++ " " ++ help).toList = some (.help name help) := by
  have layout : ("# HELP " ++ name ++ " " ++ help).toList =
      '#' :: ' ' :: 'H' :: 'E' :: 'L' :: 'P' :: ' ' :: (name.toList ++ ' ' :: help.toList) := by
    simp
  have named := readName_append named (by decide : isNamePart ' ' = false) help.toList
  rw [layout, readLine, if_neg (by simp [isBlank])]
  simp [List.isPrefixOf?, named, readHelp_plain unescaped]

theorem readLine_type (named : isName name.toList = true) (kind : Kind) :
    readLine ("# TYPE " ++ name ++ " " ++ kind.name).toList = some (.type name kind) := by
  have layout : ("# TYPE " ++ name ++ " " ++ kind.name).toList =
      '#' :: ' ' :: 'T' :: 'Y' :: 'P' :: 'E' :: ' ' ::
        (name.toList ++ ' ' :: kind.name.toList) := by
    simp
  have named := readName_append named (by decide : isNamePart ' ' = false) kind.name.toList
  have known : Kind.ofName? kind.name.toList = some kind := by cases kind <;> decide
  rw [layout, readLine, if_neg (by simp [isBlank])]
  simp [List.isPrefixOf?, named, known]

/-- A family is announced in two lines. -/
theorem reads_heading (named : isName name.toList = true)
    (clear : isClear help.toList = true) (kind : Kind) :
    Reads (headingTexts name help kind) [.help name help, .type name kind] := by
  obtain ⟨unescaped, unbroken⟩ := clear_of_isClear clear
  have lettered := unbroken_of_isName named
  have kinded : '\n' ∉ kind.name.toList := by cases kind <;> decide
  refine .cons ⟨?_, readLine_help named unescaped⟩ (.cons ⟨?_, readLine_type named kind⟩ .nil)
  · simp [lettered, unbroken]
  · simp [lettered, kinded]

/-- What starts with a name is a sample. -/
theorem readLine_of_name (named : isName name.toList = true) (rest : List Char) :
    readLine (name.toList ++ rest) = readSample (name.toList ++ rest) := by
  obtain ⟨first, others, rfl, starts, -⟩ := exists_of_isName named
  have visible : ¬isBlank first = true := by
    intro blank
    simp only [isBlank, Bool.or_eq_true, decide_eq_true_eq] at blank
    rcases blank with rfl | rfl <;> exact absurd starts (by decide)
  have other : first ≠ '#' := by
    rintro rfl
    exact absurd starts (by decide)
  rw [String.toList_ofList, List.cons_append, readLine, if_neg (by simp [visible])]
  simp [List.isPrefixOf?, other.symm]

theorem head_toDigits (number : ℕ) :
    ∃ first others, Nat.toDigits 10 number = first :: others ∧ first.isDigit = true := by
  cases digits : Nat.toDigits 10 number with
  | nil => exact absurd digits Nat.toDigits_ne_nil
  | cons first others =>
      have member : first ∈ Nat.toDigits 10 number := by simp [digits]
      exact ⟨first, others, rfl, isDigit_of_mem member⟩

theorem unbroken_toDigits (number : ℕ) : '\n' ∉ Nat.toDigits 10 number := fun member =>
  absurd (isDigit_of_mem member) (by decide)

/-- A blank before the value of a sample is skipped. -/
theorem dropWhile_toDigits (number : ℕ) :
    (' ' :: Nat.toDigits 10 number).dropWhile isBlank = Nat.toDigits 10 number := by
  obtain ⟨first, others, digits, digit⟩ := head_toDigits number
  have visible : ¬isBlank first = true := by
    simp only [isBlank, Bool.or_eq_true, decide_eq_true_eq]
    exact not_or.mpr ⟨isDigit_ne digit rfl, isDigit_ne digit rfl⟩
  rw [List.dropWhile_cons_of_pos (by decide), digits, List.dropWhile_cons_of_neg visible]

theorem readBraces_toDigits (number : ℕ) :
    readBraces (Nat.toDigits 10 number) = some ([], Nat.toDigits 10 number) := by
  obtain ⟨first, others, digits, digit⟩ := head_toDigits number
  rw [digits, readBraces]
  intro rest same
  exact isDigit_ne digit rfl (List.cons.inj same).1

theorem readSample_bare (named : isName name.toList = true) (number : ℕ) :
    readSample (name.toList ++ ' ' :: Nat.toDigits 10 number) =
      some (.sample name ⟨[], .number number⟩) := by
  have skipped := dropWhile_toDigits number
  have shown : (Nat.toDigits 10 number).dropWhile isBlank = Nat.toDigits 10 number := by
    rwa [List.dropWhile_cons_of_pos (by decide)] at skipped
  simp [readSample, readName_append named (by decide : isNamePart ' ' = false), skipped,
    readBraces_toDigits, shown, readFigure_toDigits]

/-- The labels of a provider's sample begin with its name, as far as that can be read. -/
theorem readBraces_provider (quoted : List Char) :
    readBraces ('\x7b' :: ("provider=\"".toList ++ quoted)) = (do
      let (value, rest) ← readQuoted quoted
      let label := ("provider", String.ofList value)
      match rest with
      | ',' :: rest =>
        let (labels, rest) ← readLabels (quoted.length + 9) rest
        return (label :: labels, rest)
      | '\x7d' :: rest => return ([label], rest)
      | _ => none) := by
  have layout : "provider=\"".toList ++ quoted = "provider".toList ++ '=' :: '"' :: quoted := by
    simp
  have length : ("provider".toList ++ '=' :: '"' :: quoted).length = quoted.length + 9 + 1 := by
    simp
  have named : readName ("provider".toList ++ '=' :: '"' :: quoted) =
      some ("provider", '=' :: '"' :: quoted) :=
    readName_append (by decide) (by decide) _
  rw [readBraces, layout, length, readLabels]
  · rw [named]
    rfl
  · intro rest same
    simp at same

end Lines

section Providers

variable {family : ProviderFamily} {summary : ProviderSummary} {number : ℕ}

theorem sampleText_eq (written : family.value summary = toString number) :
    sampleText family summary = family.name.toList ++ '\x7b' :: ("provider=\"".toList ++
      (summary.provider.toList ++ '"' :: '\x7d' :: ' ' :: Nat.toDigits 10 number)) := by
  simp [sampleText, written]

theorem readSample_labelled (named : isName family.name.toList = true) (rest : List Char) :
    readSample (family.name.toList ++ '\x7b' :: rest) = (do
      let (labels, rest) ← readBraces ('\x7b' :: rest)
      let figure ← readFigure (rest.dropWhile isBlank)
      return .sample family.name ⟨labels, figure⟩) := by
  rw [readSample, readName_append named (by decide)]
  rfl

/-- A sample of a provider is read as it is, if nothing in its name has to be escaped. -/
theorem readSample_plain (named : isName family.name.toList = true)
    (plain : Plain summary.provider.toList) (number : ℕ) :
    readSample (family.name.toList ++ '\x7b' :: ("provider=\"".toList ++
        (summary.provider.toList ++ '"' :: '\x7d' :: ' ' :: Nat.toDigits 10 number))) =
      some (.sample family.name ⟨[("provider", summary.provider)], .number number⟩) := by
  have quoted := readQuoted_plain plain ('\x7d' :: ' ' :: Nat.toDigits 10 number)
  rw [readSample_labelled named, readBraces_provider, quoted]
  simp [dropWhile_toDigits, readFigure_toDigits]

/-- What is read of a line that starts like a sample of a provider is a sample, and its first label
has the value in the first quotes. -/
theorem exists_of_readSample (named : isName family.name.toList = true) {quoted : List Char}
    {line : Line}
    (read : readSample (family.name.toList ++ '\x7b' :: ("provider=\"".toList ++ quoted)) =
      some line) :
    ∃ value rest labels figure, readQuoted quoted = some (value, rest) ∧
      line = .sample family.name ⟨("provider", String.ofList value) :: labels, figure⟩ := by
  rw [readSample_labelled named, readBraces_provider] at read
  obtain ⟨⟨labels, after⟩, braces, rest⟩ := Option.bind_eq_some_iff.mp read
  obtain ⟨⟨value, after'⟩, quotes, more⟩ := Option.bind_eq_some_iff.mp braces
  obtain ⟨figure, -, same⟩ := Option.bind_eq_some_iff.mp rest
  obtain rfl := Option.some.inj same
  dsimp only at more
  split at more
  · obtain ⟨⟨others, _⟩, -, same⟩ := Option.bind_eq_some_iff.mp more
    obtain ⟨rfl, -⟩ := Prod.mk.inj (Option.some.inj same)
    exact ⟨value, _, others, figure, quotes, rfl⟩
  · obtain ⟨rfl, -⟩ := Prod.mk.inj (Option.some.inj more)
    exact ⟨value, _, [], figure, quotes, rfl⟩
  · cases more

end Providers

/-! ## Reading the families -/

/-- The names and helps of the families need no escapes. -/
theorem families_named :
    (∀ family ∈ totalFamilies,
      isName family.name.toList = true ∧ isClear family.help.toList = true) ∧
    ∀ entry ∈ shown, isName entry.1.name.toList = true ∧ isClear entry.1.help.toList = true := by
  -- the letters are written out first: to decide them within strings takes long
  simp only [totalFamilies, shown, providerFamilies, figures, List.zip_cons_cons,
    List.forall_mem_cons, String.reduceToList]
  decide

theorem reads_totalTexts {family : TotalFamily} (known : family ∈ totalFamilies)
    (totals : Totals) :
    Reads (totalTexts totals family) ((totalFamily totals family).lines ++ [.blank]) := by
  obtain ⟨named, clear⟩ := families_named.1 family known
  let number := totals.get family.counter
  have text : totalText totals family = family.name.toList ++ ' ' :: Nat.toDigits 10 number := by
    simp [totalText, number]
  refine (reads_heading named clear .counter).append (.cons ⟨?_, ?_⟩ reads_blank)
  · rw [text]
    simp [unbroken_of_isName named, unbroken_toDigits]
  · rw [text, readLine_of_name named, readSample_bare named]
    rfl

/-- The lines of a family with one sample per provider, without the last empty one. -/
theorem reads_provider {entry : ProviderFamily × (ProviderSummary → Figure)}
    (known : entry ∈ shown) {summaries : List ProviderSummary}
    (whole : ∀ summary ∈ summaries, Whole summary)
    (plain : ∀ summary ∈ summaries, Plain summary.provider.toList) :
    Reads (headingTexts entry.1.name entry.1.help entry.1.kind ++
      summaries.map (sampleText entry.1)) (providerFamily summaries entry).lines := by
  obtain ⟨named, clear⟩ := families_named.2 entry known
  have samples : (providerFamily summaries entry).samples.map (Line.sample entry.1.name) =
      summaries.map fun summary => .sample entry.1.name (providerSample entry.2 summary) :=
    List.map_map
  refine (reads_heading named clear entry.1.kind).append ?_
  change Reads _ ((providerFamily summaries entry).samples.map (Line.sample entry.1.name))
  rw [samples]
  refine reads_map fun summary member => ?_
  obtain ⟨number, written, figure⟩ := whole summary member entry known
  rw [sampleText_eq written]
  refine ⟨?_, ?_⟩
  · simp [unbroken_of_isName named, unbroken_toDigits, (plain summary member).2.2]
  · rw [readLine_of_name named, readSample_plain named (plain summary member), providerSample,
      figure]

/-- The lines of whole families, each with an empty line after it. -/
def closedLines (families : List Family) : List Line :=
  families.flatMap fun family => family.lines ++ [.blank]

theorem reads_totals (totals : Totals) :
    Reads (totalFamilies.flatMap (totalTexts totals))
      (closedLines (totalFamilies.map (totalFamily totals))) := by
  rw [closedLines, List.flatMap_map]
  exact reads_flatMap fun family known => reads_totalTexts known totals

theorem reads_providers {summaries : List ProviderSummary}
    (whole : ∀ summary ∈ summaries, Whole summary)
    (plain : ∀ summary ∈ summaries, Plain summary.provider.toList) :
    Reads (shown.flatMap fun entry => providerTexts summaries entry.1)
      (closedLines (shown.map (providerFamily summaries))) := by
  rw [closedLines, List.flatMap_map]
  exact reads_flatMap fun entry known => (reads_provider known whole plain).append reads_blank

end Exposition

end ProviderRouting
