import Mathlib.Data.List.Nodup
import ProviderRouting.Proofs.Metrics.ExportLines
import ProviderRouting.Proofs.Tables

/-!
# Legibility of exported metrics

The export names providers as they are called.  It gives back every count and every name as long as
no name has a backslash, a quote or a line break in it, which would have to be escaped; and it does
so only then.
-/

namespace ProviderRouting.Exposition

/-! ## Reading from the front -/

section Whole

variable {text : String} {texts : List (List Char)} {lines : List Line} {draft : Draft}
  {rest : List Char} {given : List Family}

/-- A text of lines gives the families that its lines give. -/
theorem read_eq (reads : Reads texts lines) (layout : text.toList = ended texts)
    (gathered : lines.foldlM Draft.take ⟨[], none⟩ = some draft) :
    read text = some draft.families := by
  have broken := breakLines_ended reads.whole []
  rw [List.append_nil] at broken
  simp [read, layout, broken, breakLines, reads.mapM, gathered]

/-- Whatever follows some lines, its first line is read next. -/
theorem exists_of_read (reads : Reads texts lines)
    (gathered : lines.foldlM Draft.take ⟨[], none⟩ = some draft)
    (layout : text.toList = ended texts ++ rest) (more : rest ≠ [])
    (result : read text = some given) :
    ∃ line next, ∃ others : List Line, ∃ after : Draft,
      readLine (rest.takeWhile (· ≠ '\n')) = some line ∧ draft.take line = some next ∧
        others.foldlM Draft.take next = some after ∧ after.families = given := by
  obtain ⟨broken, breaks, result⟩ := Option.bind_eq_some_iff.mp result
  obtain ⟨readings, mapped, result⟩ := Option.bind_eq_some_iff.mp result
  obtain ⟨after, folded, same⟩ := Option.bind_eq_some_iff.mp result
  rw [layout, breakLines_ended reads.whole] at breaks
  obtain ⟨last, cut, rfl⟩ := Option.map_eq_some_iff.mp breaks
  obtain ⟨remaining, rfl⟩ := exists_breakLines cut more
  rw [List.mapM_append, reads.mapM, Option.bind_eq_bind, Option.bind_some, List.mapM_cons] at mapped
  obtain ⟨later, mapped, together⟩ := Option.bind_eq_some_iff.mp mapped
  obtain ⟨line, first, mapped⟩ := Option.bind_eq_some_iff.mp mapped
  obtain ⟨others, -, headed⟩ := Option.bind_eq_some_iff.mp mapped
  obtain rfl := Option.some.inj headed
  obtain rfl := Option.some.inj together
  rw [List.foldlM_append, gathered, Option.bind_eq_bind, Option.bind_some,
    List.foldlM_cons] at folded
  obtain ⟨next, taken, folded⟩ := Option.bind_eq_some_iff.mp folded
  exact ⟨line, next, others, after, first, taken, folded, Option.some.inj same⟩

end Whole

/-! ## Whole exports -/

section Export

variable {metrics : Metrics}

/-- All families have a type and different labels. -/
theorem sound_totalFamily (totals : Totals) (family : TotalFamily) :
    (totalFamily totals family).Sound :=
  ⟨nofun, List.nodup_singleton _⟩

theorem sound_providerFamily {summaries : List ProviderSummary}
    (distinct : (summaries.map (·.provider)).Nodup)
    (entry : ProviderFamily × (ProviderSummary → Figure)) :
    (providerFamily summaries entry).Sound := by
  refine ⟨nofun, ?_⟩
  have labels : (providerFamily summaries entry).samples.map (·.labels) =
      (summaries.map (·.provider)).map fun provider => [("provider", provider)] := by
    simp [providerFamily, providerSample]
  rw [labels]
  exact distinct.map fun _ _ same => by simpa using same

/-- No two families have the same name. -/
theorem distinct_families :
    (totalFamilies.map (·.name) ++ shown.map (·.1.name)).Nodup := by
  simp [totalFamilies, shown, providerFamilies, figures]

theorem names_families (totals : Totals) (summaries : List ProviderSummary) :
    (totalFamilies.map (totalFamily totals) ++ shown.map (providerFamily summaries)).map
        (·.name) =
      totalFamilies.map (·.name) ++ shown.map (·.1.name) := by
  simp [totalFamily, providerFamily, Function.comp_def]

theorem map_provider_summaries (metrics : Metrics) :
    metrics.summaries.map (·.provider) = metrics.providers.names := by
  simp [Metrics.summaries, Table.names, Function.comp_def, ProviderMetrics.summary]

theorem distinct_summaries (metrics : Metrics) :
    (metrics.summaries.map (·.provider)).Nodup := by
  rw [map_provider_summaries]
  exact Table.nodup_names _

theorem sound_families (metrics : Metrics) : ∀ family ∈ families metrics, family.Sound := by
  intro family member
  rcases List.mem_append.mp member with total | provider
  · obtain ⟨original, -, rfl⟩ := List.mem_map.mp total
    exact sound_totalFamily _ _
  · split at provider
    · exact absurd provider List.not_mem_nil
    · obtain ⟨entry, -, rfl⟩ := List.mem_map.mp provider
      exact sound_providerFamily (distinct_summaries metrics) entry

theorem nodup_families (metrics : Metrics) : ((families metrics).map (·.name)).Nodup := by
  have all := names_families metrics.totals metrics.summaries ▸ distinct_families
  rw [families]
  split
  · rw [List.append_nil]
    rw [List.map_append] at all
    exact all.of_append_left
  · exact all

/-- If no name has to be escaped, the export gives what it has to give. -/
theorem read_write (whole : ∀ summary ∈ metrics.summaries, Whole summary)
    (plain : ∀ summary ∈ metrics.summaries, Plain summary.provider.toList) :
    read (write metrics) = some (families metrics) := by
  have reads : Reads
      (totalFamilies.flatMap (totalTexts metrics.totals) ++ if metrics.summaries.isEmpty then []
        else shown.flatMap fun entry => providerTexts metrics.summaries entry.1)
      (closedLines (families metrics)) := by
    rw [families, closedLines, List.flatMap_append]
    refine (reads_totals metrics.totals).append ?_
    split
    · exact .nil
    · exact reads_providers whole plain
  obtain ⟨draft, gathered, same⟩ : ∃ draft : Draft,
      (closedLines (families metrics)).foldlM Draft.take ⟨[], none⟩ = some draft ∧
        draft.families = [] ++ families metrics :=
    Draft.take_families (sound_families metrics) (nodup_families metrics)
  rw [read_eq reads (toList_write metrics) gathered, same]
  rfl

/-- The first family of the providers. -/
def firstShown : ProviderFamily × (ProviderSummary → Figure) := shown[0]

theorem shown_eq : shown = firstShown :: shown.tail := rfl

theorem firstShown_mem : firstShown ∈ shown := List.mem_cons_self

/-- The lines of an export up to a provider. -/
def frontLines (totals : Totals) (before : List ProviderSummary) : List Line :=
  closedLines (totalFamilies.map (totalFamily totals)) ++ (providerFamily before firstShown).lines

/-- Their texts. -/
def frontTexts (totals : Totals) (before : List ProviderSummary) : List (List Char) :=
  totalFamilies.flatMap (totalTexts totals) ++
    (headingTexts firstShown.1.name firstShown.1.help firstShown.1.kind ++
      before.map (sampleText firstShown.1))

theorem reads_front (totals : Totals) {before : List ProviderSummary}
    (whole : ∀ summary ∈ before, Whole summary)
    (plain : ∀ summary ∈ before, Plain summary.provider.toList) :
    Reads (frontTexts totals before) (frontLines totals before) :=
  (reads_totals totals).append (reads_provider firstShown_mem whole plain)

/-- The families that were read before a provider. -/
def frontDraft (totals : Totals) (before : List ProviderSummary) : Draft :=
  ⟨totalFamilies.map (totalFamily totals), some (providerFamily before firstShown)⟩

theorem take_front (totals : Totals) {before : List ProviderSummary}
    (distinct : (before.map (·.provider)).Nodup) :
    (frontLines totals before).foldlM Draft.take ⟨[], none⟩ = some (frontDraft totals before) := by
  have names := names_families totals before ▸ distinct_families
  rw [List.map_append, List.nodup_append] at names
  obtain ⟨draft, gathered, same⟩ : ∃ draft : Draft,
      (closedLines (totalFamilies.map (totalFamily totals))).foldlM Draft.take ⟨[], none⟩ =
        some draft ∧ draft.families = [] ++ totalFamilies.map (totalFamily totals) := by
    refine Draft.take_families (fun family member => ?_) names.1
    obtain ⟨original, -, rfl⟩ := List.mem_map.mp member
    exact sound_totalFamily _ _
  rw [List.nil_append] at same
  have unknown : ¬∃ other ∈ draft.families,
      other.name = (providerFamily before firstShown).name := by
    rintro ⟨other, member, clash⟩
    have second : (providerFamily before firstShown).name ∈
        (shown.map (providerFamily before)).map (·.name) :=
      List.mem_map_of_mem (List.mem_map_of_mem firstShown_mem)
    exact names.2.2 _ (List.mem_map_of_mem (same ▸ member)) _ second clash
  rw [frontLines, List.foldlM_append, gathered, frontDraft, ← same]
  exact Draft.take_lines (sound_providerFamily distinct firstShown) unknown

theorem takeWhile_line (letters rest : List Char) :
    (letters ++ '\n' :: rest).takeWhile (· ≠ '\n') = letters.takeWhile (· ≠ '\n') := by
  induction letters with
  | nil => simp
  | cons letter letters ih =>
      rw [List.cons_append, List.takeWhile_cons, List.takeWhile_cons, ih]

/-- The first line of a provider's sample. -/
theorem takeWhile_sampleText {bad : ProviderSummary} {number : ℕ}
    (written : firstShown.1.value bad = toString number) :
    (sampleText firstShown.1 bad).takeWhile (· ≠ '\n') =
      firstShown.1.name.toList ++ '\x7b' :: ("provider=\"".toList ++
        (bad.provider.toList ++ '"' :: '\x7d' :: ' ' :: Nat.toDigits 10 number).takeWhile
          (· ≠ '\n')) := by
  have named := unbroken_of_isName (families_named.2 firstShown firstShown_mem).1
  have braced : '\n' ∉ '\x7b' :: "provider=\"".toList := by simp
  have front : ∀ letter ∈ firstShown.1.name.toList ++ '\x7b' :: "provider=\"".toList,
      decide (letter ≠ '\n') = true := by
    intro letter member
    refine decide_eq_true ?_
    rintro rfl
    exact (List.mem_append.mp member).elim named braced
  rw [sampleText_eq written, ← List.cons_append, ← List.append_assoc,
    List.takeWhile_append_of_pos front, List.append_assoc, List.cons_append]

section Place

variable {before after : List ProviderSummary} {bad : ProviderSummary}

/-- The sample of a provider follows the lines up to it. -/
theorem exists_toList_write (split : metrics.summaries = before ++ bad :: after) :
    ∃ tail, (write metrics).toList = ended (frontTexts metrics.totals before) ++
      (sampleText firstShown.1 bad ++ '\n' :: tail) := by
  have given : metrics.summaries.isEmpty = false := by simp [split]
  rw [toList_write, if_neg (by simp [given]), shown_eq]
  simp [frontTexts, providerTexts, ended, split]

theorem sampleAt_taken {totals : Totals} {sample : Sample} {next : Draft}
    (taken : (frontDraft totals before).take (.sample firstShown.1.name sample) = some next) :
    next.sampleAt totalFamilies.length before.length = some sample := by
  simp only [frontDraft, Draft.take, Option.bind_eq_bind, Option.bind_some] at taken
  split at taken
  · obtain rfl := Option.some.inj taken
    simp [Draft.sampleAt, Draft.families, providerFamily]
  · cases taken

theorem sampleAt_families (split : metrics.summaries = before ++ bad :: after) :
    (families metrics)[totalFamilies.length]?.bind (·.samples[before.length]?) =
      some (providerSample firstShown.2 bad) := by
  have given : metrics.summaries.isEmpty = false := by simp [split]
  rw [families, shown_eq, given]
  simp [providerFamily, split]

/-- What is read at the place of a provider is its sample in the end. -/
theorem sample_of_families (split : metrics.summaries = before ++ bad :: after) {sample : Sample}
    {next last : Draft} {others : List Line}
    (taken : (frontDraft metrics.totals before).take (.sample firstShown.1.name sample) = some next)
    (folded : others.foldlM Draft.take next = some last)
    (same : last.families = families metrics) :
    sample = providerSample firstShown.2 bad := by
  have kept := Draft.sampleAt_foldlM (sampleAt_taken taken) folded
  rw [Draft.sampleAt, same, sampleAt_families split] at kept
  exact (Option.some.inj kept).symm

/-- What a line shows as the name of a provider is that name only if nothing in it has to be
escaped. -/
theorem plain_of_read (whole : ∀ summary ∈ metrics.summaries, Whole summary)
    (split : metrics.summaries = before ++ bad :: after)
    (plain : ∀ summary ∈ before, Plain summary.provider.toList)
    (result : read (write metrics) = some (families metrics)) :
    Plain bad.provider.toList := by
  have named := (families_named.2 firstShown firstShown_mem).1
  have within : ∀ summary ∈ before, Whole summary := fun summary member =>
    whole summary (split ▸ List.mem_append_left _ member)
  have distinct : (before.map (·.provider)).Nodup := by
    have all := distinct_summaries metrics
    rw [split, List.map_append] at all
    exact all.of_append_left
  obtain ⟨number, written, -⟩ := whole bad (by simp [split]) firstShown firstShown_mem
  obtain ⟨tail, layout⟩ := exists_toList_write split
  -- everything before the provider is read as it was meant, so that its line is next
  obtain ⟨line, next, others, last, first, taken, folded, same⟩ :=
    exists_of_read (reads_front metrics.totals within plain) (take_front metrics.totals distinct)
      layout (by simp) result
  rw [takeWhile_line, takeWhile_sampleText written, readLine_of_name named] at first
  obtain ⟨value, rest, labels, figure, quotes, rfl⟩ := exists_of_readSample named first
  -- no later line changes what was read there, which therefore has the provider's name
  have sample := sample_of_families split taken folded same
  obtain ⟨label, -⟩ := List.cons.inj (congrArg Sample.labels sample)
  obtain rfl : value = bad.provider.toList := by
    rw [← (Prod.mk.inj label).2, String.toList_ofList]
  have unquoted : '"' ∉ '\x7d' :: ' ' :: Nat.toDigits 10 number := by
    simp only [List.mem_cons, not_or]
    exact ⟨by decide, by decide, fun member => absurd (isDigit_of_mem member) (by decide)⟩
  exact plain_of_readQuoted unquoted quotes

end Place

/-- What holds of an item if it holds of all before it, holds of all. -/
theorem forall_of_front {α : Type} {holds : α → Prop} {items : List α}
    (step : ∀ before item after, items = before ++ item :: after →
      (∀ other ∈ before, holds other) → holds item) : ∀ item ∈ items, holds item := by
  induction items using List.reverseRecOn with
  | nil => exact fun _ member => absurd member List.not_mem_nil
  | append_singleton items last ih =>
      have front : ∀ item ∈ items, holds item := ih fun before item after split =>
        step before item (after ++ [last]) (by simp [split])
      intro item member
      rcases List.mem_append.mp member with earlier | final
      · exact front item earlier
      · obtain rfl := List.mem_singleton.mp final
        exact step items item [] rfl front

theorem read_write_iff (calibrated : metrics.Calibrated) :
    read (write metrics) = some (families metrics) ↔
      ∀ name ∈ metrics.providers.names, Plain name.toList := by
  have whole := whole_summary calibrated
  have named : (∀ name ∈ metrics.providers.names, Plain name.toList) ↔
      ∀ summary ∈ metrics.summaries, Plain summary.provider.toList := by
    rw [← map_provider_summaries]
    exact List.forall_mem_map
  rw [named]
  -- the first name that needs escapes is the one that is misread
  refine ⟨fun result => forall_of_front fun before bad after split plain => ?_, read_write whole⟩
  exact plain_of_read whole split plain result

/-- Whatever was counted, the export is a text of metrics that gives back the counts of the engine
as a whole and, for every provider, its name with its nine values, if no name has a backslash, a
quote or a line break in it.  If one has, it does not. -/
theorem legibility_law (steps : List MetricsStep) :
    let metrics := Metrics.run steps
    read (write metrics) = some (families metrics) ↔
      ∀ name ∈ metrics.providers.names, Plain name.toList :=
  read_write_iff (Metrics.calibrated_run steps)

/-- One quote in a name spoils the export. -/
theorem quote_unread :
    let metrics := Metrics.run [.call "a\"b" true (Duration.ofSeconds 1)]
    read (write metrics) ≠ some (families metrics) := by
  intro metrics result
  have listed : "a\"b" ∈ metrics.providers.names := by
    rw [Table.mem_names_iff]
    simp [metrics, Metrics.run, Metrics.next, MetricsStep.call, Metrics.update]
  have plain := (read_write_iff (Metrics.calibrated_run _)).mp result _ listed
  exact plain.2.1 (by decide)

end Export

end ProviderRouting.Exposition
