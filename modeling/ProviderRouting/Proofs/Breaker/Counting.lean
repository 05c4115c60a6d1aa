import ProviderRouting.Proofs.Breaker.Banks

/-!
# What operations count

Breakers count successes, failures and rejections for good, whatever becomes of their phase.  An
operation counts at most one of them, for its own provider, and each rejection is reported.
-/

namespace ProviderRouting

/-! ## Breakers -/

namespace Breaker

/-- An operation counts so many successes, failures and rejections in the totals of a breaker, and
tells the observers of each rejection. -/
structure Counts (breaker : Breaker) (succeeded failed rejected : Nat) (outcome : Outcome) :
    Prop where
  successes : outcome.breaker.totalSuccesses = breaker.totalSuccesses + succeeded
  failures : outcome.breaker.totalFailures = breaker.totalFailures + failed
  rejections : outcome.breaker.rejections = breaker.rejections + rejected
  notices : outcome.notices.count .rejected = rejected

variable (breaker : Breaker) (moment : Moment)

theorem counts_switch (target : Phase) : breaker.Counts 0 0 0 (breaker.switch target moment) := by
  cases target <;> exact ⟨rfl, rfl, rfl, rfl⟩

theorem counts_allow :
    breaker.Counts 0 0 (!(breaker.allow moment).granted).toNat (breaker.allow moment) := by
  unfold allow
  split
  · exact ⟨rfl, rfl, rfl, rfl⟩
  · split <;> exact ⟨rfl, rfl, rfl, rfl⟩
  · split <;> exact ⟨rfl, rfl, rfl, rfl⟩

theorem counts_recordSuccess : breaker.Counts 1 0 0 (breaker.recordSuccess moment) := by
  unfold recordSuccess
  split
  · exact ⟨rfl, rfl, rfl, rfl⟩
  · dsimp only
    split <;> exact ⟨rfl, rfl, rfl, rfl⟩
  · exact ⟨rfl, rfl, rfl, rfl⟩

theorem counts_recordFailure : breaker.Counts 0 1 0 (breaker.recordFailure moment) := by
  unfold recordFailure
  split
  · dsimp only
    split <;> exact ⟨rfl, rfl, rfl, rfl⟩
  · exact ⟨rfl, rfl, rfl, rfl⟩
  · exact ⟨rfl, rfl, rfl, rfl⟩

theorem counts_record (succeeded : Bool) :
    breaker.Counts succeeded.toNat (!succeeded).toNat 0
      (if succeeded then breaker.recordSuccess moment else breaker.recordFailure moment) := by
  cases succeeded with
  | true => exact breaker.counts_recordSuccess moment
  | false => exact breaker.counts_recordFailure moment

theorem counts_recordBypass (succeeded : Bool) :
    breaker.Counts succeeded.toNat (!succeeded).toNat 0
      (breaker.recordBypass succeeded moment) := ⟨rfl, rfl, rfl, rfl⟩

theorem counts_adopt (openedWall : Timestamp) :
    breaker.Counts 0 0 0 (breaker.adopt openedWall moment) := by
  unfold adopt
  dsimp only
  split
  · exact ⟨rfl, rfl, rfl, rfl⟩
  · split
    · exact ⟨rfl, rfl, rfl, rfl⟩
    · split
      · exact ⟨rfl, rfl, rfl, rfl⟩
      · exact breaker.counts_switch _ .opened

end Breaker

/-! ## Banks -/

namespace Bank

/-- An operation on a bank counts so many successes, failures and rejections for a provider. -/
structure Counts (bank : Bank) (provider : String) (succeeded failed rejected : Nat)
    (outcome : Outcome) : Prop where
  successes : (outcome.bank.getOrFresh provider).totalSuccesses =
    (bank.getOrFresh provider).totalSuccesses + succeeded
  failures : (outcome.bank.getOrFresh provider).totalFailures =
    (bank.getOrFresh provider).totalFailures + failed
  rejections : (outcome.bank.getOrFresh provider).rejections =
    (bank.getOrFresh provider).rejections + rejected
  events : outcome.events.count ⟨provider, .rejected⟩ = rejected

variable {bank : Bank} {name provider : String} {succeeded failed rejected : Nat}
  {moment : Moment}

theorem count_events (name provider : String) (notices : List Notice) :
    (notices.map (Event.mk name)).count ⟨provider, .rejected⟩ =
      if name = provider then notices.count .rejected else 0 := by
  induction notices with
  | nil => simp
  | cons notice notices ih =>
      rw [List.map_cons, List.count_cons, ih, List.count_cons]
      by_cases same : name = provider <;> simp [same]

theorem counts_settle {outcome : Breaker.Outcome}
    (counts : (bank.getOrFresh provider).Counts succeeded failed rejected outcome) :
    bank.Counts provider succeeded failed rejected (bank.settle provider outcome) := by
  have same := bank.getOrFresh_put provider provider outcome.breaker
  rw [if_pos rfl] at same
  refine ⟨?_, ?_, ?_, ?_⟩
  · rw [settle, same, counts.successes]
  · rw [settle, same, counts.failures]
  · rw [settle, same, counts.rejections]
  · rw [settle, count_events, if_pos rfl, counts.notices]

theorem counts_settle_other {outcome : Breaker.Outcome} (other : name ≠ provider) :
    bank.Counts provider 0 0 0 (bank.settle name outcome) := by
  have same := bank.getOrFresh_put name provider outcome.breaker
  rw [if_neg other] at same
  refine ⟨?_, ?_, ?_, ?_⟩
  · rw [settle, same, Nat.add_zero]
  · rw [settle, same, Nat.add_zero]
  · rw [settle, same, Nat.add_zero]
  · rw [settle, count_events, if_neg other]

theorem counts_allow (bank : Bank) (provider : String) (moment : Moment) :
    bank.Counts provider 0 0 (!(bank.allow provider moment).granted).toNat
      (bank.allow provider moment) := by
  unfold allow
  split
  · rename_i breaker held
    refine counts_settle ?_
    rw [getOrFresh_of_some held]
    exact breaker.counts_allow moment
  · exact ⟨rfl, rfl, rfl, rfl⟩

theorem counts_allow_other (other : name ≠ provider) :
    bank.Counts provider 0 0 0 (bank.allow name moment) := by
  unfold allow
  split
  · exact counts_settle_other other
  · exact ⟨rfl, rfl, rfl, rfl⟩

/-- What only adjusts breakers counts nothing. -/
theorem counts_of_isQuiet {operation : BankOperation} (quiet : operation.IsQuiet) (bank : Bank)
    (moment : Moment) (provider : String) :
    bank.Counts provider 0 0 0 (bank.apply operation moment) := by
  obtain ⟨silent, adjusted⟩ := adjusted_of_isQuiet quiet bank moment
  obtain ⟨thresholds, window, same⟩ := adjusted provider
  refine ⟨?_, ?_, ?_, ?_⟩
  · rw [same, Nat.add_zero]
  · rw [same, Nat.add_zero]
  · rw [same, Nat.add_zero]
  · rw [silent, List.count_nil]

end Bank

/-- An operation on a bank that neither asks a breaker, nor records a call, nor resets. -/
def BankOperation.CountsNothing : BankOperation → Prop
  | .adopt _ _ | .setDefault _ | .setProvider _ _ | .snapshot _ | .snapshots => True
  | .allow _ | .record _ _ | .bypass _ _ | .reset _ | .resetAll => False

theorem Bank.counts_of_countsNothing {operation : BankOperation}
    (nothing : operation.CountsNothing) (bank : Bank) (moment : Moment) (provider : String) :
    bank.Counts provider 0 0 0 (bank.apply operation moment) := by
  cases operation with
  | adopt name openedWall =>
      by_cases same : name = provider
      · subst same
        exact counts_settle (Breaker.counts_adopt _ _ _)
      · exact counts_settle_other same
  | setDefault _ | setProvider _ _ | snapshot _ | snapshots =>
      refine counts_of_isQuiet ?_ bank moment provider
      trivial
  | allow _ | record _ _ | bypass _ _ | reset _ | resetAll => exact absurd nothing id

end ProviderRouting
