import Mathlib.Tactic.Common
import ProviderRouting.Proofs.Breaker.Dispatch
import ProviderRouting.Proofs.Breaker.Turning

/-!
# What breakers report

An operation reports nothing, the rejection of a call, or the one change of phase that it makes.
The changes of phase that are reported about a provider therefore form a path through the phases
that ends where its breaker is, and only a reset leads from open to closed at once.
-/

namespace ProviderRouting

/-! ## Paths through the phases -/

/-- The changes of phase that are made, by a reset or not. -/
inductive Phase.Edge (reset : Prop) : Phase → Phase → Prop where
  | opens : Edge reset .closed .opened
  | probes : Edge reset .opened .halfOpen
  | reopens : Edge reset .halfOpen .opened
  | recovers : Edge reset .halfOpen .closed
  | returns (byReset : reset) : Edge reset .opened .closed

theorem Phase.Edge.imp {reset also : Prop} {origin target : Phase} (edge : Edge reset origin target)
    (implies : reset → also) : Edge also origin target := by
  cases edge with
  | opens => exact .opens
  | probes => exact .probes
  | reopens => exact .reopens
  | recovers => exact .recovers
  | returns byReset => exact .returns (implies byReset)

/-- Changes of phase, each with what made it, that lead from one phase to another.  `resets` says
what is a reset. -/
def Path {ι : Type} (resets : ι → Prop) : Phase → List (ι × Transition) → Phase → Prop
  | first, [], last => first = last
  | first, (source, change) :: rest, last =>
    change.origin = first ∧ Phase.Edge (resets source) change.origin change.target ∧
      Path resets change.target rest last

theorem Path.append {ι : Type} {resets : ι → Prop} {left right : List (ι × Transition)}
    {first middle last : Phase} (before : Path resets first left middle)
    (after : Path resets middle right last) : Path resets first (left ++ right) last := by
  induction left generalizing first with
  | nil =>
      obtain rfl : first = middle := before
      exact after
  | cons change left ih =>
      obtain ⟨origin, edge, rest⟩ := before
      exact ⟨origin, edge, ih rest⟩

/-! ## Breakers -/

namespace Breaker

/-- An operation reports the change of phase it makes, or the rejection it amounts to. -/
inductive Tells (operation : Operation) (breaker : Breaker) (outcome : Outcome) : Prop where
  /-- The phase stays, and no call is rejected. -/
  | nothing (phase : outcome.breaker.phase = breaker.phase) (told : outcome.notices = [])
      (granted : operation = .allow → outcome.granted = true)
  /-- A call is rejected. -/
  | rejection (phase : outcome.breaker.phase = breaker.phase) (told : outcome.notices = [.rejected])
      (denied : operation = .allow ∧ outcome.granted = false)
  /-- The phase changes. -/
  | change (target : Phase) (wall : Timestamp) (phase : outcome.breaker.phase = target)
      (told : outcome.notices = [.changed ⟨breaker.phase, target, wall⟩])
      (edge : Phase.Edge (operation = .reset) breaker.phase target)
      (granted : operation = .allow → outcome.granted = true)

theorem tells_allow (moment : Moment) (breaker : Breaker) :
    breaker.Tells .allow (breaker.allow moment) := by
  cases phase : breaker.phase with
  | closed =>
      simp only [allow, phase]
      exact .nothing rfl rfl fun _ => rfl
  | opened =>
      simp only [allow, phase]
      split
      · exact .change .halfOpen moment.wall rfl rfl (phase ▸ .probes) fun _ => rfl
      · exact .rejection rfl rfl ⟨rfl, rfl⟩
  | halfOpen =>
      simp only [allow, phase]
      split
      · exact .rejection rfl rfl ⟨rfl, rfl⟩
      · exact .nothing rfl rfl fun _ => rfl

theorem tells_recordSuccess (moment : Moment) (breaker : Breaker) :
    breaker.Tells .success (breaker.recordSuccess moment) := by
  cases phase : breaker.phase with
  | closed =>
      simp only [recordSuccess, phase]
      exact .nothing rfl rfl (by rintro ⟨⟩)
  | opened =>
      simp only [recordSuccess, phase]
      exact .nothing rfl rfl (by rintro ⟨⟩)
  | halfOpen =>
      simp only [recordSuccess, phase]
      split
      · exact .change .closed moment.wall rfl rfl (phase ▸ .recovers) (by rintro ⟨⟩)
      · exact .nothing rfl rfl (by rintro ⟨⟩)

theorem tells_recordFailure (moment : Moment) (breaker : Breaker) :
    breaker.Tells .failure (breaker.recordFailure moment) := by
  cases phase : breaker.phase with
  | closed =>
      simp only [recordFailure, phase]
      split
      · exact .change .opened moment.wall rfl rfl (phase ▸ .opens) (by rintro ⟨⟩)
      · exact .nothing rfl rfl (by rintro ⟨⟩)
  | opened =>
      simp only [recordFailure, phase]
      exact .nothing rfl rfl (by rintro ⟨⟩)
  | halfOpen =>
      simp only [recordFailure, phase]
      exact .change .opened moment.wall rfl rfl (phase ▸ .reopens) (by rintro ⟨⟩)

theorem tells_adopt (openedWall : Timestamp) (moment : Moment) (breaker : Breaker) :
    breaker.Tells (.adopt openedWall) (breaker.adopt openedWall moment) := by
  rcases adopt_cases openedWall moment breaker with refused | ⟨outside, adopted⟩
  · rw [refused]
    exact .nothing rfl rfl (by rintro ⟨⟩)
  · have edge : Phase.Edge (Operation.adopt openedWall = .reset) breaker.phase .opened := by
      cases phase : breaker.phase with
      | closed => exact .opens
      | opened => exact absurd phase outside
      | halfOpen => exact .reopens
    rw [adopted]
    exact .change .opened openedWall rfl rfl edge (by rintro ⟨⟩)

theorem tells_reset (moment : Moment) (breaker : Breaker) :
    breaker.Tells .reset (breaker.reset moment) := by
  cases phase : breaker.phase with
  | closed =>
      simp only [reset, phase]
      exact .nothing phase.symm rfl (by rintro ⟨⟩)
  | opened =>
      simp only [reset, phase]
      exact .change .closed moment.wall rfl rfl (phase ▸ .returns rfl) (by rintro ⟨⟩)
  | halfOpen =>
      simp only [reset, phase]
      exact .change .closed moment.wall rfl rfl (phase ▸ .recovers) (by rintro ⟨⟩)

/-- Every operation reports what it does. -/
theorem tells_apply (operation : Operation) (moment : Moment) (breaker : Breaker) :
    breaker.Tells operation (breaker.apply operation moment) := by
  cases operation with
  | allow => exact breaker.tells_allow moment
  | success => exact breaker.tells_recordSuccess moment
  | failure => exact breaker.tells_recordFailure moment
  | bypass succeeded => exact .nothing rfl rfl (by rintro ⟨⟩)
  | snapshot => exact .nothing rfl rfl (by rintro ⟨⟩)
  | adopt openedWall => exact breaker.tells_adopt openedWall moment
  | reset => exact breaker.tells_reset moment

/-- Whether an operation is a call that was rejected, as a number. -/
def denials (operation : Option Operation) (outcome : Outcome) : Nat :=
  if operation = some .allow then (!outcome.granted).toNat else 0

theorem denials_of_granted {operation : Operation} {outcome : Outcome}
    (granted : operation = .allow → outcome.granted = true) :
    denials (some operation) outcome = 0 := by
  rw [denials]
  split
  · rename_i asks
    rw [granted (Option.some.inj asks)]
    rfl
  · rfl

variable {operation : Option Operation} {moment : Moment} {breaker : Breaker}

theorem count_undergo (operation : Option Operation) (moment : Moment) (breaker : Breaker) :
    (breaker.undergo operation moment).notices.count .rejected =
      denials operation (breaker.undergo operation moment) := by
  cases operation with
  | none => rfl
  | some operation =>
      rw [undergo_some]
      cases breaker.tells_apply operation moment with
      | nothing phase told granted =>
          rw [told, denials_of_granted granted]
          rfl
      | rejection phase told denied =>
          rw [told, denials, denied.1, if_pos rfl, ← denied.1, denied.2]
          rfl
      | change target wall phase told edge granted =>
          rw [told, denials_of_granted granted]
          rfl

/-- What is reported leads from the phase before to the phase after. -/
theorem path_undergo {ι : Type} {resets : ι → Prop} (source : ι)
    (reset : operation = some .reset → resets source) :
    Path resets breaker.phase
      ((breaker.undergo operation moment).told.map (source, ·))
      (breaker.undergo operation moment).breaker.phase := by
  cases operation with
  | none => rfl
  | some operation =>
      rw [undergo_some]
      cases breaker.tells_apply operation moment with
      | nothing phase told granted =>
          rw [Outcome.told, told, phase]
          rfl
      | rejection phase told denied =>
          rw [Outcome.told, told, phase]
          rfl
      | change target wall phase told edge granted =>
          rw [Outcome.told, told, phase]
          exact ⟨rfl, edge.imp fun byReset => reset (congrArg some byReset), rfl⟩

end Breaker

end ProviderRouting
