import Mathlib.Tactic.Common
import ProviderRouting.Proofs.Breaker.Admission

/-!
# Calls and the outcomes they report

A breaker does not know which call an outcome belongs to.  Here every outcome is tied to the call
that was admitted earlier and now reports it, however the calls overlap.  An outcome that comes
while the breaker is half-open decides about it whichever call it reports.  The breaker therefore
closes after enough calls have succeeded during the stay in half-open, probes or not, and the
success of any call makes room for the next probe.  If every outcome of the stay is that of the call
admitted last, only probes decide, and there is one of them at a time.
-/

namespace ProviderRouting

open Breaker (Operation)

/-- What a call reported. -/
structure Answer where
  succeeded : Bool
  /-- The stay of the breaker in which it was reported. -/
  stay : Nat
  /-- How many calls had been admitted by then. -/
  admitted : Nat
deriving DecidableEq

/-- A call that was admitted. -/
structure Call where
  /-- When it was admitted, on the monotonic reading. -/
  instant : Int
  /-- The stay of the breaker to which its admission belongs. -/
  stay : Nat
  /-- What it reported, unless it is in flight. -/
  answer : Option Answer
deriving DecidableEq

/-- Whether a call reported a success in a stay. -/
def Call.succeededIn (stay : Nat) (call : Call) : Bool :=
  call.answer.any fun answer => answer.succeeded && answer.stay == stay

/-- A breaker with the calls that it admitted. -/
structure Traffic where
  moment : Moment
  breaker : Breaker
  /-- The number of the present stay in a phase; every change of phase begins another one. -/
  stay : Nat
  /-- The calls in the order of their admission. -/
  calls : List Call

/-- One step of the traffic. -/
inductive TrafficStep where
  /-- The monotonic reading moves forward; the wall may show anything. -/
  | pass (duration : Duration) (wall : Timestamp)
  /-- A caller asks whether a call may proceed. -/
  | ask
  /-- A call in flight reports its outcome. -/
  | answer (index : Nat) (succeeded : Bool)
  /-- A call made without asking reports its outcome. -/
  | bypass (succeeded : Bool)
  /-- Somebody looks at the breaker. -/
  | snapshot
  /-- An opening seen elsewhere is to be adopted. -/
  | adopt (openedWall : Timestamp)
  /-- The breaker is reset. -/
  | reset

namespace Breaker

variable {operation : Operation} {moment : Moment} {breaker : Breaker}

/-! ## What decides about a half-open breaker -/

/-- What is decided while a breaker is half-open: its phase, its count of successes, its slot. -/
def standing (breaker : Breaker) : Phase × Nat × Option Int :=
  (breaker.phase, breaker.successes, breaker.probe)

/-- The operation that records an outcome. -/
def Operation.ofAnswer (succeeded : Bool) : Operation := if succeeded then .success else .failure

/-- An outcome that comes too late for an open breaker decides nothing. -/
theorem standing_of_opened (opened : breaker.phase = .opened) (succeeded : Bool)
    (moment : Moment) :
    (breaker.apply (.ofAnswer succeeded) moment).breaker.standing = breaker.standing := by
  cases succeeded with
  | true => simp [Operation.ofAnswer, apply, recordSuccess, opened, keep, tally, standing]
  | false => simp [Operation.ofAnswer, apply, recordFailure, opened, keep, tally, standing]

/-- An outcome that comes to a half-open breaker decides about it. -/
theorem standing_of_halfOpen (halfOpen : breaker.phase = .halfOpen) (succeeded : Bool)
    (moment : Moment) :
    (breaker.apply (.ofAnswer succeeded) moment).breaker.standing =
      if succeeded then
        if breaker.thresholds.successes.toNat ≤ breaker.successes + 1 then (.closed, 0, none)
        else (.halfOpen, breaker.successes + 1, none)
      else (.opened, 0, none) := by
  cases succeeded with
  | true =>
      simp only [Operation.ofAnswer, apply, recordSuccess, halfOpen, if_true, tally_thresholds]
      split
      · rfl
      · simp [keep, tally, standing, halfOpen]
  | false =>
      simp only [Operation.ofAnswer, apply, recordFailure, halfOpen]
      rfl

/-- Apart from a reset only a success closes a half-open breaker, and it is the last one needed. -/
theorem closes_of_halfOpen (inside : breaker.phase = .halfOpen)
    (closes : (breaker.apply operation moment).breaker.phase = .closed) :
    operation = .reset ∨ operation = .success ∧
      breaker.thresholds.successes.toNat ≤ breaker.successes + 1 := by
  cases operation with
  | allow =>
      revert closes
      simp only [apply, allow, inside]
      split <;> simp [reject, keep, admitProbe, inside]
  | success =>
      have decided := congrArg Prod.fst (standing_of_halfOpen inside true moment)
      refine .inr ⟨rfl, Nat.le_of_not_lt fun early => ?_⟩
      rw [if_pos rfl, if_neg (Nat.not_le.mpr early)] at decided
      have same : Phase.halfOpen = .closed := decided.symm.trans closes
      exact absurd same (by decide)
  | failure => simp [apply, recordFailure, inside, switch] at closes
  | bypass succeeded => exact absurd (inside.symm.trans closes) (by decide)
  | snapshot => exact absurd (inside.symm.trans closes) (by decide)
  | adopt openedWall =>
      rcases adopt_cases openedWall moment breaker with refused | ⟨_, adopted⟩
      · simp [apply, refused, inside] at closes
      · simp [apply, adopted, switch] at closes
  | reset => exact .inl rfl

/-- A stay in half-open begins without successes. -/
theorem successes_of_enters_halfOpen (outside : breaker.phase ≠ .halfOpen)
    (enters : (breaker.apply operation moment).breaker.phase = .halfOpen) :
    (breaker.apply operation moment).breaker.successes = 0 := by
  obtain ⟨rfl, opened, granted, -⟩ := apply_of_enters_halfOpen outside enters
  revert granted
  simp only [apply, allow, opened]
  split <;> simp [switch, enter, admitProbe, reject]

/-- Within half-open a breaker counts the successes. -/
theorem successes_of_stays_halfOpen (inside : breaker.phase = .halfOpen)
    (stays : (breaker.apply operation moment).breaker.phase = .halfOpen) :
    (breaker.apply operation moment).breaker.successes =
      breaker.successes + if operation = .success then 1 else 0 := by
  cases operation with
  | allow =>
      simp only [apply, allow, inside]
      split <;> simp [reject, keep, admitProbe]
  | success =>
      revert stays
      simp only [apply, recordSuccess, inside]
      split <;> simp [switch, keep]
  | failure => simp [apply, recordFailure, inside, switch] at stays
  | bypass succeeded => rfl
  | snapshot => rfl
  | adopt openedWall =>
      rcases adopt_cases openedWall moment breaker with refused | ⟨_, adopted⟩
      · simp [apply, refused]
      · simp [apply, adopted, switch] at stays
  | reset => simp [apply, reset, inside, fresh] at stays

end Breaker

namespace Traffic

/-- A fresh breaker without calls. -/
def start (thresholds : Thresholds) (moment : Moment) : Traffic :=
  ⟨moment, .fresh thresholds, 0, []⟩

/-- What an operation would leave if it were carried out now. -/
def outcome (operation : Operation) (traffic : Traffic) : Breaker.Outcome :=
  traffic.breaker.apply operation traffic.moment

/-- Carry out an operation on the breaker. -/
def perform (operation : Operation) (traffic : Traffic) : Traffic :=
  let after := (traffic.outcome operation).breaker
  { traffic with
    breaker := after
    stay := if after.phase = traffic.breaker.phase then traffic.stay else traffic.stay + 1 }

/-- Take one step.  Only a call in flight reports an outcome. -/
def next (traffic : Traffic) : TrafficStep → Traffic
  | .pass duration wall =>
    { traffic with moment := ⟨traffic.moment.instant + duration, wall⟩ }
  | .ask =>
    let after := traffic.perform .allow
    if (traffic.outcome .allow).granted then
      { after with calls := traffic.calls ++ [⟨traffic.moment.instant, after.stay, none⟩] }
    else after
  | .answer index succeeded =>
    match traffic.calls[index]? with
    | some ⟨instant, stay, none⟩ =>
      let answer := ⟨succeeded, traffic.stay, traffic.calls.length⟩
      { traffic.perform (.ofAnswer succeeded) with
        calls := traffic.calls.set index ⟨instant, stay, some answer⟩ }
    | _ => traffic
  | .bypass succeeded => traffic.perform (.bypass succeeded)
  | .snapshot => traffic.perform .snapshot
  | .adopt openedWall => traffic.perform (.adopt openedWall)
  | .reset => traffic.perform .reset

/-- The traffic through a fresh breaker after some steps. -/
def run (thresholds : Thresholds) (moment : Moment) (steps : List TrafficStep) : Traffic :=
  steps.foldl next (start thresholds moment)

/-- In a stay every outcome was that of the call admitted last. -/
def Orderly (stay : Nat) (calls : List Call) : Prop :=
  ∀ index call answer, calls[index]? = some call → call.answer = some answer →
    answer.stay = stay → answer.admitted = index + 1

/-- Some call reported a success in the present stay after the call with this index was admitted. -/
def Overtaken (index : Nat) (traffic : Traffic) : Prop :=
  ∃ other ∈ traffic.calls, ∃ answer, other.answer = some answer ∧ answer.succeeded = true ∧
    answer.stay = traffic.stay ∧ index < answer.admitted

/-- The slot is taken by a call that was admitted no earlier than another one. -/
def Held (call : Call) (traffic : Traffic) : Prop :=
  ∃ admitted, traffic.breaker.probe = some admitted ∧ call.instant ≤ admitted ∧
    admitted ≤ traffic.moment.instant

variable {traffic after : Traffic} {operation : Operation} {index : Nat}

/-! ## Steps -/

theorem stay_perform_of_same
    (same : (traffic.perform operation).breaker.phase = traffic.breaker.phase) :
    (traffic.perform operation).stay = traffic.stay :=
  if_pos same

theorem stay_perform_of_changed
    (changed : (traffic.perform operation).breaker.phase ≠ traffic.breaker.phase) :
    (traffic.perform operation).stay = traffic.stay + 1 :=
  if_neg changed

theorem le_stay_perform (operation : Operation) (traffic : Traffic) :
    traffic.stay ≤ (traffic.perform operation).stay := by
  by_cases same : (traffic.perform operation).breaker.phase = traffic.breaker.phase
  · exact Nat.le_of_eq (stay_perform_of_same same).symm
  · rw [stay_perform_of_changed same]
    exact Nat.le_succ traffic.stay

theorem next_ask_of_denied (denied : (traffic.outcome .allow).granted = false) :
    traffic.next .ask = traffic.perform .allow := by
  simp [next, denied]

/-- The call that is admitted now, if one is. -/
def newest (traffic : Traffic) : Call :=
  ⟨traffic.moment.instant, (traffic.perform .allow).stay, none⟩

/-- The traffic after a call was admitted. -/
def enlist (traffic : Traffic) : Traffic :=
  { traffic.perform .allow with calls := traffic.calls ++ [traffic.newest] }

theorem next_ask_of_granted (granted : (traffic.outcome .allow).granted = true) :
    traffic.next .ask = traffic.enlist := by
  simp [next, granted, enlist, newest]

/-- A call is one of the earlier ones or the newest. -/
theorem getElem?_enlist {call : Call} (found : traffic.enlist.calls[index]? = some call) :
    traffic.calls[index]? = some call ∨ index = traffic.calls.length ∧ call = traffic.newest := by
  rcases Nat.lt_trichotomy index traffic.calls.length with earlier | rfl | beyond
  · exact .inl (List.getElem?_append_left earlier ▸ found)
  · exact .inr ⟨rfl, Option.some.inj (found.symm.trans List.getElem?_concat_length)⟩
  · rw [List.getElem?_eq_none (by simp [enlist]; omega)] at found
    exact absurd found.symm (Option.some_ne_none call)

/-- The traffic after a call in flight has reported its outcome. -/
def report (index : Nat) (call : Call) (succeeded : Bool) (traffic : Traffic) : Traffic :=
  { traffic.perform (.ofAnswer succeeded) with
    calls := traffic.calls.set index
      { call with answer := some ⟨succeeded, traffic.stay, traffic.calls.length⟩ } }

theorem getElem?_report {call reporter : Call} {other : Nat} {succeeded : Bool}
    (found : (traffic.report index reporter succeeded).calls[other]? = some call) :
    other ≠ index ∧ traffic.calls[other]? = some call ∨
      other = index ∧ call =
        { reporter with answer := some ⟨succeeded, traffic.stay, traffic.calls.length⟩ } := by
  unfold report at found
  rw [List.getElem?_set] at found
  split_ifs at found with same bound
  · exact .inr ⟨same.symm, (Option.some.inj found).symm⟩
  · exact .inl ⟨Ne.symm same, found⟩

theorem next_answer_of_flying {call : Call} (found : traffic.calls[index]? = some call)
    (flying : call.answer = none) (succeeded : Bool) :
    traffic.next (.answer index succeeded) = traffic.report index call succeeded := by
  obtain ⟨instant, stay, answer⟩ := call
  obtain rfl : answer = none := flying
  simp [next, found, report]

/-- An outcome is recorded if it is that of a call in flight. -/
theorem next_answer_cases (index : Nat) (succeeded : Bool) (traffic : Traffic) :
    (∃ call, traffic.calls[index]? = some call ∧ call.answer = none ∧
        traffic.next (.answer index succeeded) = traffic.report index call succeeded) ∨
      traffic.next (.answer index succeeded) = traffic := by
  by_cases flying : ∃ call, traffic.calls[index]? = some call ∧ call.answer = none
  · obtain ⟨call, found, flying⟩ := flying
    exact .inl ⟨call, found, flying, next_answer_of_flying found flying succeeded⟩
  · refine .inr ?_
    simp only [next]
    split
    · rename_i instant stay found
      exact absurd ⟨_, found, rfl⟩ flying
    · rfl

/-! ## The invariant -/

/-- What holds of the traffic while the breaker is half-open. -/
structure Probing (traffic : Traffic) : Prop where
  /-- The breaker counts the calls that reported a success in the stay. -/
  counted : traffic.breaker.successes = traffic.calls.countP (·.succeededIn traffic.stay)
  /-- The call admitted last belongs to the stay. -/
  last : ∀ call, traffic.calls.getLast? = some call → call.stay = traffic.stay
  /-- The slot is taken for a probe in flight, unless a success has been reported since. -/
  slot : ∀ index call, traffic.calls[index]? = some call → call.stay = traffic.stay →
    call.answer = none → traffic.Held call ∨ traffic.Overtaken index
  /-- A call that was the last one when it reported its outcome in the stay belongs to the stay. -/
  own : ∀ index call answer, traffic.calls[index]? = some call → call.answer = some answer →
    answer.stay = traffic.stay → answer.admitted = index + 1 → call.stay = traffic.stay
  /-- If only the last call ever reports, every other probe in flight has outlived its lease. -/
  single : Orderly traffic.stay traffic.calls → ∀ index call, traffic.calls[index]? = some call →
    call.stay = traffic.stay → call.answer = none →
      (index + 1 = traffic.calls.length ∧ traffic.breaker.probe = some call.instant) ∨
        traffic.breaker.thresholds.timeout ≤ traffic.moment.instant - call.instant

/-- What holds of the traffic after any steps. -/
structure Sound (thresholds : Thresholds) (traffic : Traffic) : Prop where
  fixed : traffic.breaker.thresholds = thresholds
  /-- No call was admitted later than now. -/
  past : ∀ call ∈ traffic.calls, call.instant ≤ traffic.moment.instant
  /-- No call was admitted in a later stay. -/
  admitted : ∀ call ∈ traffic.calls, call.stay ≤ traffic.stay
  /-- No call reported in a later stay. -/
  answered : ∀ call ∈ traffic.calls, ∀ answer, call.answer = some answer →
    answer.stay ≤ traffic.stay
  probing : traffic.breaker.phase = .halfOpen → traffic.Probing

/-- What touches neither the calls nor what is decided keeps the traffic as it should be. -/
theorem Probing.of_same (probing : traffic.Probing) (calls : after.calls = traffic.calls)
    (stay : after.stay = traffic.stay)
    (successes : after.breaker.successes = traffic.breaker.successes)
    (probe : after.breaker.probe = traffic.breaker.probe)
    (fixed : after.breaker.thresholds = traffic.breaker.thresholds)
    (passed : traffic.moment.instant ≤ after.moment.instant) : after.Probing where
  counted := by rw [successes, calls, stay, probing.counted]
  last := by
    rw [calls, stay]
    exact probing.last
  slot := by
    intro index call found inside flying
    rw [calls] at found
    rw [stay] at inside
    rcases probing.slot index call found inside flying with held | overtaken
    · obtain ⟨admitted, slot, later, earlier⟩ := held
      exact .inl ⟨admitted, probe.trans slot, later, Int.le_trans earlier passed⟩
    · refine .inr ?_
      unfold Overtaken
      rw [calls, stay]
      exact overtaken
  own := by
    rw [calls, stay]
    exact probing.own
  single := by
    rw [calls, stay, probe, fixed]
    intro orderly index call found inside flying
    refine (probing.single orderly index call found inside flying).imp_right fun old => ?_
    omega

theorem Probing.pass (probing : traffic.Probing) (duration : Duration) (wall : Timestamp) :
    (traffic.next (.pass duration wall)).Probing :=
  probing.of_same rfl rfl rfl rfl rfl (Int.le_add_of_nonneg_right (Int.natCast_nonneg duration))

/-- Within half-open an operation that neither admits a call nor records an outcome decides
nothing. -/
theorem Probing.perform (probing : traffic.Probing) (inside : traffic.breaker.phase = .halfOpen)
    (stays : (traffic.perform operation).breaker.phase = .halfOpen)
    (unanswered : operation ≠ .success)
    (unadmitted : ¬(operation = .allow ∧ (traffic.outcome operation).granted = true)) :
    (traffic.perform operation).Probing := by
  have successes := Breaker.successes_of_stays_halfOpen inside stays
  rw [if_neg unanswered] at successes
  rcases Breaker.probe_of_stays_halfOpen inside stays with
    ⟨success, -⟩ | ⟨admitted, -⟩ | ⟨-, -, slot⟩
  · exact absurd success unanswered
  · exact absurd admitted unadmitted
  · exact probing.of_same rfl (stay_perform_of_same (stays.trans inside.symm)) successes slot
      (Breaker.apply_thresholds operation) (Int.le_refl _)

/-- A stay in half-open begins with the admission of a probe. -/
theorem Sound.begin {thresholds : Thresholds} (sound : Sound thresholds traffic)
    (outside : traffic.breaker.phase ≠ .halfOpen)
    (enters : (traffic.perform .allow).breaker.phase = .halfOpen) : traffic.enlist.Probing := by
  obtain ⟨-, -, -, slot⟩ := Breaker.apply_of_enters_halfOpen outside enters
  have stay : (traffic.perform .allow).stay = traffic.stay + 1 :=
    stay_perform_of_changed fun same => outside (same.symm.trans enters)
  have unanswered : ∀ call ∈ traffic.calls, call.succeededIn (traffic.stay + 1) = false := by
    intro call member
    cases answered : call.answer with
    | none => simp [Call.succeededIn, answered]
    | some answer =>
        have := sound.answered call member answer answered
        simp [Call.succeededIn, answered]
        omega
  -- nothing that happened before belongs to the new stay
  have only : ∀ index call, traffic.enlist.calls[index]? = some call →
      call.stay = traffic.enlist.stay → index = traffic.calls.length ∧ call = traffic.newest := by
    intro index call found inside
    rcases getElem?_enlist found with old | new
    · have := sound.admitted call (List.mem_of_getElem? old)
      have : call.stay = traffic.stay + 1 := inside.trans stay
      omega
    · exact new
  constructor
  · have none : traffic.enlist.calls.countP (·.succeededIn (traffic.stay + 1)) = 0 := by
      refine List.countP_eq_zero.mpr fun call member => ?_
      rcases List.mem_append.mp member with old | new
      · simp [unanswered call old]
      · obtain rfl := List.mem_singleton.mp new
        simp [newest, Call.succeededIn]
    have successes : traffic.enlist.breaker.successes = 0 :=
      Breaker.successes_of_enters_halfOpen outside enters
    rw [successes, show traffic.enlist.stay = traffic.stay + 1 from stay, none]
  · intro call last
    obtain rfl : traffic.newest = call := by simpa [enlist] using last
    rfl
  · intro index call found inside flying
    obtain ⟨-, rfl⟩ := only index call found inside
    exact .inl ⟨_, slot, Int.le_refl _, Int.le_refl _⟩
  · intro index call answer found answered inside
    rcases getElem?_enlist found with old | ⟨-, rfl⟩
    · have := sound.answered call (List.mem_of_getElem? old) answer answered
      have : answer.stay = traffic.stay + 1 := inside.trans stay
      omega
    · exact absurd answered nofun
  · intro orderly index call found inside flying
    obtain ⟨rfl, rfl⟩ := only index call found inside
    exact .inl ⟨by simp [enlist], slot⟩

/-- Within half-open an admitted call takes the slot. -/
theorem Probing.enlist (probing : traffic.Probing) (inside : traffic.breaker.phase = .halfOpen)
    (past : ∀ call ∈ traffic.calls, call.instant ≤ traffic.moment.instant)
    (granted : (traffic.outcome .allow).granted = true)
    (stays : (traffic.perform .allow).breaker.phase = .halfOpen) : traffic.enlist.Probing := by
  have stay : (traffic.perform .allow).stay = traffic.stay :=
    stay_perform_of_same (stays.trans inside.symm)
  have slot : traffic.enlist.breaker.probe = some traffic.moment.instant := by
    rcases Breaker.probe_of_stays_halfOpen inside stays with
      ⟨success, -⟩ | ⟨-, slot⟩ | ⟨-, denied, -⟩
    · exact absurd success nofun
    · exact slot
    · exact absurd ⟨rfl, granted⟩ denied
  have lapsed : ∀ admitted, traffic.breaker.probe = some admitted →
      traffic.breaker.thresholds.timeout ≤ elapsedSince traffic.moment.instant admitted :=
    (Breaker.allow_granted_of_halfOpen inside).mp granted
  have fixed : traffic.enlist.breaker.thresholds = traffic.breaker.thresholds :=
    Breaker.apply_thresholds .allow
  constructor
  · have successes : traffic.enlist.breaker.successes = traffic.breaker.successes :=
      Breaker.successes_of_stays_halfOpen inside stays
    have newest : traffic.newest.succeededIn traffic.stay = false := rfl
    rw [successes, show traffic.enlist.stay = traffic.stay from stay, probing.counted,
      Traffic.enlist, List.countP_append, List.countP_singleton, newest]
    rfl
  · intro call last
    obtain rfl : traffic.newest = call := by simpa [Traffic.enlist] using last
    rfl
  · intro index call found inside flying
    refine .inl ⟨_, slot, ?_, Int.le_refl _⟩
    rcases getElem?_enlist found with old | ⟨-, rfl⟩
    · exact past call (List.mem_of_getElem? old)
    · exact Int.le_refl _
  · intro index call answer found answered inside admitted
    rcases getElem?_enlist found with old | ⟨-, rfl⟩
    · have own := probing.own index call answer old answered (inside.trans stay) admitted
      exact own.trans stay.symm
    · exact absurd answered nofun
  · intro orderly index call found inside flying
    rcases getElem?_enlist found with old | ⟨rfl, rfl⟩
    · have before : Orderly traffic.stay traffic.calls := by
        intro index call answer found answered inside
        refine orderly index call answer ?_ answered (inside.trans stay.symm)
        rw [Traffic.enlist, List.getElem?_append_left (List.getElem?_eq_some_iff.mp found).1]
        exact found
      refine .inr ?_
      rw [fixed]
      rcases probing.single before index call old (inside.trans stay) flying with ⟨-, held⟩ | older
      · exact (le_elapsedSince_iff _ (past call (List.mem_of_getElem? old))).mp (lapsed _ held)
      · exact older
    · exact .inl ⟨by simp [Traffic.enlist], slot⟩

/-- The reported success counts as one more of the stay. -/
theorem countP_report {reporter : Call} (reports : traffic.calls[index]? = some reporter)
    (flying : reporter.answer = none) :
    (traffic.report index reporter true).calls.countP (·.succeededIn traffic.stay) =
      traffic.calls.countP (·.succeededIn traffic.stay) + 1 := by
  obtain ⟨bound, there⟩ := List.getElem?_eq_some_iff.mp reports
  have before : traffic.calls[index].succeededIn traffic.stay = false := by
    simp [there, Call.succeededIn, flying]
  rw [report, List.countP_set bound, before]
  simp [Call.succeededIn]

/-- A call that is the last one when it reports its outcome in the stay belongs to the stay. -/
theorem Probing.own_report (probing : traffic.Probing) {reporter call : Call} {succeeded : Bool}
    (reports : traffic.calls[index]? = some reporter) {other : Nat} {answer : Answer}
    (found : (traffic.report index reporter succeeded).calls[other]? = some call)
    (answered : call.answer = some answer) (within : answer.stay = traffic.stay)
    (admitted : answer.admitted = other + 1) : call.stay = traffic.stay := by
  rcases getElem?_report found with ⟨-, old⟩ | ⟨rfl, rfl⟩
  · exact probing.own other call answer old answered within admitted
  · obtain rfl := Option.some.inj answered
    refine probing.last reporter ?_
    rw [List.getLast?_eq_getElem?, ← reports, show traffic.calls.length = other + 1 from admitted]
    rfl

/-- Within half-open a success is counted and frees the slot. -/
theorem Probing.report (probing : traffic.Probing) (inside : traffic.breaker.phase = .halfOpen)
    {reporter : Call} (reports : traffic.calls[index]? = some reporter)
    (flying : reporter.answer = none)
    (stays : (traffic.perform .success).breaker.phase = .halfOpen) :
    (traffic.report index reporter true).Probing := by
  have stay : (traffic.perform .success).stay = traffic.stay :=
    stay_perform_of_same (stays.trans inside.symm)
  let answer : Answer := ⟨true, traffic.stay, traffic.calls.length⟩
  let after := traffic.report index reporter true
  have told : after.calls[index]? = some { reporter with answer := some answer } :=
    List.getElem?_set_self (List.getElem?_eq_some_iff.mp reports).1
  have kept : ∀ other call, traffic.calls[other]? = some call → other ≠ index →
      after.calls[other]? = some call := by
    intro other call found different
    rw [← found]
    exact List.getElem?_set_ne different.symm
  constructor
  · have successes : after.breaker.successes = traffic.breaker.successes + 1 :=
      Breaker.successes_of_stays_halfOpen inside stays
    rw [successes, probing.counted, show after.stay = traffic.stay from stay]
    exact (countP_report reports flying).symm
  · intro call last
    refine Eq.trans ?_ stay.symm
    rw [List.getLast?_eq_getElem?] at last
    have length : after.calls.length = traffic.calls.length := List.length_set
    rcases getElem?_report last with ⟨-, old⟩ | ⟨atEnd, rfl⟩
    · refine probing.last call ?_
      rw [List.getLast?_eq_getElem?, ← length]
      exact old
    · refine probing.last reporter ?_
      rw [List.getLast?_eq_getElem?, ← length, ← reports]
      exact congrArg (traffic.calls[·]?) atEnd
  · intro other call found _ unanswered
    rcases getElem?_report found with ⟨different, old⟩ | ⟨-, rfl⟩
    · refine .inr ⟨_, List.mem_of_getElem? told, answer, rfl, rfl, stay.symm, ?_⟩
      exact (List.getElem?_eq_some_iff.mp old).1
    · exact absurd unanswered nofun
  · intro other call answer' found answered within admitted
    exact (probing.own_report reports found answered (within.trans stay) admitted).trans stay.symm
  · intro orderly other call found within unanswered
    have atEnd : traffic.calls.length = index + 1 :=
      orderly index _ answer told rfl stay.symm
    have before : Orderly traffic.stay traffic.calls := by
      intro earlier call answer' among answered within
      have different : earlier ≠ index := by
        rintro rfl
        obtain rfl : reporter = call := Option.some.inj (reports.symm.trans among)
        exact absurd (flying.symm.trans answered) nofun
      exact orderly earlier call answer' (kept earlier call among different) answered
        (within.trans stay.symm)
    rcases getElem?_report found with ⟨different, old⟩ | ⟨-, rfl⟩
    · rcases probing.single before other call old (within.trans stay) unanswered with
        ⟨final, -⟩ | older
      · omega
      · refine .inr ?_
        rw [show after.breaker.thresholds = traffic.breaker.thresholds from
          Breaker.apply_thresholds .success]
        exact older
    · exact absurd unanswered nofun

variable {thresholds : Thresholds}

theorem sound_start (thresholds : Thresholds) (moment : Moment) :
    Sound thresholds (start thresholds moment) where
  fixed := rfl
  past := by simp [start]
  admitted := by simp [start]
  answered := by simp [start]
  probing halfOpen := absurd halfOpen nofun

theorem Sound.pass (sound : Sound thresholds traffic) (duration : Duration) (wall : Timestamp) :
    Sound thresholds (traffic.next (.pass duration wall)) where
  fixed := sound.fixed
  past call member := Int.le_trans (sound.past call member)
    (Int.le_add_of_nonneg_right (Int.natCast_nonneg duration))
  admitted := sound.admitted
  answered := sound.answered
  probing halfOpen := (sound.probing halfOpen).pass duration wall

/-- An operation that neither admits a call nor records an outcome. -/
theorem Sound.perform (sound : Sound thresholds traffic) (unanswered : operation ≠ .success)
    (unadmitted : ¬(operation = .allow ∧ (traffic.outcome operation).granted = true)) :
    Sound thresholds (traffic.perform operation) where
  fixed := (Breaker.apply_thresholds operation).trans sound.fixed
  past := sound.past
  admitted call member := Nat.le_trans (sound.admitted call member) (le_stay_perform _ _)
  answered call member answer answered :=
    Nat.le_trans (sound.answered call member answer answered) (le_stay_perform _ _)
  probing := by
    intro enters
    by_cases inside : traffic.breaker.phase = .halfOpen
    · exact (sound.probing inside).perform inside enters unanswered unadmitted
    · obtain ⟨rfl, -, granted, -⟩ := Breaker.apply_of_enters_halfOpen inside enters
      exact absurd ⟨rfl, granted⟩ unadmitted

theorem Sound.ask (sound : Sound thresholds traffic) : Sound thresholds (traffic.next .ask) := by
  cases granted : (traffic.outcome .allow).granted with
  | false =>
      rw [next_ask_of_denied granted]
      exact sound.perform nofun (by simp [granted])
  | true =>
      rw [next_ask_of_granted granted]
      constructor
      · exact (Breaker.apply_thresholds .allow).trans sound.fixed
      · intro call member
        rcases List.mem_append.mp member with old | new
        · exact sound.past call old
        · obtain rfl := List.mem_singleton.mp new
          exact Int.le_refl _
      · intro call member
        rcases List.mem_append.mp member with old | new
        · exact Nat.le_trans (sound.admitted call old) (le_stay_perform _ _)
        · obtain rfl := List.mem_singleton.mp new
          exact Nat.le_refl _
      · intro call member answer answered
        rcases List.mem_append.mp member with old | new
        · exact Nat.le_trans (sound.answered call old answer answered) (le_stay_perform _ _)
        · obtain rfl := List.mem_singleton.mp new
          exact absurd answered nofun
      · intro enters
        by_cases inside : traffic.breaker.phase = .halfOpen
        · exact (sound.probing inside).enlist inside sound.past granted enters
        · exact sound.begin inside enters

theorem Sound.report (sound : Sound thresholds traffic) {call : Call} {succeeded : Bool}
    (found : traffic.calls[index]? = some call) (flying : call.answer = none) :
    Sound thresholds (traffic.report index call succeeded) := by
  have member := List.mem_of_getElem? found
  constructor
  · exact (Breaker.apply_thresholds _).trans sound.fixed
  · intro other among
    rcases List.mem_or_eq_of_mem_set among with old | rfl
    · exact sound.past other old
    · exact sound.past call member
  · intro other among
    refine Nat.le_trans ?_ (le_stay_perform _ _)
    rcases List.mem_or_eq_of_mem_set among with old | rfl
    · exact sound.admitted other old
    · exact sound.admitted call member
  · intro other among answer answered
    refine Nat.le_trans ?_ (le_stay_perform _ _)
    rcases List.mem_or_eq_of_mem_set among with old | rfl
    · exact sound.answered other old answer answered
    · obtain rfl := Option.some.inj answered
      exact Nat.le_refl _
  · intro enters
    by_cases inside : traffic.breaker.phase = .halfOpen
    · cases succeeded with
      | true => exact (sound.probing inside).report inside found flying enters
      | false =>
          have decided := congrArg Prod.fst
            (Breaker.standing_of_halfOpen inside false traffic.moment)
          exact absurd (decided.symm.trans enters) nofun
    · obtain ⟨recorded, -⟩ := Breaker.apply_of_enters_halfOpen inside enters
      cases succeeded <;> exact absurd recorded nofun

theorem sound_run (thresholds : Thresholds) (moment : Moment) (steps : List TrafficStep) :
    Sound thresholds (run thresholds moment steps) := by
  induction steps using List.reverseRecOn with
  | nil => exact sound_start thresholds moment
  | append_singleton steps step ih =>
      rw [run, List.foldl_append]
      cases step with
      | pass duration wall => exact ih.pass duration wall
      | ask => exact ih.ask
      | answer index succeeded =>
          rcases next_answer_cases index succeeded (run thresholds moment steps) with
            ⟨call, found, flying, reported⟩ | ignored
          · exact (congrArg (Sound thresholds) reported).mpr (ih.report found flying)
          · exact (congrArg (Sound thresholds) ignored).mpr ih
      | bypass succeeded => exact ih.perform nofun nofun
      | snapshot => exact ih.perform nofun nofun
      | adopt openedWall => exact ih.perform nofun nofun
      | reset => exact ih.perform nofun nofun

/-! ## What decides -/

/-- Only an outcome or a reset closes a half-open breaker.  The outcome is the success of a call in
flight, and with it as many calls have reported a success in the stay as the threshold demands. -/
theorem Sound.closes (sound : Sound thresholds traffic)
    (halfOpen : traffic.breaker.phase = .halfOpen) {step : TrafficStep}
    (closes : (traffic.next step).breaker.phase = .closed) :
    step = .reset ∨ ∃ index call, traffic.calls[index]? = some call ∧ call.answer = none ∧
      traffic.next step = traffic.report index call true ∧
      max thresholds.successes.toNat 1 ≤
        (traffic.next step).calls.countP (·.succeededIn traffic.stay) := by
  have only (operation : Operation) (other : operation ≠ .success) (kept : operation ≠ .reset) :
      (traffic.perform operation).breaker.phase ≠ .closed := by
    intro closed
    rcases Breaker.closes_of_halfOpen halfOpen closed with reset | ⟨success, -⟩
    · exact kept reset
    · exact other success
  cases step with
  | pass duration wall => exact absurd (halfOpen.symm.trans closes) nofun
  | ask =>
      refine absurd ?_ (only .allow nofun nofun)
      cases granted : (traffic.outcome .allow).granted with
      | false => rwa [next_ask_of_denied granted] at closes
      | true => rwa [next_ask_of_granted granted] at closes
  | answer index succeeded =>
      rcases next_answer_cases index succeeded traffic with
        ⟨call, found, flying, reported⟩ | ignored
      · rw [reported] at closes ⊢
        rcases Breaker.closes_of_halfOpen halfOpen closes with reset | ⟨success, enough⟩
        · cases succeeded <;> exact absurd reset nofun
        · obtain rfl : succeeded = true := by
            cases succeeded with
            | false => exact absurd success nofun
            | true => rfl
          refine .inr ⟨index, call, found, flying, rfl, ?_⟩
          rw [countP_report found flying, ← (sound.probing halfOpen).counted, ← sound.fixed]
          omega
      · rw [ignored] at closes
        exact absurd (halfOpen.symm.trans closes) nofun
  | bypass succeeded => exact absurd closes (only _ nofun nofun)
  | snapshot => exact absurd closes (only _ nofun nofun)
  | adopt openedWall => exact absurd closes (only _ nofun nofun)
  | reset => exact .inl rfl

/-- While a breaker is open the outcomes of calls decide nothing, and those of calls made without
asking never do.  While it is half-open the outcome of every call decides, whenever that call was
admitted.  Apart from a reset, it closes only with the success of as many calls in its stay as the
threshold demands; if every outcome of the stay was that of the call admitted last, these calls are
probes of the stay.  A second probe is admitted while another one, younger than the timeout, is in
flight only if some other call has succeeded since, and never if every outcome of the stay was that
of the call admitted last. -/
theorem deciding_law (thresholds : Thresholds) (moment : Moment) (steps : List TrafficStep) :
    let traffic := run thresholds moment steps
    let now := traffic.moment.instant
    (traffic.breaker.phase = .opened → ∀ index succeeded,
      (traffic.next (.answer index succeeded)).breaker.standing = traffic.breaker.standing) ∧
    (∀ succeeded,
      (traffic.next (.bypass succeeded)).breaker.standing = traffic.breaker.standing) ∧
    (traffic.breaker.phase = .halfOpen →
      (∀ index call succeeded, traffic.calls[index]? = some call → call.answer = none →
        (traffic.next (.answer index succeeded)).breaker.standing =
          if succeeded then
            if thresholds.successes.toNat ≤ traffic.breaker.successes + 1 then (.closed, 0, none)
            else (.halfOpen, traffic.breaker.successes + 1, none)
          else (.opened, 0, none)) ∧
      (∀ step, (traffic.next step).breaker.phase = .closed → step ≠ .reset →
        max thresholds.successes.toNat 1 ≤
          (traffic.next step).calls.countP (·.succeededIn traffic.stay) ∧
        (Orderly traffic.stay (traffic.next step).calls →
          ∀ call ∈ (traffic.next step).calls, call.succeededIn traffic.stay = true →
            call.stay = traffic.stay)) ∧
      ((traffic.outcome .allow).granted = true →
        ∀ index call, traffic.calls[index]? = some call → call.stay = traffic.stay →
          call.answer = none → now - call.instant < thresholds.timeout →
            traffic.Overtaken index ∧ ¬Orderly traffic.stay traffic.calls)) := by
  intro traffic now
  have sound : Sound thresholds traffic := sound_run thresholds moment steps
  refine ⟨?_, fun _ => rfl, fun halfOpen => ⟨?_, ?_, ?_⟩⟩
  · intro opened index succeeded
    rcases next_answer_cases index succeeded traffic with ⟨call, -, -, reported⟩ | ignored
    · rw [reported]
      exact Breaker.standing_of_opened opened succeeded traffic.moment
    · rw [ignored]
  · intro index call succeeded found flying
    rw [next_answer_of_flying found flying, ← sound.fixed]
    exact Breaker.standing_of_halfOpen halfOpen succeeded traffic.moment
  · intro step closes kept
    rcases sound.closes halfOpen closes with reset | ⟨index, reporter, found, flying, next, enough⟩
    · exact absurd reset kept
    · refine ⟨enough, fun orderly call member succeeded => ?_⟩
      rw [next] at orderly member
      obtain ⟨other, among⟩ := List.mem_iff_getElem?.mp member
      obtain ⟨answer, answered, passes⟩ := (Option.any_eq_true _ _).mp succeeded
      have within : answer.stay = traffic.stay := by simp at passes; exact passes.2
      exact (sound.probing halfOpen).own_report found among answered within
        (orderly other call answer among answered within)
  · intro granted index call found inside flying young
    have probing := sound.probing halfOpen
    have lapsed := (Breaker.allow_granted_of_halfOpen halfOpen).mp granted
    rw [← sound.fixed] at young
    constructor
    · rcases probing.slot index call found inside flying with held | overtaken
      · obtain ⟨admitted, slot, later, earlier⟩ := held
        have := (le_elapsedSince_iff _ earlier).mp (lapsed admitted slot)
        omega
      · exact overtaken
    · intro orderly
      rcases probing.single orderly index call found inside flying with ⟨-, slot⟩ | old
      · have := (le_elapsedSince_iff _ (sound.past call (List.mem_of_getElem? found))).mp
          (lapsed _ slot)
        omega
      · omega

/-- Two calls admitted by a closed breaker succeed only after a third one has opened it and the
timeout has passed.  The first success makes room for a second probe while the first probe is in
flight, and the second closes the breaker, before any probe has reported. -/
theorem late_successes_close :
    let minute : Int := Duration.ofSeconds 60
    let thresholds := { Thresholds.standard with failures := 1 }
    let steps : List TrafficStep :=
      [.ask, .ask, .ask, .answer 2 false, .pass (Duration.ofSeconds 60) (.ofNanoseconds minute),
        .ask]
    let traffic := run thresholds Clock.start.moment steps
    let later := traffic.next (.answer 0 true)
    thresholds.successes = 2 ∧ thresholds.timeout = Duration.ofSeconds 60 ∧
      traffic.calls.map (·.stay) = [0, 0, 0, 2] ∧ traffic.stay = 2 ∧
      traffic.breaker.standing = (.halfOpen, 0, some minute) ∧
      later.breaker.standing = (.halfOpen, 1, none) ∧
      later.calls[3]? = some ⟨minute, 2, none⟩ ∧ (later.outcome .allow).granted = true ∧
      (later.next (.answer 1 true)).breaker.standing = (.closed, 0, none) ∧
      (later.next (.answer 1 true)).calls[3]? = some ⟨minute, 2, none⟩ := by
  decide

end Traffic

end ProviderRouting
