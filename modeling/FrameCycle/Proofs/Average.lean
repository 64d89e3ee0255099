import Mathlib.Algebra.Order.BigOperators.Group.List
import Mathlib.Algebra.Order.Field.Basic
import Mathlib.Algebra.Order.Field.Rat
import Mathlib.Tactic.FieldSimp
import Mathlib.Tactic.Ring
import FrameCycle.Proofs.Cycle.Start

/-!
The running average without rounding. Every sample adds exactly itself to the average times the count
and one, so what a list of samples leads to is known at once from their number and their sum. An
average that started fresh has one sample too many in its denominator, which keeps it below the mean.
-/
namespace FrameCycle

instance : Measure ℚ where
  zero := 0
  one := 1
  ofCount count := count.toNat

namespace RunningStat

section

variable {α : Type} [Measure α] (stat : RunningStat α)

/-- Folds samples in, one after the other. -/
def recordAll (samples : List α) : Except Fault (RunningStat α) :=
  samples.foldlM record stat

theorem recordAll_cons (sample : α) (rest : List α) :
    stat.recordAll (sample :: rest) = stat.record sample >>= fun next => next.recordAll rest :=
  List.foldlM_cons

theorem recordAll_append (samples later : List α) :
    stat.recordAll (samples ++ later) =
      stat.recordAll samples >>= fun next => next.recordAll later :=
  List.foldlM_append

variable {stat}

theorem record_of_room (room : stat.count.toNat + 1 < UInt64.size) (sample : α) :
    stat.record sample = .ok { stat with
      count := stat.count + 1
      average := blend (Measure.ofCount (stat.count + 1)) stat.average sample } := by
  simp only [record, (Checked.add64_one room).1]

theorem record_full (full : ¬ stat.count.toNat + 1 < UInt64.size) (sample : α) :
    stat.record sample = .error .addOverflow := by
  simp only [record, Checked.add64_one_full full]

/-- Samples that the count has no room for end in a fault, whichever of them meets the full count. -/
theorem recordAll_full {samples : List α}
    (full : UInt64.size ≤ stat.count.toNat + samples.length) :
    stat.recordAll samples = .error .addOverflow := by
  induction samples generalizing stat with
  | nil => exact absurd stat.count.toNat_lt_size (Nat.not_lt.mpr full)
  | cons sample rest inductionHypothesis =>
      rw [recordAll_cons]
      by_cases room : stat.count.toNat + 1 < UInt64.size
      · rw [record_of_room room]
        apply inductionHypothesis
        rw [List.length_cons] at full
        change UInt64.size ≤ (stat.count + 1).toNat + rest.length
        rw [(Checked.add64_one room).2]
        omega
      · rw [record_full room]
        rfl

end

/-- The sum that an average stands for. -/
def total (stat : RunningStat ℚ) : ℚ :=
  (stat.count.toNat + 1) * stat.average

/-- What folding samples in keeps account of: how many there are, and their sum. -/
structure Folded (stat : RunningStat ℚ) (samples : List ℚ) (next : RunningStat ℚ) : Prop where
  name_eq : next.name = stat.name
  count_eq : next.count.toNat = stat.count.toNat + samples.length
  total_eq : next.total = stat.total + samples.sum

section

variable {stat next : RunningStat ℚ} {samples : List ℚ}

theorem average_eq (stat : RunningStat ℚ) :
    stat.average = stat.total / (stat.count.toNat + 1) := by
  have positive : (stat.count.toNat + 1 : ℚ) ≠ 0 := Nat.cast_add_one_ne_zero _
  exact (mul_div_cancel_left₀ stat.average positive).symm

/-- The weight of the old average is the count that its total was taken with, so the new total is the
old one and the sample. -/
theorem folded_record (room : stat.count.toNat + 1 < UInt64.size) (sample : ℚ) :
    ∃ next, stat.record sample = .ok next ∧ stat.Folded [sample] next := by
  have counted := (Checked.add64_one room).2
  refine ⟨_, record_of_room room sample, rfl, counted, ?_⟩
  have positive : (stat.count.toNat + 1 + 1 : ℚ) ≠ 0 := by
    exact_mod_cast Nat.succ_ne_zero (stat.count.toNat + 1)
  simp only [total, blend, Measure.ofCount, Measure.one, counted, Nat.cast_add, Nat.cast_one,
    List.sum_singleton]
  exact mul_div_cancel₀ _ positive

namespace Folded

theorem refl (stat : RunningStat ℚ) : stat.Folded [] stat :=
  ⟨rfl, rfl, (add_zero stat.total).symm⟩

theorem trans {middle : RunningStat ℚ} {later : List ℚ} (first : stat.Folded samples middle)
    (second : middle.Folded later next) : stat.Folded (samples ++ later) next where
  name_eq := second.name_eq.trans first.name_eq
  count_eq := by rw [second.count_eq, first.count_eq, List.length_append, Nat.add_assoc]
  total_eq := by rw [second.total_eq, first.total_eq, List.sum_append, add_assoc]

theorem perm {reordered : List ℚ} (folded : stat.Folded samples next)
    (same : samples.Perm reordered) : stat.Folded reordered next where
  name_eq := folded.name_eq
  count_eq := by rw [folded.count_eq, same.length_eq]
  total_eq := by rw [folded.total_eq, same.sum_eq]

theorem average_eq (folded : stat.Folded samples next) :
    next.average = ((stat.count.toNat + 1) * stat.average + samples.sum) /
      (stat.count.toNat + samples.length + 1) := by
  rw [next.average_eq, folded.total_eq, folded.count_eq, Nat.cast_add, total]

theorem unique {other : RunningStat ℚ} (folded : stat.Folded samples next)
    (again : stat.Folded samples other) : next = other := by
  have name : next.name = other.name := folded.name_eq.trans again.name_eq.symm
  have count : next.count = other.count :=
    UInt64.toNat_inj.mp (folded.count_eq.trans again.count_eq.symm)
  have average : next.average = other.average := folded.average_eq.trans again.average_eq.symm
  cases next
  cases other
  cases name
  cases count
  cases average
  rfl

end Folded

theorem folded_recordAll (room : stat.count.toNat + samples.length < UInt64.size) :
    ∃ next, stat.recordAll samples = .ok next ∧ stat.Folded samples next := by
  induction samples generalizing stat with
  | nil => exact ⟨stat, rfl, .refl stat⟩
  | cons sample rest inductionHypothesis =>
      rw [List.length_cons] at room
      have roomOne : stat.count.toNat + 1 < UInt64.size := by omega
      obtain ⟨middle, recorded, first⟩ := folded_record roomOne sample
      have left : middle.count.toNat + rest.length < UInt64.size := by
        rw [first.count_eq, List.length_singleton]
        omega
      obtain ⟨next, recordedAll, later⟩ := inductionHypothesis left
      refine ⟨next, ?_, first.trans later⟩
      rw [recordAll_cons, recorded]
      exact recordedAll

/-- The order of the samples decides neither what they lead to nor whether there is room. -/
theorem recordAll_perm {reordered : List ℚ} (same : samples.Perm reordered) :
    stat.recordAll reordered = stat.recordAll samples := by
  by_cases room : stat.count.toNat + samples.length < UInt64.size
  · obtain ⟨next, recorded, folded⟩ := folded_recordAll room
    obtain ⟨other, reversed, again⟩ := folded_recordAll (same.length_eq ▸ room)
    rw [recorded, reversed, again.unique (folded.perm same)]
  · have full := Nat.le_of_not_lt room
    rw [recordAll_full full, recordAll_full (same.length_eq ▸ full)]

theorem Folded.average_eq_of_fresh {name : String} (folded : (fresh name).Folded samples next) :
    next.average = samples.sum / (samples.length + 1) := by
  rw [folded.average_eq]
  simp [fresh, Measure.zero]

end

section

variable {samples : List ℚ} (nonneg : ∀ sample ∈ samples, 0 ≤ sample)

include nonneg

theorem sum_pos_iff : 0 < samples.sum ↔ ∃ sample ∈ samples, sample ≠ 0 := by
  constructor
  · intro positive
    by_contra zeros
    push Not at zeros
    exact positive.ne' (List.sum_eq_zero zeros)
  · rintro ⟨sample, member, nonzero⟩
    apply (List.sum_nonneg nonneg).lt_of_ne'
    intro zero
    exact nonzero (List.all_zero_of_le_zero_le_of_sum_eq_zero nonneg zero member)

/-- One more in the denominator lowers the mean, unless there is nothing to lower. -/
theorem damped_between (nonempty : samples ≠ []) :
    0 ≤ samples.sum / (samples.length + 1) ∧
      samples.sum / (samples.length + 1) ≤ samples.sum / samples.length ∧
      (samples.sum / (samples.length + 1) < samples.sum / samples.length ↔
        ∃ sample ∈ samples, sample ≠ 0) := by
  have sum : 0 ≤ samples.sum := List.sum_nonneg nonneg
  have count : (0 : ℚ) < samples.length := by exact_mod_cast List.length_pos_iff.mpr nonempty
  have lowered : samples.sum / samples.length - samples.sum / (samples.length + 1) =
      samples.sum / (samples.length * (samples.length + 1)) := by
    field_simp
    ring
  have weight : (0 : ℚ) < samples.length * (samples.length + 1) :=
    mul_pos count (add_pos count one_pos)
  refine ⟨div_nonneg sum (add_pos count one_pos).le, ?_, ?_⟩
  · apply sub_nonneg.mp
    rw [lowered]
    exact div_nonneg sum weight.le
  · rw [← sum_pos_iff nonneg, ← sub_pos, lowered, div_pos_iff_of_pos_right weight]

end

end RunningStat

section

variable {State Store Memory : Type}

theorem Bench.accumulate_full {stat : RunningStat Millis} (bench : Bench State Store)
    (full : ¬ stat.count.toNat + 1 < UInt64.size) :
    bench.accumulate stat = (.error .addOverflow, bench.measure.2) := by
  simp only [accumulate, RunningStat.record_full full]

namespace Cycle

variable (cycle : Cycle State Store Memory)

theorem run_recordDisplay_full (full : ¬ cycle.displayStat.count.toNat + 1 < UInt64.size) :
    recordDisplay.run cycle =
      .error (.fault .addOverflow) { cycle with bench := cycle.bench.measure.2 } := by
  simp only [recordDisplay, EStateM.run_bind, EStateM.run_get, EStateM.run_modify,
    Bench.accumulate_full _ full, checked]
  rfl

theorem run_recordUpscale_full (full : ¬ cycle.upscaleStat.count.toNat + 1 < UInt64.size) :
    recordUpscale.run cycle =
      .error (.fault .addOverflow) { cycle with bench := cycle.bench.measure.2 } := by
  simp only [recordUpscale, EStateM.run_bind, EStateM.run_get, EStateM.run_modify,
    Bench.accumulate_full _ full, checked]
  rfl

end Cycle

end

namespace RunningStat

/-- What a list of samples leads to depends on their number and their sum alone. An average that
started fresh stays below the mean of samples that are not negative, unless all of them are 0. A
count that is full takes no more samples, and the cycle keeps both averages as they were: only its
clock has been read. -/
theorem recordAll_closed_form (stat : RunningStat ℚ) (samples : List ℚ) :
    (stat.count.toNat + samples.length < UInt64.size →
      ∃ next, stat.recordAll samples = .ok next ∧ next.name = stat.name ∧
        next.count.toNat = stat.count.toNat + samples.length ∧
        next.average = ((stat.count.toNat + 1) * stat.average + samples.sum) /
          (stat.count.toNat + samples.length + 1)) ∧
    (UInt64.size ≤ stat.count.toNat + samples.length →
      stat.recordAll samples = .error .addOverflow) ∧
    (∀ reordered, samples.Perm reordered → stat.recordAll reordered = stat.recordAll samples) ∧
    (∀ later, stat.recordAll (samples ++ later) =
      stat.recordAll samples >>= fun next => next.recordAll later) ∧
    (samples.length < UInt64.size → ∀ name, ∃ next,
      (fresh name).recordAll samples = .ok next ∧
      next.average = samples.sum / (samples.length + 1) ∧
      (samples ≠ [] → (∀ sample ∈ samples, 0 ≤ sample) →
        0 ≤ next.average ∧ next.average ≤ samples.sum / samples.length ∧
          (next.average < samples.sum / samples.length ↔ ∃ sample ∈ samples, sample ≠ 0))) ∧
    (∀ (α : Type) [Measure α] (full : RunningStat α) (sample : α),
      full.count.toNat + 1 = UInt64.size → full.record sample = .error .addOverflow) ∧
    ∀ (State Store Memory : Type) (cycle : Cycle State Store Memory),
      let stopped : EStateM.Result Stop (Cycle State Store Memory) Unit :=
        .error (.fault .addOverflow) { cycle with bench := cycle.bench.measure.2 }
      (cycle.displayStat.count.toNat + 1 = UInt64.size → Cycle.recordDisplay.run cycle = stopped) ∧
        (cycle.upscaleStat.count.toNat + 1 = UInt64.size →
          Cycle.recordUpscale.run cycle = stopped) := by
  refine ⟨fun room => ?_, recordAll_full, fun reordered => recordAll_perm,
    stat.recordAll_append samples, fun room name => ?_, fun α _ full sample last => ?_,
    fun State Store Memory cycle => ⟨fun last => ?_, fun last => ?_⟩⟩
  · obtain ⟨next, recorded, folded⟩ := folded_recordAll room
    exact ⟨next, recorded, folded.name_eq, folded.count_eq, folded.average_eq⟩
  · have start : (fresh name : RunningStat ℚ).count.toNat + samples.length < UInt64.size := by
      simpa [fresh] using room
    obtain ⟨next, recorded, folded⟩ := folded_recordAll start
    have average := folded.average_eq_of_fresh
    refine ⟨next, recorded, average, fun nonempty nonneg => ?_⟩
    rw [average]
    exact damped_between nonneg nonempty
  · exact record_full last.not_lt sample
  · exact cycle.run_recordDisplay_full last.not_lt
  · exact cycle.run_recordUpscale_full last.not_lt

/-- Two samples that fill the count, three whose mean is 4 in either order, and a cycle whose display
has been read as often as can be counted. -/
theorem recordAll_closed_form_lastRoom :
    (∃ next, (⟨"upscale", 0xFFFFFFFFFFFFFFFD, 3 / 2⟩ : RunningStat ℚ).recordAll [5, 1 / 3] =
        .ok next ∧ next.count.toNat + 1 = UInt64.size ∧
      next.average = (0xFFFFFFFFFFFFFFFE * (3 / 2) + 16 / 3) / 0x10000000000000000 ∧
      ∀ sample, next.record sample = .error .addOverflow) ∧
    (∃ next, (fresh "upscale" : RunningStat ℚ).recordAll [4, 1, 7] = .ok next ∧
      (fresh "upscale" : RunningStat ℚ).recordAll [7, 1, 4] = .ok next ∧
      next.average = 3 ∧ next.average < 4) ∧
    ∃ cycle : Cycle (Machine.Instance Machine.TestCard) Unit Unit,
      cycle.displayStat.count.toNat + 1 = UInt64.size ∧
      Cycle.recordDisplay.run cycle =
        .error (.fault .addOverflow) { cycle with bench := cycle.bench.measure.2 } := by
  refine ⟨?_, ?_, ?_⟩
  · obtain ⟨closed, -, -, -, -, full, -⟩ :=
      recordAll_closed_form ⟨"upscale", 0xFFFFFFFFFFFFFFFD, 3 / 2⟩ [5, 1 / 3]
    obtain ⟨next, recorded, -, counted, average⟩ := closed (by decide)
    have last : next.count.toNat + 1 = UInt64.size := by
      rw [counted]
      rfl
    have count : (0xFFFFFFFFFFFFFFFD : UInt64).toNat = 0xFFFFFFFFFFFFFFFD := rfl
    refine ⟨next, recorded, last, ?_, fun sample => full ℚ next sample last⟩
    rw [average, count]
    norm_num
  · obtain ⟨-, -, reordered, -, started, -, -⟩ := recordAll_closed_form (fresh "upscale") [4, 1, 7]
    obtain ⟨next, recorded, average, below⟩ := started (by decide) "upscale"
    obtain ⟨-, -, below⟩ := below (by simp) (by simp)
    have same : [(4 : ℚ), 1, 7].Perm [7, 1, 4] := (List.reverse_perm [4, 1, 7]).symm
    refine ⟨next, recorded, (reordered _ same).trans recorded, ?_, ?_⟩
    · rw [average]
      norm_num
    · have lower := below.mpr ⟨4, by simp, by simp⟩
      norm_num at lower
      exact lower
  · obtain ⟨-, -, -, -, -, -, stopped⟩ := recordAll_closed_form (fresh "display-read") []
    let cycle : Cycle (Machine.Instance Machine.TestCard) Unit Unit :=
      { Cycle.initial .short (.zeros 4 3) none .testCard with
        displayStat := ⟨displayStatName, 0xFFFFFFFFFFFFFFFF, 2.5⟩ }
    exact ⟨cycle, rfl, (stopped _ _ _ cycle).1 rfl⟩

end RunningStat

end FrameCycle
