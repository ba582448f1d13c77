import RpcTelemetry.Proofs.Call.Following

/-!
# The exact time between two instants

An instant has seconds and nanoseconds, and so has the time between two instants, with a second
borrowed where the nanoseconds would run below 0. Read as numbers of nanoseconds the fields fall
away: what is between two instants is their difference, or nothing if the clock went back
(`Elapsed.toNanos_between`), and the fields are the whole seconds and the rest of that
(`Elapsed.between_eq`).

Result: `Elapsed.recorded_by_difference`. The duration of a call is the conversion of this
difference and of nothing else.
-/

namespace RpcTelemetry

namespace Instant

/-- Whether the seconds of an instant are a signed number of 64 bits. -/
def IsInRange (instant : Instant) : Prop :=
  -9223372036854775808 ≤ instant.seconds ∧ instant.seconds ≤ 9223372036854775807

/-- An instant moved by a number of nanoseconds, back if that is negative. -/
def moved (instant : Instant) (shift : Int) : Instant where
  seconds := (instant.toNanos + shift) / nanosPerSecond
  nanos := ((instant.toNanos + shift) % nanosPerSecond).toNat
  nanos_lt := by
    have rest : 0 ≤ (instant.toNanos + shift) % nanosPerSecond := Int.emod_nonneg _ (by decide)
    exact (Int.toNat_lt rest).2 (Int.emod_lt_of_pos _ (by decide))

theorem toNanos_moved (instant : Instant) (shift : Int) :
    (instant.moved shift).toNanos = instant.toNanos + shift := by
  have rest : 0 ≤ (instant.toNanos + shift) % nanosPerSecond := Int.emod_nonneg _ (by decide)
  rw [toNanos, moved, Int.toNat_of_nonneg rest]
  exact Int.ediv_mul_add_emod _ _

/-- Seconds are compared first, nanoseconds only where these are equal; that is the order of the
numbers of nanoseconds. -/
theorem isBefore_iff {first second : Instant} :
    first.isBefore second = true ↔ first.toNanos < second.toNanos := by
  have firstRest : first.nanos < 1000000000 := first.nanos_lt
  have secondRest : second.nanos < 1000000000 := second.nanos_lt
  simp only [isBefore, toNanos, nanosPerSecond, Bool.or_eq_true, Bool.and_eq_true,
    decide_eq_true_eq]
  omega

end Instant

namespace Elapsed

theorem rest_lt (nanos : Nat) : nanos % nanosPerSecond < nanosPerSecond :=
  Nat.mod_lt nanos (by decide)

/-- A number of nanoseconds as whole seconds and the rest. -/
def ofNanos (nanos : Nat) : Elapsed where
  seconds := nanos / nanosPerSecond
  nanos := nanos % nanosPerSecond
  nanos_lt := rest_lt nanos

/-- A number of nanoseconds in milliseconds: the whole seconds and the fraction of a second that is
left are added, and multiplied by a thousand. -/
def millisOf (nanos : Nat) : Float :=
  ((nanos / 1000000000).toUInt64.toFloat + (nanos % 1000000000).toUInt64.toFloat / 1000000000) *
    1000

theorem toMillis_ofNanos (nanos : Nat) : (ofNanos nanos).toMillis = millisOf nanos := rfl

/-- There is one way to write a length of time. -/
theorem ofNanos_toNanos (elapsed : Elapsed) : ofNanos elapsed.toNanos = elapsed := by
  obtain ⟨seconds, nanos, nanos_lt⟩ := elapsed
  have whole : (seconds * nanosPerSecond + nanos) / nanosPerSecond = seconds := by
    rw [Nat.mul_comm, Nat.mul_add_div (by decide), Nat.div_eq_of_lt nanos_lt, Nat.add_zero]
  have rest : (seconds * nanosPerSecond + nanos) % nanosPerSecond = nanos := by
    rw [Nat.mul_comm, Nat.mul_add_mod, Nat.mod_eq_of_lt nanos_lt]
  simp only [ofNanos, toNanos, whole, rest]

variable (start stop : Instant)

/-- The borrow makes up for the seconds: the difference is exact on either side of the epoch and
across it. -/
theorem toNanos_between :
    (between start stop).toNanos = (stop.toNanos - start.toNanos).toNat := by
  unfold between
  split
  · next back =>
    have ahead : stop.toNanos < start.toNanos := Instant.isBefore_iff.1 back
    exact (Int.toNat_of_nonpos (Int.sub_nonpos_of_le (Int.le_of_lt ahead))).symm
  · next inOrder =>
    have ordered : ¬stop.toNanos < start.toNanos := fun back =>
      inOrder (Instant.isBefore_iff.2 back)
    have startRest : start.nanos < 1000000000 := start.nanos_lt
    have stopRest : stop.nanos < 1000000000 := stop.nanos_lt
    simp only [Instant.toNanos, nanosPerSecond] at ordered ⊢
    -- With the borrow and without it, the total is the same.
    split <;> simp only [toNanos, nanosPerSecond] <;> omega

/-- The time between two instants is their difference in whole seconds and the rest. -/
theorem between_eq : between start stop = ofNanos (stop.toNanos - start.toNanos).toNat := by
  rw [← toNanos_between, ofNanos_toNanos]

variable {start stop}

/-- No more than the whole range of signed seconds is between two instants. -/
theorem seconds_between_lt (first : start.IsInRange) (last : stop.IsInRange) :
    (between start stop).seconds < UInt64.size := by
  obtain ⟨lowest, -⟩ := first
  obtain ⟨-, highest⟩ := last
  have widest : stop.seconds - start.seconds < (UInt64.size : Int) := by
    have size : (UInt64.size : Int) = 18446744073709551616 := by decide
    omega
  have positive : (0 : Int) < UInt64.size := by decide
  unfold between
  split
  · decide
  · split
    · exact (Int.toNat_lt' (by decide)).2 widest
    · exact (Int.toNat_lt' (by decide)).2 (by omega)

end Elapsed

namespace Call

/-- At the end of a call that is not filtered its duration is measured first. What comes after it
are numbers of messages. -/
theorem exists_summary (call : Call) (followed : call.tracking.isFiltered = false)
    (completion : Completion) (cell : Cell) :
    ∃ attributes counts,
      call.summary completion cell =
        call.measure .duration
          (.real (Elapsed.between completion.start completion.stop).toMillis.toBits)
          attributes :: counts ∧
      ∀ count ∈ counts, count.instrument ≠ InstrumentSpec.duration.name call.role.label := by
  have requests : InstrumentSpec.requestsPerRpc.name call.role.label ≠
      InstrumentSpec.duration.name call.role.label := mt InstrumentSpec.name_inj.1 (by decide)
  have responses : InstrumentSpec.responsesPerRpc.name call.role.label ≠
      InstrumentSpec.duration.name call.role.label := mt InstrumentSpec.name_inj.1 (by decide)
  unfold summary
  cases tracking : call.tracking with
  | filtered identity => simp [tracking, Tracking.isFiltered] at followed
  | detached => exact ⟨_, [], rfl, List.forall_mem_nil _⟩
  | recorded identity =>
    exact ⟨_, _, rfl, List.forall_mem_cons.2 ⟨requests, List.forall_mem_singleton.2 responses⟩⟩

end Call

namespace Elapsed

open DeliveryLemmas

/-- The duration of a call is recorded once, at its end, as the milliseconds of the exact difference
of its two times, and as 0 if the second is not the later one. What is converted are the whole
seconds and the rest of this difference, none of which is lost in a word, and times that are moved
together leave all as it is. -/
theorem recorded_by_difference (start stop : Instant) :
    let elapsed := between start stop
    let difference := max (stop.toNanos - start.toNanos) 0
    (∀ {world : World} {handler : Handler} {handle : Handle} {client : Bool} {trailer : Metadata}
        {failure : Option Failure}, handle.tracking.isFiltered = false →
        world.isEnded handle = false →
        let event : Event := ⟨client, .ended ⟨start, stop, trailer, failure⟩⟩
        let duration := InstrumentSpec.duration.name handler.role.label
        ∃ attributes counts,
          (world.deliver handler handle event).meters =
            Meter.recordAt world.meters handler.meter
              (⟨duration, some "ms", .real elapsed.toMillis.toBits, attributes⟩ :: counts) ∧
          ∀ count ∈ counts, count.instrument ≠ duration) ∧
      elapsed.toMillis = millisOf difference.toNat ∧
      (elapsed.nanos < 1000000000 ∧
        (elapsed.seconds * 1000000000 + elapsed.nanos : Int) = difference) ∧
      (start.IsInRange → stop.IsInRange → elapsed.seconds.toUInt64.toNat = elapsed.seconds ∧
        elapsed.nanos.toUInt64.toNat = elapsed.nanos) ∧
      (∀ shift, between (start.moved shift) (stop.moved shift) = elapsed) ∧
      (start.isBefore stop = false → elapsed.toMillis = 0) := by
  intro elapsed difference
  have total : (elapsed.toNanos : Int) = difference := by
    rw [toNanos_between, Int.ofNat_toNat]
  have written : elapsed = ofNanos difference.toNat := by
    rw [← total, Int.toNat_natCast, ofNanos_toNanos]
  refine ⟨?_, ?_, ⟨elapsed.nanos_lt, total⟩, fun first last => ⟨?_, ?_⟩, fun shift => ?_,
    fun notLater => ?_⟩
  · intro world handler handle client trailer failure followed isOpen event duration
    let completion : Completion := ⟨start, stop, trailer, failure⟩
    let progress := world.progressOf handle
    have measured : ((handler.call handle).deliver event progress).2.measurements =
        (handler.call handle).summary completion progress.cell :=
      (Call.deliver_ended followed isOpen rfl).2
    obtain ⟨attributes, counts, summed, others⟩ :=
      (handler.call handle).exists_summary followed completion progress.cell
    refine ⟨attributes, counts, ?_, others⟩
    rw [World.deliver_eq_commit, commit_eq, measured, summed]
    rfl
  · rw [written, toMillis_ofNanos]
  · exact UInt64.toNat_ofNat_of_lt' (seconds_between_lt first last)
  · exact UInt64.toNat_ofNat_of_lt' (Nat.lt_trans elapsed.nanos_lt (by decide))
  · rw [between_eq, Instant.toNanos_moved, Instant.toNanos_moved, Int.add_sub_add_right,
      ← between_eq]
  · have back : stop.toNanos - start.toNanos ≤ 0 := by
      refine Int.sub_nonpos_of_le (Int.not_lt.1 fun later => ?_)
      exact Bool.false_ne_true (notLater.symm.trans (Instant.isBefore_iff.2 later))
    rw [show elapsed = .ofNanos 0 from (between_eq start stop).trans
      (congrArg ofNanos (Int.toNat_of_nonpos back))]
    decide

/-- A call from just before the epoch to just after it: a second is borrowed, and the clock that
goes the other way takes no time. -/
theorem recorded_across_epoch :
    let start : Instant := ⟨-2, 999999999, by decide⟩
    let stop : Instant := ⟨3, 1, by decide⟩
    let tagged := Sample.world.tag Sample.server .empty Sample.rpc Sample.info
    let ended : Event := ⟨false, .ended ⟨start, stop, .empty, none⟩⟩
    (∃ attributes counts,
        (tagged.1.deliver Sample.server tagged.2 ended).meters =
          [⟨⟨"rpc.server.duration", some "ms", .real (millisOf 4000000002).toBits, attributes⟩ ::
            counts⟩]) ∧
      between start stop = ⟨4, 2, by decide⟩ ∧
      (between start stop).seconds.toUInt64.toNat = 4 ∧
      (between stop start).toMillis = 0 := by
  intro start stop tagged ended
  obtain ⟨recorded, converted, -, inWords, -, -⟩ := recorded_by_difference start stop
  obtain ⟨-, -, -, -, -, nothing⟩ := recorded_by_difference stop start
  obtain ⟨attributes, counts, meters, -⟩ :=
    @recorded tagged.1 Sample.server tagged.2 false .empty none rfl rfl
  have exactly : (max (stop.toNanos - start.toNanos) 0).toNat = 4000000002 := by decide
  rw [exactly] at converted
  refine ⟨⟨attributes, counts, ?_⟩, by decide, ?_, nothing (by decide)⟩
  · rw [meters, converted]
    rfl
  · exact (inWords ⟨by decide, by decide⟩ ⟨by decide, by decide⟩).1

end Elapsed

end RpcTelemetry
