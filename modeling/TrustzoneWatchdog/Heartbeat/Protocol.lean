/-
**The heartbeat protocol: no spurious reset, and a reset exactly nine polls after the last beat.**

While nothing has triggered and nobody restarts TF-A, the register holds the number of beats so far
modulo `2^32` (`heartbeat_eq_count`). An armed monitor remembers the reading of its last poll, and
that reading has not changed since the poll `MissedCount` polls before (`Remembers`). A trigger
therefore needs nine polls with equal readings: `missThreshold` misses after the poll that set the
remembered value. At least one and fewer than `2^32` beats between the first and the last of them
make the readings differ, also when the counter wraps.
-/

import TrustzoneWatchdog.Heartbeat.Monitor

namespace TrustzoneWatchdog.Heartbeat

open TrustzoneWatchdog.Lib.AlarmRun Event

/-! ### What the register and the monitor remember -/

/-- **The register counts the beats**, modulo `2^32`. -/
theorem heartbeat_eq_count (events : List Event) (unrestarted : restart ∉ events)
    (untriggered : Untriggered events) :
    (Sys.after events).ttc2HbSeq = BitVec.ofNat 32 (events.count beat) ∧
      (Sys.after events).ttc2.heartbeat = BitVec.ofNat 32 (events.count beat) := by
  revert unrestarted
  refine untriggered_invariant (fun events s => restart ∉ events →
    s.ttc2HbSeq = BitVec.ofNat 32 (events.count beat) ∧
      s.ttc2.heartbeat = BitVec.ofNat 32 (events.count beat)) ?_ ?_ events untriggered
  · intro _
    exact ⟨rfl, rfl⟩
  · intro before e known silent unrestarted
    have earlier := known fun here => unrestarted (List.mem_append_left _ here)
    cases e with
    | beat =>
      have grown : (before ++ [beat]).count beat = before.count beat + 1 := by simp
      rw [grown, BitVec.ofNat_add, ← earlier.1]
      exact ⟨rfl, rfl⟩
    | restart => exact absurd (List.mem_append_right before (List.mem_singleton_self _)) unrestarted
    | poll =>
      have same : (before ++ [poll]).count beat = before.count beat := by simp
      rw [same, ← earlier.1]
      cases armed : (Sys.after before).monitor.armed with
      | false =>
        obtain ⟨seq, reg, _⟩ := poll_disarmed armed
        exact ⟨seq, reg.trans (earlier.2.trans earlier.1.symm)⟩
      | true =>
        obtain ⟨seq, reg, _⟩ := poll_armed armed silent
        exact ⟨seq, reg.trans (earlier.2.trans earlier.1.symm)⟩

theorem remembers_after (events : List Event) (untriggered : Untriggered events) :
    Remembers poll (fun events => (Sys.after events).ttc2.heartbeat) events
      (Sys.after events).monitor := by
  refine untriggered_invariant (fun events s => Remembers poll _ events s.monitor) .init ?_ events
    untriggered
  intro before e known silent
  cases e with
  | beat => exact known.push beat (by decide)
  | restart => exact known.push restart (by decide)
  | poll => exact known.step rfl silent

/-! ### Polls that read the same value -/

/-- What an armed monitor knows after it has read the register `missed + 1` times since the
register last changed. -/
def Waiting (s : Sys) (missed : Nat) : Prop :=
  s.monitor.armed = true ∧ s.ttc2.heartbeat = s.monitor.prevHbVal ∧
    s.monitor.missedCount.toNat = missed

/-- A waiting monitor triggers at its next poll exactly when this is the eighth miss. -/
theorem Waiting.triggers_iff {s : Sys} {missed : Nat} (waiting : Waiting s missed)
    (few : missed ≤ 7) : s.triggers poll = true ↔ missed = 7 := by
  obtain ⟨armed, same, count⟩ := waiting
  rw [triggers_poll_iff, missThreshold, BitVec.le_def, BitVec.toNat_add, count]
  simp only [armed, same, true_and, BitVec.toNat_ofNat]
  omega

theorem Waiting.poll {s : Sys} {missed : Nat} (waiting : Waiting s missed) (few : missed < 7) :
    Waiting (s.step poll) (missed + 1) := by
  have untriggered : s.triggers Event.poll = false := by
    rw [← Bool.not_eq_true, waiting.triggers_iff (by omega)]
    omega
  obtain ⟨armed, same, count⟩ := waiting
  obtain ⟨_, reg, armed', value, misses⟩ := poll_armed armed untriggered
  refine ⟨armed', reg.trans value.symm, ?_⟩
  rw [misses, if_pos same, BitVec.toNat_add, count]
  simp only [BitVec.toNat_ofNat]
  omega

theorem Waiting.polls {s : Sys} (waiting : Waiting s 0) (k : Nat) (few : k ≤ 7) :
    Waiting (run Sys.step s (List.replicate k Event.poll)) k := by
  induction k with
  | zero => exact waiting
  | succ k ih =>
    rw [List.replicate_succ', run_append]
    exact (ih (by omega)).poll (by omega)

/-- Seven polls of a monitor that has just seen the register change do not trigger. -/
theorem Waiting.silent {s : Sys} (waiting : Waiting s 0) :
    Silent Sys.step Sys.triggers s (List.replicate 7 Event.poll) := by
  rw [silent_iff]
  intro early e late split
  have polls : ∀ e' ∈ early ++ e :: late, e' = Event.poll := fun e' here =>
    List.eq_of_mem_replicate (n := 7) (by rw [split]; exact here)
  have length := congrArg List.length split
  rw [List.length_replicate, List.length_append, List.length_cons] at length
  have isReplicate : early = List.replicate early.length Event.poll :=
    List.eq_replicate_of_mem fun e' here => polls e' (List.mem_append_left _ here)
  rw [polls e (by simp), isReplicate, ← Bool.not_eq_true,
    (waiting.polls early.length (by omega)).triggers_iff (by omega)]
  omega

/-! ### The protocol -/

/-- Between a poll and the eighth poll after it there is at least one beat and fewer than `2^32`. -/
def Fed (events : List Event) : Prop :=
  ∀ before between after, events = before ++ poll :: between ++ poll :: after →
    between.count poll = 7 → 0 < between.count beat ∧ between.count beat < 2 ^ 32

theorem fed_iff {events : List Event} :
    Fed events ↔ ∀ before e between e' after, events = before ++ e :: between ++ e' :: after →
      e = poll → e' = poll → between.count poll = 7 →
        0 < between.count beat ∧ between.count beat < 2 ^ 32 := by
  constructor
  · rintro fed before _ between _ after split rfl rfl
    exact fed before between after split
  · intro each before between after split
    exact each before poll between poll after split rfl rfl

instance (events : List Event) : Decidable (Fed events) :=
  decidable_of_iff' _ (fed_iff.trans forall_window)

/-- Fewer than `2^32` beats fall between two consecutive polls. -/
def Unlapped (events : List Event) : Prop :=
  ∀ before between after, events = before ++ poll :: between ++ poll :: after →
    poll ∉ between → between.count beat < 2 ^ 32

/-- Readings with at least one and fewer than `2^32` beats between them differ. -/
theorem reading_ne {before between : List Event} (unrestarted : restart ∉ before ++ between)
    (untriggered : Untriggered (before ++ between)) (beats : 0 < between.count beat)
    (few : between.count beat < 2 ^ 32) :
    (Sys.after (before ++ between)).ttc2.heartbeat ≠ (Sys.after before).ttc2.heartbeat := by
  rw [(heartbeat_eq_count _ unrestarted untriggered).2,
    (heartbeat_eq_count before (fun here => unrestarted (List.mem_append_left _ here))
      ((silent_append _ _ _).mp untriggered).1).2, List.count_append]
  intro equal
  have values := congrArg BitVec.toNat equal
  simp only [BitVec.toNat_ofNat] at values
  omega

/-- **A heartbeat that arrives in time never causes a reset.** -/
theorem untriggered_of_fed (events : List Event) (unrestarted : restart ∉ events)
    (fed : Fed events) : Untriggered events := by
  induction events using List.reverseRecOn with
  | nil => trivial
  | append_singleton events e ih =>
    have earlier := ih (fun here => unrestarted (List.mem_append_left _ here))
      fun before between after split => fed before between (after ++ [e]) (by rw [split]; simp)
    rw [untriggered_concat]
    refine ⟨earlier, ?_⟩
    by_contra triggered
    rw [Bool.not_eq_false] at triggered
    cases e with
    | beat => exact absurd triggered (by simp [Sys.triggers])
    | restart => exact absurd triggered (by simp [Sys.triggers])
    | poll =>
      obtain ⟨before, between, rfl, seven, equal⟩ :=
        (remembers_after events earlier).nine_readings triggered
      obtain ⟨beats, few⟩ := fed before between [] (by simp) seven
      have counted : (poll :: between).count beat = between.count beat := by simp
      exact reading_ne (fun here => unrestarted (List.mem_append_left _ here)) earlier
        (by rw [counted]; exact beats) (by rw [counted]; exact few) equal

/-- The first poll after a last beat that it can see leaves the monitor armed with no misses. -/
theorem waiting_after_first_poll {before : List Event} (unrestarted : restart ∉ before)
    (untriggered : Untriggered before) (unlapped : Unlapped (before ++ [beat, poll]))
    (visible : (Sys.after before).monitor.armed = true ∨
      (Sys.after (before ++ [beat])).ttc2.heartbeat ≠ 0#32) :
    (Sys.after (before ++ [beat])).triggers poll = false ∧
      Waiting (Sys.after (before ++ [beat, poll])) 0 := by
  have asPoll : before ++ [beat, poll] = (before ++ [beat]) ++ [poll] := by simp
  have silent : Untriggered (before ++ [beat]) := (untriggered_concat _ _).mpr ⟨untriggered, rfl⟩
  have noRestart : restart ∉ before ++ [beat] := by simpa using unrestarted
  have known := remembers_after _ silent
  rw [asPoll, Sys.after_concat (before ++ [beat]) poll]
  cases armed : (Sys.after (before ++ [beat])).monitor.armed with
  | false =>
    have same : (Sys.after (before ++ [beat])).monitor = (Sys.after before).monitor := by
      rw [Sys.after_concat]; rfl
    have nonzero := visible.resolve_left (by rw [← same, armed]; decide)
    obtain ⟨_, reg, misses, arms, value⟩ := poll_disarmed armed
    rw [if_neg nonzero] at value
    refine ⟨?_, arms.trans (bne_iff_ne.mpr nonzero), reg.trans value.symm, ?_⟩
    · rw [← Bool.not_eq_true, triggers_poll_iff, armed]
      simp
    · rw [misses, known.disarmed armed]
      rfl
  | true =>
    obtain ⟨early, between, split, unpolled, read⟩ := known.last armed
    -- the last beat lies after the last poll, so the reading is new
    have beats : 0 < (poll :: between).count beat := by
      refine List.count_pos_iff.mpr ?_
      rcases List.eq_nil_or_concat between with rfl | ⟨rest, e, rfl⟩
      · exact absurd (List.append_inj_right' split rfl) (by decide)
      · have lastEvents := congrArg List.getLast? split
        simp only [List.concat_eq_append, ← List.cons_append, ← List.append_assoc,
          List.getLast?_concat, Option.some.injEq] at lastEvents
        simp [← lastEvents]
    have fewer : (poll :: between).count beat < 2 ^ 32 := by
      have := unlapped early between [] (by rw [asPoll, split]) unpolled
      simpa using this
    have differs : (Sys.after (before ++ [beat])).ttc2.heartbeat ≠
        (Sys.after (before ++ [beat])).monitor.prevHbVal := by
      rw [← read, split]
      rw [split] at noRestart silent
      exact reading_ne noRestart silent beats fewer
    have untriggeredNow : (Sys.after (before ++ [beat])).triggers poll = false := by
      rw [← Bool.not_eq_true, triggers_poll_iff]
      exact fun all => differs all.2.1
    obtain ⟨_, reg, armed', value, misses⟩ := poll_armed armed untriggeredNow
    refine ⟨untriggeredNow, armed', reg.trans value.symm, ?_⟩
    rw [misses, if_neg differs]
    rfl

/-- **The heartbeat protocol.** Without restarts: a run in which every nine consecutive polls see at
least one and fewer than `2^32` beats never triggers; and when the beats stop for good after a run
that has not triggered, with a last beat the monitor can see, the next trigger is at the ninth poll
after it, neither earlier nor later. -/
theorem heartbeat_protocol :
    (∀ events, restart ∉ events → Fed events → Untriggered events) ∧
    (∀ before, restart ∉ before → Untriggered before →
      Unlapped (before ++ [beat, poll]) →
      ((Sys.after before).monitor.armed = true ∨
        (Sys.after (before ++ [beat])).ttc2.heartbeat ≠ 0#32) →
      Untriggered (before ++ beat :: List.replicate 8 poll) ∧
        (Sys.after (before ++ beat :: List.replicate 8 poll)).triggers poll = true) := by
  refine ⟨untriggered_of_fed, fun before unrestarted untriggered unlapped visible => ?_⟩
  obtain ⟨now, waiting⟩ := waiting_after_first_poll unrestarted untriggered unlapped visible
  have polls : before ++ beat :: List.replicate 8 poll =
      (before ++ [beat, poll]) ++ List.replicate 7 poll := by
    simp [List.replicate]
  rw [polls]
  constructor
  · rw [untriggered_append]
    constructor
    · rw [show before ++ [beat, poll] = (before ++ [beat]) ++ [poll] by simp, untriggered_concat,
        untriggered_concat]
      exact ⟨⟨untriggered, rfl⟩, now⟩
    · exact waiting.silent
  · rw [Sys.after_append]
    exact ((waiting.polls 7 le_rfl).triggers_iff le_rfl).mpr rfl

/-- A beat before each of nine polls feeds the monitor; and after one more such pair, eight polls
without a beat are survived and the ninth triggers. -/
theorem heartbeat_protocol_nine_polls :
    Untriggered (List.replicate 9 [beat, poll]).flatten ∧
      (Sys.after ([beat, poll] ++ beat :: List.replicate 8 poll)).triggers poll = true := by
  obtain ⟨safe, prompt⟩ := heartbeat_protocol
  constructor
  · exact safe _ (by decide) (by decide +kernel)
  · refine (prompt [beat, poll] (by decide) ?_ ?_ (Or.inl rfl)).2
    · exact ⟨rfl, rfl, trivial⟩
    · intro before between after split _
      have short := congrArg List.length split
      simp at short
      exact lt_of_le_of_lt List.count_le_length (by omega)

end TrustzoneWatchdog.Heartbeat
