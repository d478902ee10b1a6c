import CppOptimizer.Ipc.Reporter

/-!
# CppOptimizer.Ipc.ReportCycles

The log of a run of the periodic reporter, cut off anywhere: it is made of whole cycles and perhaps
the beginning of one, they are spaced by the pacing intervals, and their number is bounded by the
window.

* `attempts_spec`, `reportCycle_spec` — one cycle.
* `reporterLoop_spec` — the loop: the log, and the summary that counts it.
* `report_cycles`     — every run of the function.
-/

namespace CppOptimizer
namespace Ipc

open Common Lib ReporterProg

/-! ## Cycles at the end of the log -/

section Cycles

variable {o : IpcPeriodicReportOptions} {cycles : List Cycle} {c : Cycle}

@[simp] theorem summaryOf_append : summaryOf (cycles ++ [c]) = (summaryOf cycles).count c.reply := by
  simp [summaryOf]

@[simp] theorem failuresInARow_append :
    failuresInARow (cycles ++ [c]) = failuresAfter (failuresInARow cycles) c.reply := by
  simp [failuresInARow]

/-- The summary counts the cycles with a reply and those without. -/
theorem summaryOf_counts (cycles : List Cycle) :
    (summaryOf cycles).reportsSent = cycles.countP (·.reply.isSome) ∧
      (summaryOf cycles).connectFailures = cycles.countP (·.reply.isNone) := by
  induction cycles using List.reverseRecOn with
  | nil => exact ⟨rfl, rfl⟩
  | append_singleton cycles c ih =>
    rw [summaryOf_append, List.countP_append, List.countP_append, ← ih.1, ← ih.2]
    cases hreply : c.reply with
    | none => simp [IpcPeriodicReportSummary.count, hreply]
    | some reply => simp [IpcPeriodicReportSummary.count, hreply]

theorem Spaced.append (h : Spaced o cycles)
    (hlast : ∀ last ∈ cycles.getLast?, last.time + pauseAfter o cycles ≤ c.time) :
    Spaced o (cycles ++ [c]) := by
  intro before a b rest heq
  rcases List.eq_nil_or_concat rest with rfl | ⟨rest, z, rfl⟩
  · have hsplit : cycles ++ [c] = (before ++ [a]) ++ [b] := by rw [heq]; simp
    obtain ⟨rfl, hb⟩ := List.append_inj' hsplit rfl
    cases hb
    exact hlast a (by simp)
  · have hsplit : cycles ++ [c] = (before ++ a :: b :: rest) ++ [z] := by rw [heq]; simp
    obtain ⟨rfl, -⟩ := List.append_inj' hsplit rfl
    exact h before a b rest rfl

end Cycles

/-! ## The log in the world -/

section World

variable {κ : Type} {B : IpcClientBackend κ} {pipePath : WideText}

/-- The log is made of these cycles, and all that was written are frames of the log. -/
structure Logs (cycles : List Cycle) (w : ReporterWorld κ) : Prop where
  log : w.log = cycles.flatMap Cycle.events
  sourced : ∀ bytes ∈ w.client.written, ∃ c ∈ cycles, bytes = c.frame.bytes

theorem Logs.passed {cycles : List Cycle} {w : ReporterWorld κ} (h : Logs cycles w) (nanos : Int) :
    Logs cycles (w.passed nanos) := ⟨h.log, h.sourced⟩

theorem le_passed {t : Int} {w : ReporterWorld κ} (h : t ≤ w.time) {nanos : Int} (hpos : 0 ≤ nanos) :
    t ≤ (w.passed nanos).time := by
  show t ≤ w.time + nanos
  omega

/-- A call writes its frame or nothing. -/
theorem mem_ipcRoundTrip_written {c : Client κ} {type : IpcMessageType} {payload : Bytes}
    {requestId : UInt32} {bytes : Bytes}
    (h : bytes ∈ (c.ipcRoundTrip B pipePath type payload requestId).2.written) :
    bytes ∈ c.written ∨ bytes = makeFrame type requestId payload := by
  unfold Client.ipcRoundTrip at h
  rcases hconnect : B.connect pipePath c.backend with ⟨e | u, s⟩
  · rw [hconnect] at h
    exact .inl h
  · rw [hconnect] at h
    simp only [Client.close] at h
    rw [Client.exchange_written, List.mem_append, List.mem_singleton] at h
    exact h

/-- The cycle after one more attempt. -/
def Cycle.tried (c : Cycle) : Option IpcReply → Cycle
  | none => { c with failed := c.failed + 1 }
  | some reply => { c with reply := some reply }

theorem events_tried {c : Cycle} (hopen : c.reply = none) (reply : Option IpcReply) :
    (c.tried reply).events = c.events ++ [.attempted c.frame reply] := by
  cases reply with
  | none => simp [Cycle.tried, Cycle.events, hopen, List.replicate_succ']
  | some reply => simp [Cycle.tried, Cycle.events, hopen]

theorem frame_tried (c : Cycle) (reply : Option IpcReply) : (c.tried reply).frame = c.frame := by
  cases reply <;> rfl

theorem time_tried (c : Cycle) (reply : Option IpcReply) : (c.tried reply).time = c.time := by
  cases reply <;> rfl

theorem Logs.attempt {cycles : List Cycle} {c : Cycle} {w : ReporterWorld κ}
    (h : Logs (cycles ++ [c]) w) (hopen : c.reply = none) :
    Logs (cycles ++ [c.tried (w.attempt B pipePath c.frame).1.toOption])
      (w.attempt B pipePath c.frame).2 := by
  constructor
  · show w.log ++ [_] = _
    rw [h.log, List.flatMap_append, List.flatMap_append, List.flatMap_singleton,
      List.flatMap_singleton, events_tried hopen, List.append_assoc]
    rfl
  · intro bytes hbytes
    rcases mem_ipcRoundTrip_written hbytes with hold | rfl
    · obtain ⟨d, hd, rfl⟩ := h.sourced bytes hold
      rw [List.mem_append, List.mem_singleton] at hd
      rcases hd with hd | rfl
      · exact ⟨d, List.mem_append_left _ hd, rfl⟩
      · exact ⟨_, List.mem_append_right _ (List.mem_singleton_self _), by rw [frame_tried]⟩
    · exact ⟨_, List.mem_append_right _ (List.mem_singleton_self _), by rw [frame_tried]; rfl⟩

theorem Logs.asked {cycles : List Cycle} {w : ReporterWorld κ} (h : Logs cycles w)
    (frame : IpcFrameRequest) :
    Logs (cycles ++ [{ time := w.time, frame := frame }]) (w.asked (.ok frame)) := by
  constructor
  · show w.log ++ [_] = _
    rw [h.log, List.flatMap_append, List.flatMap_singleton]
    rfl
  · intro bytes hbytes
    obtain ⟨d, hd, rfl⟩ := h.sourced bytes hbytes
    exact ⟨d, List.mem_append_left _ hd, rfl⟩

end World

/-! ## One cycle -/

section Cycle

variable {κ : Type} {B : IpcClientBackend κ} {pipePath : WideText} {o : IpcPeriodicReportOptions}
  {ok : ReporterWorld κ → ReporterCall → ReporterChoice → Prop}

/-- The log ends with this cycle, which began before now. -/
def Ends (cycles : List Cycle) (c : Cycle) (w : ReporterWorld κ) : Prop :=
  Logs (cycles ++ [c]) w ∧ c.time ≤ w.time

theorem Ends.passed {cycles : List Cycle} {c : Cycle} {w : ReporterWorld κ} (h : Ends cycles c w)
    {nanos : Int} (hpos : 0 ≤ nanos) : Ends cycles c (w.passed nanos) :=
  ⟨h.1.passed nanos, le_passed h.2 hpos⟩

theorem now_spec {P : ReporterWorld κ → Prop} {C : ReporterWorld κ → Prop}
    (hC : ∀ w, P w → C w) (hP : ∀ w (nanos : Nat), P w → P (w.passed nanos)) :
    Triple (reporterHandler B pipePath) ok P now
      (fun time w => P w ∧ time ≤ w.time) C := by
  refine Triple.perform hC fun w c hw _ => ⟨hP w c.elapsed hw, ?_⟩
  exact le_passed le_rfl (by omega)

/-- A reading from which window and intervals fit. -/
theorem fits_spec (hclock : ∀ w e c, ok w e c → InRange o w e c) {P : ReporterWorld κ → Prop}
    {C : ReporterWorld κ → Prop} (hC : ∀ w, P w → C w)
    (hP : ∀ w (nanos : Nat), P w → P (w.passed nanos)) :
    Triple (reporterHandler B pipePath) ok P now
      (fun time w => P w ∧ time ≤ w.time ∧ o.FitsAt time) C := by
  refine Triple.perform hC fun w c hw hok => ⟨hP w c.elapsed hw, ?_, hclock _ _ _ hok⟩
  exact le_passed le_rfl (by omega)

theorem sleep_spec {millis : Int} {P : ReporterWorld κ → Prop} {C : ReporterWorld κ → Prop}
    (hC : ∀ w, P w → C w) (hP : ∀ w (nanos : Nat), P w → P (w.passed nanos)) :
    Triple (reporterHandler B pipePath) ok P (sleepFor millis) (fun _ => P) C := by
  refine Triple.perform hC fun w c hw _ => ?_
  have hnanos : max 0 millis * kNanosPerMilli + c.elapsed =
      ((max 0 millis * kNanosPerMilli).toNat + c.elapsed : Nat) := by
    have : 0 ≤ max 0 millis * kNanosPerMilli :=
      mul_nonneg (le_max_left 0 millis) (by decide)
    omega
  show P (w.passed (max 0 millis * kNanosPerMilli + c.elapsed))
  rw [hnanos]
  exact hP w _ hw

/-- A frame is tried at most so many times more, and no more after a reply. -/
theorem attempts_spec {deadline : Int} {cycles : List Cycle} (left : Nat) {c : Cycle}
    (hopen : c.reply = none) :
    Triple (reporterHandler B pipePath) ok (Ends cycles c) (attempts o deadline c.frame left)
      (fun reply w => ∃ n, n + reply.toList.length ≤ c.failed + left ∧
        Ends cycles { c with failed := n, reply := reply } w)
      (fun w => ∃ n, n ≤ c.failed + left ∧ Ends cycles { c with failed := n } w) := by
  induction left generalizing c with
  | zero =>
    refine Triple.ret fun w hw => ⟨c.failed, le_rfl, ?_⟩
    rw [← hopen]
    exact hw
  | succ left ih =>
    have hstart : ∀ w : ReporterWorld κ, Ends cycles c w →
        ∃ n, n ≤ c.failed + (left + 1) ∧ Ends cycles { c with failed := n } w :=
      fun w hw => ⟨c.failed, by omega, hw⟩
    refine Triple.bind (now_spec hstart fun w nanos hw => hw.passed (by omega)) fun time => ?_
    refine Triple.pre (P := Ends cycles c) ?_ fun w hw => hw.1
    split
    · refine Triple.ret fun w hw => ⟨c.failed, by simp, ?_⟩
      rw [← hopen]
      exact hw
    · have htrip : Triple (reporterHandler B pipePath) ok (Ends cycles c) (roundTrip c.frame)
          (fun r w => Ends cycles (c.tried r.toOption) w)
          (fun w => ∃ n, n ≤ c.failed + (left + 1) ∧ Ends cycles { c with failed := n } w) := by
        refine Triple.perform hstart fun w choice hw _ => ?_
        refine Ends.passed ⟨hw.1.attempt hopen, ?_⟩ (by omega)
        rw [time_tried]
        exact hw.2
      refine htrip.bind fun r => ?_
      cases r with
      | ok reply =>
        refine Triple.ret fun w hw => ⟨c.failed, ?_, hw⟩
        show c.failed + 1 ≤ c.failed + (left + 1)
        omega
      | error e =>
        have hmore : ∀ w : ReporterWorld κ, (∃ n, n ≤ c.failed + 1 + left ∧
            Ends cycles { c with failed := n } w) →
            ∃ n, n ≤ c.failed + (left + 1) ∧ Ends cycles { c with failed := n } w :=
          fun w ⟨n, hn, hw⟩ => ⟨n, by omega, hw⟩
        have hagain := ih (c := c.tried none) hopen
        refine Triple.bind (M := fun _ => Ends cycles (c.tried none)) ?_ fun _ =>
          Triple.conseq hagain (fun _ hw => hw) (fun reply w ⟨n, hn, hw⟩ => ⟨n, ?_, hw⟩) hmore
        · have hcut : ∀ w : ReporterWorld κ, Ends cycles (c.tried none) w →
              ∃ n, n ≤ c.failed + (left + 1) ∧ Ends cycles { c with failed := n } w :=
            fun w hw => ⟨c.failed + 1, by omega, hw⟩
          split
          · exact sleep_spec hcut fun w nanos hw => hw.passed (by omega)
          · exact Triple.ret fun w hw => hw
        · have hn : n + reply.toList.length ≤ c.failed + 1 + left := hn
          omega

theorem sampleIdle_spec {hasIdleProvider : Bool} {P : ReporterWorld κ → Prop}
    {C : ReporterWorld κ → Prop} (hC : ∀ w, P w → C w)
    (hP : ∀ w (nanos : Nat), P w → P (w.passed nanos)) :
    Triple (reporterHandler B pipePath) ok P (sampleIdle o hasIdleProvider) (fun _ => P) C := by
  unfold sampleIdle
  split
  · refine Triple.bind (M := fun _ => P) (Triple.perform hC fun w c hw _ => hP w c.elapsed hw)
      fun r => ?_
    cases r <;> exact Triple.ret fun w hw => hw
  · exact Triple.ret fun w hw => hw

/-- Settings as the types of their fields have them. -/
structure IpcPeriodicReportOptions.Valid (o : IpcPeriodicReportOptions) : Prop where
  interval : 0 < o.interval
  pacing : o.pacing.Valid

theorem plusMillis_eq {time millis : Int} (htime : 0 ≤ time) (hmillis : 0 ≤ millis)
    (hend : time + millis * kNanosPerMilli < 2 ^ 63) :
    plusMillis time millis = time + millis * kNanosPerMilli := by
  have hnanos : 0 ≤ millis * kNanosPerMilli := mul_nonneg hmillis (by decide)
  have hproduct : toInt64 (millis * kNanosPerMilli) = millis * kNanosPerMilli :=
    toInt64_of_isInt64 ⟨by omega, by omega⟩
  rw [plusMillis, hproduct, toInt64_of_isInt64 ⟨by omega, hend⟩]

/-- The next slot is no overflow, and a back-off of the failures away. -/
theorem nextSlot_isSome (ho : o.Valid) {time : Int} (hfits : o.FitsAt time) (failures : Nat)
    (idle : Option { seconds : Int // IsInt64 seconds }) :
    ∃ gap, ipcReportNextGap failures o.interval (idle.map (·.1)) o.pacing = some gap ∧
      time + nextGap failures o.interval none o.pacing * kNanosPerMilli ≤ plusMillis time gap := by
  refine ⟨_, nextGap_eq ho.interval ho.pacing failures fun i hi => ?_, ?_⟩
  · obtain ⟨seconds, -, rfl⟩ := Option.mem_map.mp hi
    exact seconds.2
  · have hbase := base_le_nextGap (o := o.pacing) ho.interval failures (idle.map (·.1))
    have hnext : nextGap failures o.interval none o.pacing ≤
        nextGap failures o.interval (idle.map (·.1)) o.pacing :=
      nextGap_mono ho.interval le_rfl trivial
    have hhighest :=
      nextGap_le_highestGap (o := o.pacing) ho.interval failures (idle.map (·.1))
    generalize nextGap failures o.interval (idle.map (·.1)) o.pacing = gap at *
    have hnanos : gap * kNanosPerMilli ≤ highestGap o.interval o.pacing * kNanosPerMilli :=
      Int.mul_le_mul_of_nonneg_right hhighest (by decide)
    have hpos : 0 ≤ gap := by have := ho.interval; omega
    rw [plusMillis_eq hfits.start hpos (by have := hfits.interval; omega)]
    exact Int.add_le_add_left (Int.mul_le_mul_of_nonneg_right hnext (by decide)) _

/-- The variables of the loop after some cycles. -/
structure Counts (cycles : List Cycle) (v : ReporterLoop) : Prop where
  summary : v.summary = summaryOf cycles
  failures : v.consecutiveFailures = failuresInARow cycles

theorem reportCycle_spec (ho : o.Valid) (hclock : ∀ w e c, ok w e c → InRange o w e c)
    {hasIdleProvider : Bool} {deadline : Int}
    {cycles : List Cycle} {time : Int} {frame : IpcFrameRequest} {v : ReporterLoop}
    (hv : Counts cycles v) :
    Triple (reporterHandler B pipePath) ok (Ends cycles { time := time, frame := frame })
      (reportCycle o hasIdleProvider deadline frame v)
      (fun r w => ∃ c : Cycle, c.time = time ∧ c.attempts ≤ o.maxConnectAttempts ∧
        Logs (cycles ++ [c]) w ∧ ∃ v', r = some v' ∧ Counts (cycles ++ [c]) v' ∧
          time + pauseAfter o (cycles ++ [c]) ≤ v'.nextSlot)
      (fun w => ∃ c : Cycle, c.time = time ∧ c.attempts ≤ o.maxConnectAttempts ∧
        Logs (cycles ++ [c]) w) := by
  refine Triple.bind (Triple.conseq
    (attempts_spec (c := { time := time, frame := frame }) o.maxConnectAttempts rfl)
    (fun _ hw => hw) (fun _ _ hw => hw) ?_) fun reply => ?_
  · rintro w ⟨n, hn, hw⟩
    refine ⟨_, rfl, ?_, hw.1⟩
    have hn : n ≤ 0 + o.maxConnectAttempts := hn
    show n + 0 ≤ o.maxConnectAttempts
    omega
  · -- from here on the cycle is complete
    let Full (w : ReporterWorld κ) : Prop := ∃ n, n + reply.toList.length ≤ o.maxConnectAttempts ∧
      Ends cycles { time := time, frame := frame, failed := n, reply := reply } w
    have hcut : ∀ w, Full w → ∃ c : Cycle, c.time = time ∧ c.attempts ≤ o.maxConnectAttempts ∧
        Logs (cycles ++ [c]) w := fun w ⟨n, hn, hw⟩ =>
      ⟨{ time := time, frame := frame, failed := n, reply := reply }, rfl, hn, hw.1⟩
    have hpassed : ∀ w (nanos : Nat), Full w → Full (w.passed nanos) :=
      fun w nanos ⟨n, hn, hw⟩ => ⟨n, hn, hw.passed (by omega)⟩
    refine Triple.pre (P := Full) ?_ fun w ⟨n, hn, hw⟩ => ⟨n, by simpa using hn, hw⟩
    refine Triple.bind (sampleIdle_spec hcut hpassed) fun idleSeconds =>
      Triple.bind (M := fun reading w => Full w ∧ time ≤ reading ∧ o.FitsAt reading) ?_
        fun reading => Triple.ret ?_
    · refine Triple.perform hcut fun w c hw hok => ⟨hpassed w c.elapsed hw, ?_, hclock _ _ _ hok⟩
      obtain ⟨n, -, hends⟩ := hw
      exact hends.2
    · rintro w ⟨⟨n, hn, hw⟩, hreading, hfits⟩
      refine ⟨{ time := time, frame := frame, failed := n, reply := reply }, rfl, hn, hw.1, ?_⟩
      obtain ⟨gap, hgap, hle⟩ :=
        nextSlot_isSome ho hfits (failuresAfter v.consecutiveFailures reply) idleSeconds
      refine ⟨_, by rw [hgap]; rfl, ⟨?_, ?_⟩, ?_⟩
      · rw [summaryOf_append, ← hv.summary]
      · rw [failuresInARow_append, ← hv.failures]
      · rw [pauseAfter, failuresInARow_append, ← hv.failures]
        exact le_trans (Int.add_le_add_right hreading _) hle

end Cycle

/-! ## The loop -/

section Loop

variable {κ : Type} {B : IpcClientBackend κ} {pipePath : WideText} {o : IpcPeriodicReportOptions}
  {ok : ReporterWorld κ → ReporterCall → ReporterChoice → Prop}

/-- The loop between two turns. -/
structure Turn (o : IpcPeriodicReportOptions) (deadline : Int) (cycles : List Cycle)
    (v : ReporterLoop) : Prop where
  reported : Reported o cycles
  counts : Counts cycles v
  last : ∀ last ∈ cycles.getLast?, last.time + pauseAfter o cycles ≤ v.nextSlot
  /-- A base interval for every cycle. -/
  counted : deadline - o.window * kNanosPerMilli +
    cycles.length * (o.interval * kNanosPerMilli) ≤ v.nextSlot

theorem interval_le_pauseAfter (ho : o.Valid) (cycles : List Cycle) :
    o.interval * kNanosPerMilli ≤ pauseAfter o cycles :=
  Int.mul_le_mul_of_nonneg_right (base_le_nextGap ho.interval _ none) (by decide)

/-- A cycle that begins at its time and before the deadline. -/
theorem Turn.reported_append {deadline reading : Int} {cycles : List Cycle} {v : ReporterLoop}
    (h : Turn o deadline cycles v) {c : Cycle} (hattempts : c.attempts ≤ o.maxConnectAttempts)
    (hslot : v.nextSlot ≤ reading) (hdeadline : reading < deadline) (hc : reading ≤ c.time) :
    Reported o (cycles ++ [c]) := by
  refine ⟨fun d hd => ?_, ?_, fun n hn => ?_⟩
  · rcases List.mem_append.mp hd with hd | hd
    · exact h.reported.attempts d hd
    · rw [List.mem_singleton.mp hd]
      exact hattempts
  · exact h.reported.spaced.append fun last hlast =>
      le_trans (h.last last hlast) (le_trans hslot hc)
  · rw [List.length_append, List.length_singleton] at hn
    have hcounted := h.counted
    have hlength : (cycles.length : Int) = n := by omega
    rw [hlength] at hcounted
    have hlt : n * o.interval * kNanosPerMilli < o.window * kNanosPerMilli := by
      rw [mul_assoc]
      omega
    exact lt_of_mul_lt_mul_right hlt (by decide)

theorem Turn.next {deadline : Int} (ho : o.Valid) {cycles : List Cycle} {v v' : ReporterLoop}
    (h : Turn o deadline cycles v) {c : Cycle} (hreported : Reported o (cycles ++ [c]))
    (hc : v.nextSlot ≤ c.time) (hcounts : Counts (cycles ++ [c]) v')
    (hslot : c.time + pauseAfter o (cycles ++ [c]) ≤ v'.nextSlot) :
    Turn o deadline (cycles ++ [c]) v' := by
  refine ⟨hreported, hcounts, fun last hlast => ?_, ?_⟩
  · rw [List.getLast?_append_of_ne_nil _ (List.cons_ne_nil c []), List.getLast?_singleton,
      Option.mem_some_iff] at hlast
    rw [← hlast]
    exact hslot
  · have hcounted := h.counted
    have hinterval := interval_le_pauseAfter ho (cycles ++ [c])
    rw [List.length_append, List.length_singleton, Nat.cast_add, Nat.cast_one, add_mul, one_mul]
    omega

/-- The log when the function has ended so. -/
def EndsWith (cycles : List Cycle) (e : ReporterEnd) (w : ReporterWorld κ) : Prop :=
  match e with
  | .done (.ok summary) => w.log = cycles.flatMap Cycle.events ++ [.closed] ∧
      summary = summaryOf cycles ∧ ∀ bytes ∈ w.client.written, ∃ c ∈ cycles, bytes = c.frame.bytes
  | .overflow => False
  | _ => Logs cycles w

/-- What the log shows of a frame that was asked for. -/
def Asked (cycles : List Cycle) (reading : Int) (r : Result IpcFrameRequest)
    (w : ReporterWorld κ) : Prop :=
  (∀ frame, r = .ok frame → ∃ time, reading ≤ time ∧
    Ends cycles { time := time, frame := frame } w) ∧
  ∀ e, r = .error e → Logs cycles w

theorem request_spec {cycles : List Cycle} (reading : Int) {C : ReporterWorld κ → Prop}
    (hC : ∀ w, Logs cycles w ∧ reading ≤ w.time → C w) :
    Triple (reporterHandler B pipePath) ok (fun w => Logs cycles w ∧ reading ≤ w.time) request
      (Asked cycles reading) C := by
  refine Triple.perform hC fun w c hw _ => ?_
  show Asked cycles reading c.request ((w.asked c.request).passed c.elapsed)
  constructor
  · intro frame hframe
    rw [hframe]
    exact ⟨w.time, hw.2, (hw.1.asked frame).passed _, le_passed le_rfl (by omega)⟩
  · intro e he
    rw [he]
    exact hw.1.passed _

theorem reporterLoop_spec (ho : o.Valid) (hclock : ∀ w e c, ok w e c → InRange o w e c)
    {hasIdleProvider : Bool} {deadline : Int} (fuel : Nat) {cycles : List Cycle} {v : ReporterLoop} (hv : Turn o deadline cycles v) :
    Triple (reporterHandler B pipePath) ok (Logs cycles)
      (reporterLoop o hasIdleProvider deadline fuel v)
      (fun e w => ∃ cycles, Reported o cycles ∧ EndsWith cycles e w)
      (fun w => ∃ cycles, Reported o cycles ∧ Logs cycles w) := by
  induction fuel generalizing cycles v with
  | zero => exact Triple.ret fun w hw => ⟨cycles, hv.reported, hw⟩
  | succ fuel ih =>
    have hcut : ∀ w : ReporterWorld κ, Logs cycles w →
        ∃ cycles, Reported o cycles ∧ Logs cycles w := fun w hw => ⟨cycles, hv.reported, hw⟩
    have hpassed : ∀ (w : ReporterWorld κ) (nanos : Nat), Logs cycles w →
        Logs cycles (w.passed nanos) := fun w nanos hw => hw.passed nanos
    refine Triple.bind (now_spec hcut hpassed) fun reading => ?_
    split
    · refine Triple.bind (M := fun _ w => EndsWith cycles (.done (.ok v.summary)) w) ?_ fun _ =>
        Triple.ret fun w hw => ⟨cycles, hv.reported, hw⟩
      refine Triple.perform (fun w hw => hcut w hw.1) fun w c hw _ => ⟨?_, hv.counts.summary, ?_⟩
      · show w.log ++ [.closed] = _
        rw [hw.1.log]
      · exact hw.1.sourced
    · case _ hopen =>
      split
      · exact Triple.bind (Triple.pre (sleep_spec hcut hpassed) fun w hw => hw.1) fun _ => ih hv
      · case _ hdue =>
        refine Triple.bind (request_spec reading fun w hw => hcut w hw.1) fun r => ?_
        cases r with
        | error e => exact Triple.ret fun w hw => ⟨cycles, hv.reported, hw.2 e rfl⟩
        | ok frame =>
          refine Triple.pre (Triple.exists fun time => ?_) fun w hw => hw.1 frame rfl
          refine Triple.assume (fun w hw => hw.1) fun htime =>
            Triple.pre (P := Ends cycles { time := time, frame := frame }) ?_ fun w hw => hw.2
          have happend : ∀ c : Cycle, c.time = time → c.attempts ≤ o.maxConnectAttempts →
              Reported o (cycles ++ [c]) := fun c hc hattempts =>
            hv.reported_append hattempts (not_lt.mp hdue) (not_le.mp hopen) (hc ▸ htime)
          refine Triple.bind (Triple.conseq (reportCycle_spec ho hclock hv.counts) (fun _ hw => hw)
            (fun _ _ hw => hw) fun w ⟨c, hc, hattempts, hw⟩ =>
              ⟨_, happend c hc hattempts, hw⟩) fun r => Triple.exists fun c => ?_
          refine Triple.assume (φ := c.time = time ∧ c.attempts ≤ o.maxConnectAttempts ∧
              ∃ v', r = some v' ∧ Counts (cycles ++ [c]) v' ∧
                time + pauseAfter o (cycles ++ [c]) ≤ v'.nextSlot)
            (fun w hw => ⟨hw.1, hw.2.1, hw.2.2.2⟩) fun hfacts =>
              Triple.pre (P := Logs (cycles ++ [c])) ?_ fun w hw => hw.2.2.1
          obtain ⟨hc, hattempts, v', rfl, hcounts, hslot⟩ := hfacts
          rw [← hc] at hslot
          refine ih (hv.next ho (happend c hc hattempts) ?_ hcounts hslot)
          rw [hc]
          exact le_trans (not_lt.mp hdue) htime

theorem deadline_eq {start : Int} (hsettings : ¬ (o.window ≤ 0 ∨ o.interval ≤ 0 ∨ o.ioTimeout ≤ 0 ∨
    o.maxConnectAttempts = 0)) (hfits : o.FitsAt start) :
    plusMillis start o.window = start + o.window * kNanosPerMilli :=
  plusMillis_eq hfits.start (by omega) hfits.window

theorem reported_nil : Reported o [] :=
  ⟨fun c hc => absurd hc List.not_mem_nil,
    fun before c d rest h => absurd h.symm (List.append_ne_nil_of_right_ne_nil _ (List.cons_ne_nil _ _)),
    fun n h => by cases h⟩

theorem runPeriodicReporter_spec (ho : o.Valid) (hclock : ∀ w e c, ok w e c → InRange o w e c)
    (hasRequestFactory hasIdleProvider : Bool) (fuel : Nat) :
    Triple (reporterHandler B pipePath) ok (Logs [])
      (runPeriodicReporter o hasRequestFactory hasIdleProvider fuel)
      (fun e w => ∃ cycles, Reported o cycles ∧ EndsWith cycles e w)
      (fun w => ∃ cycles, Reported o cycles ∧ Logs cycles w) := by
  have hcut : ∀ w : ReporterWorld κ, Logs [] w → ∃ cycles, Reported o cycles ∧ Logs cycles w :=
    fun w hw => ⟨[], reported_nil, hw⟩
  unfold runPeriodicReporter
  split
  · exact Triple.ret fun w hw => ⟨[], reported_nil, hw⟩
  · case _ hsettings =>
    split
    · exact Triple.ret fun w hw => ⟨[], reported_nil, hw⟩
    · refine Triple.bind (fits_spec hclock hcut fun w nanos hw => hw.passed nanos) fun start =>
        Triple.bind (M := fun reading w => Logs [] w ∧ start ≤ reading ∧ o.FitsAt start) ?_
          fun nextSlot => ?_
      · exact Triple.perform (fun w hw => hcut w hw.1) fun w c hw _ => ⟨hw.1.passed _, hw.2⟩
      · refine Triple.assume (fun w hw => hw.2) fun hstart =>
          Triple.pre (reporterLoop_spec ho hclock fuel ?_) fun w hw => hw.1
        have hdeadline := deadline_eq hsettings hstart.2
        refine ⟨reported_nil, ⟨rfl, rfl⟩, fun last hlast => (by cases hlast), ?_⟩
        simp only [List.length_nil, Nat.cast_zero, zero_mul, add_zero]
        omega

/-! ## It comes to an end -/

/-- Reading the clock takes some time. -/
def Ticking (_ : ReporterWorld κ) (e : ReporterCall) (c : ReporterChoice) : Prop :=
  match e with
  | .now => 0 < c.elapsed
  | _ => True

/-- No call turns the clock back. -/
theorem time_spec {α : Type} {t : Int} (p : ReporterProg α) :
    Triple (reporterHandler B pipePath) ok (fun w => t ≤ w.time) p (fun _ w => t ≤ w.time)
      fun _ => True := by
  induction p with
  | ret a => exact Triple.ret fun w hw => hw
  | call e k ih =>
    refine Triple.call (fun _ _ => trivial) fun r => Triple.pre (ih r) ?_
    rintro w' ⟨w, c, hw, -, heq⟩
    have hstep : w.time ≤ ((reporterHandler B pipePath).answer w e c).2.time := by
      have helapsed : w.time ≤ w.time + (c.elapsed : Int) := by omega
      cases e with
      | sleepFor millis =>
        have hnonneg : 0 ≤ max 0 millis * kNanosPerMilli :=
          mul_nonneg (le_max_left 0 millis) (by decide)
        show w.time ≤ w.time + (max 0 millis * kNanosPerMilli + c.elapsed)
        omega
      | request =>
        have hasked : (w.asked c.request).time = w.time := by
          cases c.request <;> rfl
        show w.time ≤ (w.asked c.request).time + c.elapsed
        rw [hasked]
        exact helapsed
      | now | roundTrip | idle | close => exact helapsed
    rw [heq] at hstep
    exact le_trans hw hstep

/-- A turn for every nanosecond up to the deadline is enough. -/
theorem reporterLoop_returns (hticks : ∀ w e c, ok w e c → Ticking w e c) {hasIdleProvider : Bool} {deadline : Int} (fuel : Nat)
    {v : ReporterLoop} {t : Int} (hfuel : max 0 (deadline - t) < fuel) :
    Triple (reporterHandler B pipePath) ok (fun w => t ≤ w.time)
      (reporterLoop o hasIdleProvider deadline fuel v) (fun e _ => e ≠ .outOfFuel)
      fun _ => True := by
  induction fuel generalizing t v with
  | zero => omega
  | succ fuel ih =>
    refine Triple.bind (M := fun reading w => t ≤ reading ∧ reading + 1 ≤ w.time) ?_ fun reading => ?_
    · refine Triple.perform (fun _ _ => trivial) fun w c hw hc => ⟨hw, ?_⟩
      have hc : 0 < c.elapsed := hticks _ _ _ hc
      show w.time + 1 ≤ w.time + c.elapsed
      omega
    · refine Triple.assume (fun w hw => hw.1) fun ht =>
        Triple.pre (P := fun w => reading + 1 ≤ w.time) ?_ fun w hw => hw.2
      split
      · exact Triple.bind (time_spec _) fun _ => Triple.ret fun w _ => by simp
      · case _ hopen =>
        have hmore : ∀ v, Triple (reporterHandler B pipePath) ok (fun w => reading + 1 ≤ w.time)
            (reporterLoop o hasIdleProvider deadline fuel v) (fun e _ => e ≠ .outOfFuel)
            fun _ => True := fun v => ih (by omega)
        split
        · exact Triple.bind (time_spec _) fun _ => hmore v
        · refine Triple.bind (time_spec _) fun r => ?_
          cases r with
          | error e => exact Triple.ret fun w _ => by simp
          | ok frame =>
            refine Triple.bind (time_spec _) fun r => ?_
            cases r with
            | none => exact Triple.ret fun w _ => by simp
            | some v => exact hmore v

theorem runPeriodicReporter_returns (hclock : ∀ w e c, ok w e c → InRange o w e c)
    (hticks : ∀ w e c, ok w e c → Ticking w e c) (hasRequestFactory hasIdleProvider : Bool)
    {fuel : Nat} (hfuel : max 0 (o.window * kNanosPerMilli) < fuel) :
    Triple (reporterHandler B pipePath) ok (fun _ => True)
      (runPeriodicReporter o hasRequestFactory hasIdleProvider fuel) (fun e _ => e ≠ .outOfFuel)
      fun _ => True := by
  unfold runPeriodicReporter
  split
  · exact Triple.ret fun w _ => by simp
  · case _ hsettings =>
    split
    · exact Triple.ret fun w _ => by simp
    · refine Triple.bind (fits_spec hclock (fun _ _ => trivial) fun w nanos hw => hw) fun start => ?_
      refine Triple.assume (fun w hw => hw.2.2) fun hfits => Triple.pre (P := fun w => start ≤ w.time)
        (Triple.bind (time_spec _) fun nextSlot => reporterLoop_returns hticks fuel ?_)
        fun w hw => hw.2.1
      have hdeadline := deadline_eq hsettings hfits
      omega

end Loop

/-! ## Every run -/

theorem summaryOf_lastReplyAck (cycles : List Cycle) :
    (summaryOf cycles).lastReplyAck =
      (cycles.filterMap (·.reply)).getLast?.any (·.type == .ack) := by
  induction cycles using List.reverseRecOn with
  | nil => rfl
  | append_singleton cycles c ih =>
    rw [summaryOf_append, List.filterMap_append]
    cases hreply : c.reply with
    | none => simp [IpcPeriodicReportSummary.count, hreply, ih]
    | some reply => simp [IpcPeriodicReportSummary.count, hreply]

/-- Whatever the factory, the pipe and the clock do, and wherever the process is killed, as long as the
clock is not read too late for the window and the longest interval: the log is made of cycles with at
most the allowed attempts, each of them a base interval and the back-off of the failures before it
after its predecessor, and fewer than a window of base intervals after the first; only frames of these
cycles are written; a run that ends regularly has counted them exactly and has closed the backend
after them, one whose factory fails has not; no interval overflows, and if reading the clock takes any
time, a turn for each nanosecond of the window is enough. -/
theorem report_cycles {κ : Type} (B : IpcClientBackend κ) (pipePath : WideText)
    {o : IpcPeriodicReportOptions} (ho : o.Valid) (hasRequestFactory hasIdleProvider : Bool)
    (fuel : Nat) (time : Int) (backend : κ) (cs : List ReporterChoice)
    (hclock : (runPeriodicReporter o hasRequestFactory hasIdleProvider fuel).Answered
      (reporterHandler B pipePath) (InRange o) { time := time, client := { backend := backend } } cs) :
    ∃ cycles w' r, (runPeriodicReporter o hasRequestFactory hasIdleProvider fuel).run
        (reporterHandler B pipePath) { time := time, client := { backend := backend } } cs = (w', r) ∧
      Reported o cycles ∧ (∀ bytes ∈ w'.client.written, ∃ c ∈ cycles, bytes = c.frame.bytes) ∧
      (∀ s, r = some (.done (.ok s)) → w'.log = cycles.flatMap Cycle.events ++ [.closed] ∧
        s.reportsSent = cycles.countP (·.reply.isSome) ∧
        s.connectFailures = cycles.countP (·.reply.isNone) ∧
        s.lastReplyAck = (cycles.filterMap (·.reply)).getLast?.any (·.type == .ack)) ∧
      ((∀ s, r ≠ some (.done (.ok s))) → w'.log = cycles.flatMap Cycle.events) ∧
      r ≠ some .overflow ∧
      ((runPeriodicReporter o hasRequestFactory hasIdleProvider fuel).Answered
          (reporterHandler B pipePath) Ticking
          { time := time, client := { backend := backend } } cs →
        max 0 (o.window * kNanosPerMilli) < fuel → r ≠ some .outOfFuel) := by
  have hstart : Logs [] ({ time := time, client := { backend := backend } } : ReporterWorld κ) :=
    ⟨rfl, fun bytes h => absurd h List.not_mem_nil⟩
  have hspec := @runPeriodicReporter_spec κ B pipePath o _ ho (fun _ _ _ h => h) hasRequestFactory
    hasIdleProvider fuel _ cs hstart hclock
  rcases hr : (runPeriodicReporter o hasRequestFactory hasIdleProvider fuel).run
    (reporterHandler B pipePath) { time := time, client := { backend := backend } } cs with ⟨w', _ | e⟩
  · rw [hr] at hspec
    obtain ⟨cycles, hreported, hlogs⟩ := hspec
    exact ⟨cycles, w', none, rfl, hreported, hlogs.sourced, fun s h => (by cases h),
      fun _ => hlogs.log, by simp, fun _ _ => by simp⟩
  · rw [hr] at hspec
    obtain ⟨cycles, hreported, hend⟩ := hspec
    have hfuel : (runPeriodicReporter o hasRequestFactory hasIdleProvider fuel).Answered
        (reporterHandler B pipePath) Ticking
        { time := time, client := { backend := backend } } cs →
        max 0 (o.window * kNanosPerMilli) < fuel → some e ≠ some ReporterEnd.outOfFuel := by
      intro hans hfuel
      have hreturns := @runPeriodicReporter_returns κ B pipePath o _ (fun _ _ _ h => h.1)
        (fun _ _ _ h => h.2) hasRequestFactory hasIdleProvider fuel hfuel _ cs trivial (hclock.and hans)
      rw [hr] at hreturns
      exact fun h => hreturns (Option.some_inj.mp h)
    rcases e with ⟨error | s⟩ | _ | _
    · exact ⟨cycles, w', _, rfl, hreported, hend.sourced, fun s h => (by cases h),
        fun _ => hend.log, by simp, hfuel⟩
    · obtain ⟨hlog, hsummary, hsourced⟩ := hend
      refine ⟨cycles, w', _, rfl, hreported, hsourced, ?_, fun h => absurd rfl (h s), by simp, hfuel⟩
      rintro s' h
      cases h
      obtain ⟨hsent, hfailures⟩ := summaryOf_counts cycles
      rw [hsummary]
      exact ⟨hlog, hsent, hfailures, summaryOf_lastReplyAck cycles⟩
    · exact hend.elim
    · exact ⟨cycles, w', _, rfl, hreported, hend.sourced, fun s h => (by cases h),
        fun _ => hend.log, by simp, hfuel⟩

/-- A window of one second and a half, one attempt for a frame, and a back-off up to five seconds. -/
def shortReport : IpcPeriodicReportOptions :=
  { window := 1500, intervalCap := 5000, maxConnectAttempts := 1 }

/-- Every call takes two milliseconds. -/
def shortChoices : List ReporterChoice := List.replicate 18 { elapsed := 2000000 }

/-- The host answers once and is gone then: one report sent, one given up. -/
theorem report_cycles_short : ∃ cycles w',
    (runPeriodicReporter shortReport true false 5).run (reporterHandler obliging [])
      { client := { backend := [1] } } shortChoices = (w', some (.done (.ok ⟨1, 1, true⟩))) ∧
      Reported shortReport cycles ∧ (∀ bytes ∈ w'.client.written, ∃ c ∈ cycles, bytes = c.frame.bytes) ∧
      w'.log = cycles.flatMap Cycle.events ++ [.closed] ∧
      cycles.countP (·.reply.isSome) = 1 ∧ cycles.countP (·.reply.isNone) = 1 := by
  have ho : shortReport.Valid :=
    ⟨by decide, ⟨by decide, by decide, by decide, by decide⟩⟩
  obtain ⟨cycles, w', r, hr, hreported, hwritten, hdone, -, -, -⟩ :=
    report_cycles obliging [] ho true false 5 0 [1] shortChoices (by decide)
  have hresult : r = some (.done (.ok ⟨1, 1, true⟩)) := (congrArg Prod.snd hr).symm.trans rfl
  obtain ⟨hlog, hsent, hfailures, -⟩ := hdone _ hresult
  exact ⟨cycles, w', hresult ▸ hr, hreported, hwritten, hlog, hsent.symm, hfailures.symm⟩

end Ipc
end CppOptimizer
