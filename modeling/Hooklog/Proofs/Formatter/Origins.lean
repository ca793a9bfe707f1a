import Hooklog.Proofs.Formatter.Remembering

/-!
# Origins of elapsed times

A line shows the time that has passed since two origins: the delay is counted from the base time
and the delta from the entry written before.  This module says what the two are after a run of
calls, from what was called and answered alone.

* `delayOrigin` is the base time set last.  `deltaOrigin` is the time of the last entry since then
  for which a line was returned, or the base time if there is none.
* `TextFormatter.Counted` relates a formatter to its past; every call keeps the relation, whether
  it fails or not.
* `TextFormatter.write_counts_from` is the main statement: the line of an entry is rendered with
  these origins, and they bear on nothing but delta and delay.
-/

namespace Hooklog

/-- Base time that a call sets, if it sets one. -/
def FormatterCall.newBase? : FormatterCall → Option Instant
  | .setBaseTime t => some t
  | _ => none

/-- Time of the entry for which a call returned a line, if it returned one. -/
def writtenTime? : FormatterCall × FormatterAnswer → Option Instant
  | (.write _ e, .line (.ok _)) => some e.time
  | _ => none

/-- Origin of the delay after some calls, the latest one first: the base time set last, or that
of the start. -/
def delayOrigin (start : Instant) (past : List (FormatterCall × FormatterAnswer)) : Instant :=
  (past.findSome? fun p => p.1.newBase?).getD start

/-- Origin of the delta after some calls, the latest one first: the time of the last entry
written since the base time was set, or the base time. -/
def deltaOrigin (start : Instant) (past : List (FormatterCall × FormatterAnswer)) : Instant :=
  ((past.takeWhile fun p => p.1.newBase?.isNone).findSome? writtenTime?).getD
    (delayOrigin start past)

/-! ## The next call -/

section NextCall

variable (start : Instant) (p : FormatterCall × FormatterAnswer)
  (past : List (FormatterCall × FormatterAnswer))

theorem delayOrigin_cons :
    delayOrigin start (p :: past) = p.1.newBase?.getD (delayOrigin start past) := by
  rw [delayOrigin, List.findSome?_cons]
  cases p.1.newBase? with
  | none => rfl
  | some t => rfl

theorem deltaOrigin_cons :
    deltaOrigin start (p :: past) =
      (p.1.newBase?.or (writtenTime? p)).getD (deltaOrigin start past) := by
  rw [deltaOrigin, delayOrigin_cons, List.takeWhile_cons]
  cases hbase : p.1.newBase? with
  | some t => rfl
  | none =>
      rw [Option.isNone_none, if_pos rfl, List.findSome?_cons]
      cases writtenTime? p with
      | none => rfl
      | some t => rfl

end NextCall

/-! ## Views -/

/-- A rendering with a view counts the delta from one instant and the delay from another one,
and uses the origins of the view for nothing else. -/
structure View.CountsFrom (v : View) (e : Entry) (delta delay : Instant) : Prop where
  delta : ∀ spec, spec.token = .delta →
    Line.valueOf v e spec = .ok (Line.elapsed v e.time delta, true)
  delay : ∀ spec, spec.token = .delay →
    Line.valueOf v e spec = .ok (Line.elapsed v e.time delay, true)
  other : ∀ spec, spec.token ≠ .delta → spec.token ≠ .delay → ∀ baseTime last,
    Line.valueOf { v with baseTime := baseTime, last := last } e spec = Line.valueOf v e spec

theorem View.countsFrom (v : View) (e : Entry) : v.CountsFrom e v.last v.baseTime := by
  refine ⟨fun spec hspec => ?_, fun spec hspec => ?_, fun spec hdelta hdelay baseTime last => ?_⟩
  · rw [Line.valueOf, hspec]
  · rw [Line.valueOf, hspec]
  · rw [Line.valueOf, Line.valueOf]
    cases htoken : spec.token with
    | delta => exact absurd htoken hdelta
    | delay => exact absurd htoken hdelay
    | _ => rfl

namespace TextFormatter

/-- What has been called and answered after some more calls, the latest one first. -/
def pastAfter (f : TextFormatter) (past : List (FormatterCall × FormatterAnswer)) :
    List FormatterCall → List (FormatterCall × FormatterAnswer)
  | [] => past
  | c :: rest => (f.perform c).2.pastAfter ((c, (f.perform c).1) :: past) rest

/-- The clock of a formatter stands as its past says. -/
structure Counted (start : Instant) (past : List (FormatterCall × FormatterAnswer))
    (f : TextFormatter) : Prop where
  baseTime : f.baseTime = delayOrigin start past
  last : f.last = deltaOrigin start past

/-! ## One call -/

/-- A compilation changes nothing that a rendering depends on. -/
theorem view_compile (f : TextFormatter) (s : Settings) (k : KeptTemplate) :
    f.compile.2.view s k = f.view s k := by
  rcases f.compile_cases with ⟨k', -, hcompiled⟩ | ⟨error, -, -, hcompiled⟩ |
    ⟨c, -, -, hcompiled⟩
  · rw [hcompiled]
  · rw [hcompiled]
  · rw [hcompiled]
    rfl

theorem clock_compile (f : TextFormatter) :
    f.compile.2.baseTime = f.baseTime ∧ f.compile.2.last = f.last := by
  rcases f.compile_cases with ⟨k, -, hcompiled⟩ | ⟨error, -, -, hcompiled⟩ |
    ⟨c, -, -, hcompiled⟩
  all_goals
    rw [hcompiled]
    exact ⟨rfl, rfl⟩

/-- What a call for a line does: the template is not valid, or its rendering with the view of the
formatter stops, or a line is returned and the time of the entry remembered. -/
theorem write_cases (f : TextFormatter) (s : Settings) (e : Entry) :
    (∃ error, f.compile.1 = .error error ∧
      f.write s e = (.error (.failed error), f.compile.2)) ∨
    (∃ k fault, f.compile.1 = .ok k ∧ Line.render (f.view s k) e k.template = .error fault ∧
      f.write s e = (.error (.stopped fault), f.compile.2.remembering s e k)) ∨
    ∃ k line, f.compile.1 = .ok k ∧ Line.render (f.view s k) e k.template = .ok line ∧
      f.write s e = (.ok line, { f.compile.2.remembering s e k with last := e.time }) := by
  have hview := f.view_compile s
  unfold TextFormatter.write
  generalize f.compile = compiled at *
  obtain ⟨result, f'⟩ := compiled
  cases result with
  | error error => exact .inl ⟨error, rfl, rfl⟩
  | ok k =>
      cases hline : Line.render (f'.view s k) e k.template with
      | error fault =>
          refine .inr (.inl ⟨k, fault, rfl, ?_, ?_⟩)
          · rw [← hview, hline]
          · dsimp only
            rw [hline]
      | ok line =>
          refine .inr (.inr ⟨k, line, rfl, ?_, ?_⟩)
          · rw [← hview, hline]
          · dsimp only
            rw [hline]

/-- Only a line that is returned moves the clock. -/
theorem clock_write (f : TextFormatter) (s : Settings) (e : Entry) :
    (f.write s e).2.baseTime = f.baseTime ∧
      (f.write s e).2.last = if (f.write s e).1.isOk then e.time else f.last := by
  obtain ⟨hbase, hlast⟩ := f.clock_compile
  obtain ⟨error, -, hwrite⟩ | ⟨k, fault, -, -, hwrite⟩ | ⟨k, line, -, -, hwrite⟩ :=
    f.write_cases s e
  all_goals rw [hwrite]
  · exact ⟨hbase, hlast⟩
  · exact ⟨hbase, hlast⟩
  · exact ⟨hbase, rfl⟩

/-- A call sets the base time to the one it is given, and the origin of the delta to this one or
to the time of the entry that it has written. -/
theorem clock_perform (f : TextFormatter) (c : FormatterCall) :
    (f.perform c).2.baseTime = c.newBase?.getD f.baseTime ∧
      (f.perform c).2.last = (c.newBase?.or (writtenTime? (c, (f.perform c).1))).getD f.last := by
  cases c with
  | setTimeLayout layout =>
      rw [perform, setTimeLayout]
      cases layout.validate with
      | error error => exact ⟨rfl, rfl⟩
      | ok _ => exact ⟨rfl, rfl⟩
  | compile => exact f.clock_compile
  | write settings e =>
      obtain ⟨hbase, hlast⟩ := f.clock_write settings e
      refine ⟨hbase, hlast.trans ?_⟩
      change _ = (writtenTime? (.write settings e, .line (f.write settings e).1)).getD f.last
      cases (f.write settings e).1 with
      | error stop => rfl
      | ok line => rfl
  | _ => exact ⟨rfl, rfl⟩

/-! ## Runs -/

namespace Counted

variable {start : Instant} {past : List (FormatterCall × FormatterAnswer)} {f : TextFormatter}

theorem perform (h : Counted start past f) (c : FormatterCall) :
    Counted start ((c, (f.perform c).1) :: past) (f.perform c).2 := by
  obtain ⟨hbase, hlast⟩ := f.clock_perform c
  constructor
  · rw [hbase, delayOrigin_cons, h.baseTime]
  · rw [hlast, deltaOrigin_cons, h.last]

theorem after (h : Counted start past f) (calls : List FormatterCall) :
    Counted start (f.pastAfter past calls) (f.after calls) := by
  induction calls generalizing f past with
  | nil => exact h
  | cons c rest ih => exact ih (h.perform c)

end Counted

/-- The origins of a line are told by the past.  For a formatter whose clock stands at its base
time at first, and after any calls, a line is rendered with the delta counted from the last entry
that was written since the base time was set, or else from the base time, and with the delay
counted from the base time set last. -/
theorem write_counts_from {f : TextFormatter} (hstart : f.last = f.baseTime)
    (calls : List FormatterCall) (s : Settings) (e : Entry) :
    let now := f.after calls
    let past := f.pastAfter [] calls
    now.baseTime = delayOrigin f.baseTime past ∧
      (∀ error, now.compile.1 = .error error → (now.write s e).1 = .error (.failed error)) ∧
      ∀ k, now.compile.1 = .ok k →
        (now.write s e).1 = (Line.render (now.view s k) e k.template).mapError .stopped ∧
          (now.view s k).CountsFrom e (deltaOrigin f.baseTime past)
            (delayOrigin f.baseTime past) := by
  intro now past
  have hcounted : Counted f.baseTime past now := Counted.after ⟨rfl, hstart⟩ calls
  refine ⟨hcounted.baseTime, fun error herror => ?_, fun k hk => ⟨?_, ?_⟩⟩
  · obtain ⟨error', herror', hwrite⟩ | ⟨k, -, hk, -⟩ | ⟨k, -, hk, -⟩ := now.write_cases s e
    · rw [hwrite, ← Except.error.inj (herror'.symm.trans herror)]
    · exact nomatch herror.symm.trans hk
    · exact nomatch herror.symm.trans hk
  · obtain ⟨error, herror, -⟩ | ⟨k', fault, hk', hline, hwrite⟩ |
      ⟨k', line, hk', hline, hwrite⟩ := now.write_cases s e
    · exact nomatch hk.symm.trans herror
    all_goals
      obtain rfl := Except.ok.inj (hk.symm.trans hk')
      rw [hwrite, hline]
      rfl
  · have hview := (now.view s k).countsFrom e
    rw [← hcounted.baseTime, ← hcounted.last]
    exact hview

/-- A formatter of delta and delay. -/
def elapsedTimes : TextFormatter := new false ["%delta% %delay%"] ⟨0, 0⟩

/-- An entry at a second. -/
def entryAt (second : Int) : Entry := ⟨.info, "", ⟨second, 0⟩, "", .empty, none⟩

/-- Settings of a process without a configuration. -/
def plainSettings : Settings := .ofConfig .empty ⟨0, 0⟩ false

/-- An entry at ten seconds, and a later one for which the template is not valid. -/
def failedCalls : List FormatterCall :=
  [.setBaseTime ⟨3, 0⟩, .write plainSettings (entryAt 10), .setFormat ["%message:rouge%"],
    .write plainSettings (entryAt 20), .setFormat ["%delta% %delay%"], .setColor true]

/-- The failed line does not count, and an entry may be earlier than the last one. -/
theorem write_counts_from_failed :
    let now := elapsedTimes.after failedCalls
    let past := elapsedTimes.pastAfter [] failedCalls
    elapsedTimes.last = elapsedTimes.baseTime ∧
      deltaOrigin elapsedTimes.baseTime past = ⟨10, 0⟩ ∧
      delayOrigin elapsedTimes.baseTime past = ⟨3, 0⟩ ∧
      (now.write plainSettings (entryAt 8)).1.toOption = some "-2s 5s\n" ∧
      ∃ k, now.compile.1 = .ok k ∧
        (now.view plainSettings k).CountsFrom (entryAt 8) ⟨10, 0⟩ ⟨3, 0⟩ := by
  intro now past
  have hdelta : deltaOrigin elapsedTimes.baseTime past = ⟨10, 0⟩ := by decide +kernel
  have hdelay : delayOrigin elapsedTimes.baseTime past = ⟨3, 0⟩ := by decide +kernel
  have hok : now.compile.1.isOk = true := by decide +kernel
  obtain ⟨k, hk⟩ := exists_template_of_isOk hok
  obtain ⟨-, -, hline⟩ :=
    write_counts_from (f := elapsedTimes) rfl failedCalls plainSettings (entryAt 8)
  have hcounts := (hline k hk).2
  rw [hdelta, hdelay] at hcounts
  exact ⟨rfl, hdelta, hdelay, by decide +kernel, k, hk, hcounts⟩

end TextFormatter

end Hooklog
