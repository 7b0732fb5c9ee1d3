import Mathlib.Data.List.Induction
import ScriptValues.Console

/-!
The timers of a console over whole runs. A run is a list of calls, each at a reading of the clock,
and its history is the list of answered calls. What one call does to one timer is a lemma with a case
for each kind of call; from it, by induction on the run, a timer is running exactly when the history
says so, and the answer to every further call is read off the history.
-/

namespace ScriptValues

/-- A call with the reading of the clock when it was made and the answer it got. -/
structure Answered where
  call : ConsoleCall
  now : Nat
  answer : ConsoleAnswer

namespace Answered

/-- The call started the timer of a label. -/
def Starts (label : String) (a : Answered) : Prop :=
  ∃ label?, a.call = .time label? ∧ Console.labelText label? = label

/-- The call was to stop the timer of a label and succeeded. -/
def Stops (label : String) (a : Answered) : Prop :=
  ∃ label?, a.call = .timeEnd label? ∧ Console.labelText label? = label ∧
    a.answer.result = .ok none

end Answered

/-- By its history a timer runs since a reading of the clock: the latest call that started it was
made then, and no call after that one has stopped it. -/
def RunningSince (label : String) (start : Nat) (history : List Answered) : Prop :=
  ∃ before latest later, history = before ++ latest :: later ∧ latest.Starts label ∧
    latest.now = start ∧ ∀ a ∈ later, ¬ a.Starts label ∧ ¬ a.Stops label

/-- One more call starts a timer, stops it, or leaves it as it was. -/
theorem runningSince_append_singleton {label : String} {start : Nat} {history : List Answered}
    {a : Answered} :
    RunningSince label start (history ++ [a]) ↔
      (a.Starts label ∧ a.now = start) ∨
        (¬ a.Starts label ∧ ¬ a.Stops label ∧ RunningSince label start history) := by
  constructor
  · rintro ⟨before, latest, later, hsplit, hstarts, hnow, hlater⟩
    rcases List.eq_nil_or_concat later with rfl | ⟨later, last, rfl⟩
    · left
      obtain ⟨-, hlast⟩ := List.append_inj' hsplit rfl
      cases hlast
      exact ⟨hstarts, hnow⟩
    · right
      rw [List.concat_eq_append] at hsplit hlater
      rw [← List.cons_append, ← List.append_assoc] at hsplit
      obtain ⟨hhistory, hlast⟩ := List.append_inj' hsplit rfl
      cases hlast
      obtain ⟨hnoStart, hnoStop⟩ := hlater a (by simp)
      refine ⟨hnoStart, hnoStop, before, latest, later, hhistory, hstarts, hnow, ?_⟩
      intro other hother
      exact hlater other (List.mem_append_left _ hother)
  · rintro (⟨hstarts, hnow⟩ | ⟨hnoStart, hnoStop, hrunning⟩)
    · exact ⟨history, a, [], rfl, hstarts, hnow, by simp⟩
    · obtain ⟨before, latest, later, rfl, hstarts, hnow, hlater⟩ := hrunning
      refine ⟨before, latest, later ++ [a], by simp, hstarts, hnow, ?_⟩
      intro other hother
      rcases List.mem_append.1 hother with hother | hother
      · exact hlater other hother
      · obtain rfl := List.mem_singleton.1 hother
        exact ⟨hnoStart, hnoStop⟩

namespace ConsoleAnswer

/-- A timer was stopped after so many nanoseconds: one line tells the time behind the label, and
only this timer is gone. -/
structure StopsTimer (c : Console) (label : String) (elapsed : Nat) (a : ConsoleAnswer) : Prop where
  succeeds : a.result = .ok none
  prints : a.printed = [⟨.output, .timing label elapsed⟩]
  begins : ∃ rest, (Line.timing label elapsed).render = label ++ rest
  removes : ∀ other, a.console.startOf? other = if other = label then none else c.startOf? other

/-- A timer could not be stopped: nothing changes, and the line for the stream of errors is the
message of the error. -/
structure MissesTimer (c : Console) (label : String) (a : ConsoleAnswer) : Prop where
  unchanged : a.console = c
  prints : a.printed = [⟨.errors, .text ("Timer '" ++ label ++ "' does not exist")⟩]
  fails : ∃ e, a.result = .error e ∧ e.errorClass = .referenceError ∧
    e.message = "Timer '" ++ label ++ "' does not exist"

end ConsoleAnswer

namespace Console

variable {c : Console}

theorem startOf?_dropTimer (label other : String) :
    (c.dropTimer label).startOf? other = if other = label then none else c.startOf? other := by
  unfold startOf? dropTimer
  rw [List.find?_filter]
  by_cases h : other = label
  · subst h
    simp
  · have htests (timer : String × Nat) :
        (timer.1 != label && timer.1 == other) = (timer.1 == other) := by
      by_cases htimer : timer.1 = other <;> simp [htimer, h]
    simp only [Bool.decide_and, Bool.decide_eq_true, htests, if_neg h]

theorem startOf?_time (label? : Option Value) (now : Nat) (other : String) :
    (c.time label? now).startOf? other =
      if other = labelText label? then some now else c.startOf? other := by
  by_cases h : other = labelText label?
  · subst h
    simp [startOf?, time]
  · have hdrop := c.startOf?_dropTimer (labelText label?) other
    rw [if_neg h] at hdrop ⊢
    rw [← hdrop]
    simp [startOf?, time, Ne.symm h]

theorem timeEnd_of_running {label? : Option Value} {start : Nat}
    (h : c.startOf? (labelText label?) = some start) (now : Nat) :
    (c.timeEnd label? now).StopsTimer c (labelText label?) (now - start) := by
  rw [timeEnd, h]
  refine ⟨rfl, rfl, ?_, c.startOf?_dropTimer _⟩
  simp only [Line.render, String.append_assoc]
  exact ⟨_, rfl⟩

theorem timeEnd_of_missing {label? : Option Value} (h : c.startOf? (labelText label?) = none)
    (now : Nat) : (c.timeEnd label? now).MissesTimer c (labelText label?) := by
  rw [timeEnd, h]
  exact ⟨rfl, rfl, _, rfl, rfl, rfl⟩

/-- What one call does to one timer. -/
theorem startOf?_perform (call : ConsoleCall) (now : Nat) (label : String) (start : Nat) :
    let a : Answered := ⟨call, now, c.perform call now⟩
    a.answer.console.startOf? label = some start ↔
      (a.Starts label ∧ a.now = start) ∨
        (¬ a.Starts label ∧ ¬ a.Stops label ∧ c.startOf? label = some start) := by
  intro a
  cases call with
  | time label? =>
      have hstarts : a.Starts label ↔ label = labelText label? := by
        simp [a, Answered.Starts, eq_comm]
      have hstops : ¬ a.Stops label := by simp [a, Answered.Stops]
      change (c.time label? now).startOf? label = some start ↔ _
      rw [startOf?_time, hstarts]
      split <;> simp [a, *]
  | timeEnd label? =>
      have hstarts : ¬ a.Starts label := by simp [a, Answered.Starts]
      have hanswer : a.answer = c.timeEnd label? now := rfl
      cases hrunning : c.startOf? (labelText label?) with
      | none =>
          have hmisses := c.timeEnd_of_missing hrunning now
          have hstops : ¬ a.Stops label := by
            rintro ⟨_, _, _, hresult⟩
            obtain ⟨e, he, -⟩ := hmisses.fails
            rw [hanswer, he] at hresult
            cases hresult
          rw [hanswer, hmisses.unchanged]
          simp [hstarts, hstops]
      | some since =>
          have hends := c.timeEnd_of_running hrunning now
          have hstops : a.Stops label ↔ label = labelText label? := by
            simp [a, Answered.Stops, perform, hends.succeeds, eq_comm]
          rw [hanswer, hends.removes]
          simp only [hstarts, hstops, false_and, false_or, not_false_iff, true_and]
          split <;> simp [*]
  | log | info | debug | warn | error | format =>
      simp [a, Answered.Starts, Answered.Stops, perform]

/-- The console after some calls. -/
def after (c : Console) (calls : List (ConsoleCall × Nat)) : Console :=
  calls.foldl (fun c call => (c.perform call.1 call.2).console) c

/-- Some calls with the answers they get one after the other. -/
def history (c : Console) : List (ConsoleCall × Nat) → List Answered
  | [] => []
  | (call, now) :: calls =>
    let answer := c.perform call now
    ⟨call, now, answer⟩ :: answer.console.history calls

theorem after_append_singleton (calls : List (ConsoleCall × Nat)) (call : ConsoleCall) (now : Nat) :
    c.after (calls ++ [(call, now)]) = ((c.after calls).perform call now).console := by
  simp [after]

theorem history_append_singleton (calls : List (ConsoleCall × Nat)) (call : ConsoleCall)
    (now : Nat) :
    c.history (calls ++ [(call, now)]) =
      c.history calls ++ [⟨call, now, (c.after calls).perform call now⟩] := by
  induction calls generalizing c with
  | nil => rfl
  | cons first calls ih => simp [history, after, ih]

/-- A timer is running, with the reading it started at, exactly when the history says so. -/
theorem startOf?_after_iff (options : ConsoleOptions) (calls : List (ConsoleCall × Nat))
    (label : String) (start : Nat) :
    ((new options).after calls).startOf? label = some start ↔
      RunningSince label start ((new options).history calls) := by
  induction calls using List.reverseRecOn with
  | nil => simp [after, history, startOf?, new, RunningSince]
  | append_singleton calls call ih =>
      obtain ⟨call, now⟩ := call
      rw [after_append_singleton, history_append_singleton, runningSince_append_singleton, ← ih]
      exact startOf?_perform call now label start

theorem labelText_of_ne_undefined {v : Value} (h : v ≠ .undefined) :
    labelText (some v) = v.text := by
  cases v with
  | undefined => exact absurd rfl h
  | _ => rfl

/-- Consoles over whole runs. After any calls on a new console a timer can be stopped exactly when
an earlier call started the timer of the same label text and no call has stopped it since the latest
such call; without a label, or with undefined, the text is `default`, and otherwise the text of the
value. Stopping a timer removes only this one, and one that is not running changes nothing and is a
reference error. Starting a timer prints nothing, and the calls that print their arguments hand over
one line each and leave the timers alone. -/
theorem answers_after (options : ConsoleOptions) (calls : List (ConsoleCall × Nat)) (now : Nat) :
    let c := (new options).after calls
    let running := fun label start => RunningSince label start ((new options).history calls)
    (labelText none = "default" ∧ labelText (some .undefined) = "default" ∧
      ∀ v, v ≠ .undefined → labelText (some v) = v.text) ∧
    (∀ label?,
      let label := labelText label?
      let answer := c.perform (.timeEnd label?) now
      (answer.result = .ok none ↔ ∃ start, running label start) ∧
      (∀ start, running label start → answer.StopsTimer c label (now - start)) ∧
      ((¬ ∃ start, running label start) → answer.MissesTimer c label)) ∧
    (∀ label?, (c.perform (.time label?) now).printed = []) ∧
    (∀ args, ∀ call ∈ [ConsoleCall.log args, .info args, .debug args],
      (c.perform call now).console = c ∧
        ∃ line, (c.perform call now).printed = [⟨.output, line⟩]) ∧
    (∀ args, ∀ call ∈ [ConsoleCall.warn args, .error args],
      (c.perform call now).console = c ∧
        ∃ line, (c.perform call now).printed = [⟨.errors, line⟩]) ∧
    (∀ args, (c.perform (.format args) now).console = c ∧
      (c.perform (.format args) now).printed = []) := by
  intro c running
  refine ⟨⟨rfl, rfl, fun v => labelText_of_ne_undefined⟩, ?_, fun _ => rfl, ?_, ?_,
    fun _ => ⟨rfl, rfl⟩⟩
  · intro label? label answer
    have hrunning : ∀ start, running label start ↔ c.startOf? label = some start := by
      intro start
      exact (startOf?_after_iff options calls label start).symm
    simp only [hrunning]
    cases hstart : c.startOf? label with
    | none =>
        have hmisses : answer.MissesTimer c label := timeEnd_of_missing hstart now
        obtain ⟨e, he, -⟩ := hmisses.fails
        simp [he, hmisses]
    | some since =>
        have hends : answer.StopsTimer c label (now - since) := timeEnd_of_running hstart now
        simp [hends.succeeds, hends]
  · intro args call hcall
    simp only [List.mem_cons, List.not_mem_nil, or_false] at hcall
    rcases hcall with rfl | rfl | rfl <;> exact ⟨rfl, _, rfl⟩
  · intro args call hcall
    simp only [List.mem_cons, List.not_mem_nil, or_false] at hcall
    rcases hcall with rfl | rfl <;> exact ⟨rfl, _, rfl⟩

end Console

end ScriptValues
