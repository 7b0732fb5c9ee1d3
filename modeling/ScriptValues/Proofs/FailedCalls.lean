import Mathlib.Data.List.Nodup
import Mathlib.Tactic.Linarith
import ScriptValues.Invocation

/-!
Calls by name that fail. Each table is searched by names that do not repeat, and the only methods
that can fail are repeating a text and, on arrays, the three that take a callback. What a method of a
table does is said once, by one lemma for each table, and the failing calls are read off from there:
they are listed by receiver, name and arguments, and a failure leaves receiver and host alone.
-/

namespace ScriptValues

section Tables

variable {α : Type} {table : List α} {label : α → String} {key : String}

/-- In a table that is complete and repeats no name, a name is found exactly at its own entry. -/
theorem find?_label_eq_some_iff (complete : ∀ m, m ∈ table) (distinct : (table.map label).Nodup)
    {m : α} : table.find? (fun n => label n == key) = some m ↔ label m = key := by
  constructor
  · intro h
    simpa using List.find?_some h
  · intro h
    obtain ⟨found, hfound⟩ : ∃ found, table.find? (fun n => label n == key) = some found := by
      rw [← Option.isSome_iff_exists, List.find?_isSome]
      exact ⟨m, complete m, by simpa using h⟩
    have hlabel : label found = label m := by
      rw [h]
      simpa using List.find?_some hfound
    rw [hfound, List.inj_on_of_nodup_map distinct (complete found) (complete m) hlabel]

theorem find?_label_eq_none_iff :
    table.find? (fun n => label n == key) = none ↔ key ∉ table.map label := by
  simp [List.find?_eq_none]

end Tables

theorem StringMethod.ofName?_eq_some_iff {name : String} {m : StringMethod} :
    ofName? name = some m ↔ m.name = name :=
  find?_label_eq_some_iff (fun m => by cases m <;> decide) (by decide)

theorem ArrayMethod.ofName?_eq_some_iff {name : String} {m : ArrayMethod} :
    ofName? name = some m ↔ m.name = name :=
  find?_label_eq_some_iff (fun m => by cases m <;> decide) (by decide)

/-- The names in the method table of a kind. -/
def Kind.methodNames : Kind → List String
  | .boolean => BooleanMethod.all.map (·.name)
  | .number => NumberMethod.all.map (·.name)
  | .string => StringMethod.all.map (·.name)
  | .array => ArrayMethod.all.map (·.name)
  | .undefined | .null | .symbol | .object | .function => []

theorem Method.find?_eq_none_iff (kind : Kind) (name : String) :
    find? kind name = none ↔ name ∉ kind.methodNames := by
  cases kind with
  | boolean => rw [find?, Option.map_eq_none_iff]; exact find?_label_eq_none_iff
  | number => rw [find?, Option.map_eq_none_iff]; exact find?_label_eq_none_iff
  | string => rw [find?, Option.map_eq_none_iff]; exact find?_label_eq_none_iff
  | array => rw [find?, Option.map_eq_none_iff]; exact find?_label_eq_none_iff
  | undefined | null | symbol | object | function => simp [find?, Kind.methodNames]

theorem ExtendedInt.saturate_neg_iff (n : Int) : (ofInt n).saturate < 0 ↔ n < 0 := by
  have hleast : wordMin < 0 := by decide
  have hmost : 0 ≤ wordMax := by decide
  rw [saturate]
  split
  · omega
  · split <;> omega

namespace Text

/-- The counts that a text cannot be repeated by, each with the error. -/
inductive CountRefused (s : String) : ExtendedInt → ScriptError → Prop
  | negInfinity : CountRefused s .negInfinity (.badCount .negInfinity)
  | posInfinity : CountRefused s .posInfinity (.badCount .posInfinity)
  | negative {n : Int} (hn : n < 0) : CountRefused s (.ofInt n) (.badCount (.ofInt n))
  | tooLong {n : Int} (hs : s ≠ "") (hn : 2 ≤ n) (hlong : maxBytes < n * s.utf8ByteSize) :
      CountRefused s (.ofInt n) .textTooLong

theorem times?_eq_none_iff (s : String) (n : Int) :
    times? s n = none ↔ s ≠ "" ∧ 2 ≤ n ∧ (maxBytes : Int) < n * s.utf8ByteSize := by
  by_cases hempty : s = ""
  · simp [times?, hempty]
  · by_cases hfew : n < 2
    · have hsome : times? s n ≠ none := by
        unfold times?
        split
        · simp
        · rw [if_pos (Or.inr (by omega))]
          simp
      simp only [hsome, false_iff]
      omega
    · obtain ⟨count, rfl⟩ : ∃ count : Nat, n = count := ⟨n.toNat, by omega⟩
      have hsize : (count : Int) * s.utf8ByteSize = (s.utf8ByteSize * count : Nat) := by
        rw [Nat.cast_mul, Int.mul_comm]
      have hcond : ¬ (s.isEmpty = true ∨ (count : Int) = 1) := by
        simp [hempty]
        omega
      rw [times?, if_neg (by omega), if_neg hcond, hsize, Int.toNat_natCast, Int.ofNat_lt]
      simp [hempty]
      omega

/-- Cutting a count down to a word does not make a text fit that would be too long. -/
theorem tooLong_saturate {s : String} (hs : s ≠ "") {n : Int} (hn : ExtendedInt.wordMax < n) :
    (maxBytes : Int) < ExtendedInt.wordMax * s.utf8ByteSize ∧
      (maxBytes : Int) < n * s.utf8ByteSize := by
  have hsize : 1 ≤ (s.utf8ByteSize : Int) := by
    have : s.utf8ByteSize ≠ 0 := by simpa using hs
    omega
  have hword : (maxBytes : Int) < ExtendedInt.wordMax := by decide
  generalize ExtendedInt.wordMax = word at *
  have hlong : (maxBytes : Int) < word * s.utf8ByteSize :=
    lt_of_lt_of_le hword (le_mul_of_one_le_right (by omega) hsize)
  exact ⟨hlong, lt_of_lt_of_le hlong (mul_le_mul_of_nonneg_right hn.le (by omega))⟩

theorem times?_saturate_eq_none_iff (s : String) {n : Int} (hn : 0 ≤ n) :
    times? s (ExtendedInt.ofInt n).saturate = none ↔
      s ≠ "" ∧ 2 ≤ n ∧ (maxBytes : Int) < n * s.utf8ByteSize := by
  have hleast : ExtendedInt.wordMin < 0 := by decide
  have hmost : 2 ≤ ExtendedInt.wordMax := by decide
  rw [times?_eq_none_iff, ExtendedInt.saturate, if_neg (by omega)]
  split
  · next hlarge =>
    constructor
    · rintro ⟨hs, -, -⟩
      exact ⟨hs, by omega, (tooLong_saturate hs hlarge).2⟩
    · rintro ⟨hs, -, -⟩
      exact ⟨hs, hmost, (tooLong_saturate hs hlarge).1⟩
  · rfl

theorem timesOrError_eq_error_iff (s : String) (count : ExtendedInt) (e : ScriptError) :
    timesOrError s count = .error e ↔ CountRefused s count e := by
  cases count with
  | negInfinity =>
      have hneg : ExtendedInt.negInfinity.saturate < 0 := by decide
      rw [timesOrError, if_pos (Or.inr hneg)]
      constructor
      · rintro ⟨⟩
        exact .negInfinity
      · rintro ⟨⟩
        rfl
  | posInfinity =>
      rw [timesOrError, if_pos (Or.inl rfl)]
      constructor
      · rintro ⟨⟩
        exact .posInfinity
      · rintro ⟨⟩
        rfl
  | ofInt n =>
      by_cases hn : n < 0
      · rw [timesOrError, if_pos (Or.inr ((ExtendedInt.saturate_neg_iff n).2 hn))]
        constructor
        · rintro ⟨⟩
          exact .negative hn
        · intro h
          cases h with
          | negative => rfl
          | tooLong hs htwo hlong => omega
      · have hcount :
            ¬ (ExtendedInt.ofInt n = .posInfinity ∨ (ExtendedInt.ofInt n).saturate < 0) := by
          rw [ExtendedInt.saturate_neg_iff]
          simp [hn]
        rw [timesOrError, if_neg hcount]
        have hnone := times?_saturate_eq_none_iff s (Int.not_lt.1 hn)
        generalize times? s (ExtendedInt.ofInt n).saturate = repeated at hnone
        constructor
        · intro h
          cases repeated with
          | some text => cases h
          | none =>
              obtain ⟨hs, htwo, hlong⟩ := hnone.1 rfl
              cases h
              exact .tooLong hs htwo hlong
        · intro h
          cases h with
          | negative hneg => exact absurd hneg hn
          | tooLong hs htwo hlong => rw [hnone.2 ⟨hs, htwo, hlong⟩]

theorem CountRefused.errorClass_eq {s : String} {count : ExtendedInt} {e : ScriptError}
    (h : CountRefused s count e) : e.errorClass = .rangeError := by
  cases h <;> rfl

end Text

/-- The only method of texts that can fail is repeating. -/
theorem StringMethod.run_eq_error_iff (m : StringMethod) (s : String) (args : List Value)
    (e : ScriptError) :
    m.run s args = .error e ↔
      m = .repeat ∧ Text.CountRefused s (argument args 0).toExtendedInt e := by
  by_cases hm : m = .repeat
  · rw [hm, run, ← Text.timesOrError_eq_error_iff]
    cases Text.timesOrError s (argument args 0).toExtendedInt with
    | error cause => simp [Except.map]
    | ok text => simp [Except.map]
  · constructor
    · intro h
      cases m with
      | «repeat» => exact absurd rfl hm
      | _ => cases h
    · rintro ⟨rfl, -⟩
      exact absurd rfl hm

namespace ArrayMethod

variable {σ : Type}

/-- The methods that call a function with the elements. -/
def takesCallback : ArrayMethod → Bool
  | .filter | .forEach | .map => true
  | _ => false

/-- The methods that leave another array behind. -/
def changesArray : ArrayMethod → Bool
  | .pop | .push | .remove | .reverse | .shift | .splice | .unshift => true
  | _ => false

theorem withCallback_of_function {vs args : List Value} {f : Function}
    (hf : argument args 0 = .function f) (body : Function → StateM σ Value) (state : σ) :
    (withCallback vs args body).run state =
      ((.ok ((body f).run state).1, vs), ((body f).run state).2) := by
  rw [withCallback, hf]
  rfl

theorem withCallback_of_not_function {vs args : List Value}
    (hf : ∀ f, argument args 0 ≠ .function f) (body : Function → StateM σ Value) (state : σ) :
    (withCallback vs args body).run state =
      ((.error (.notCallable (argument args 0)), vs), state) := by
  unfold withCallback
  cases hfirst : argument args 0 with
  | function f => exact absurd hfirst (hf f)
  | _ => rfl

/-- What a method of arrays does: it asks in vain for a callback and nothing happens, or it
succeeds and the array is another one only after the methods that change it. -/
theorem run_cases (m : ArrayMethod) (host : Host σ) (vs args : List Value) (state : σ) :
    (m.takesCallback = true ∧ (∀ f, argument args 0 ≠ .function f) ∧
      (m.run host vs args).run state =
        ((.error (.notCallable (argument args 0)), vs), state)) ∨
    ((m.takesCallback = true → ∃ f, argument args 0 = .function f) ∧
      ∃ v after later, (m.run host vs args).run state = ((.ok v, after), later) ∧
        (m.changesArray = false → after = vs)) := by
  by_cases hcallback : m.takesCallback = true
  · by_cases hf : ∃ f, argument args 0 = .function f
    · right
      refine ⟨fun _ => hf, ?_⟩
      obtain ⟨f, hf⟩ := hf
      cases m with
      | filter | forEach | map =>
          exact ⟨_, _, _, withCallback_of_function hf _ state, fun _ => rfl⟩
      | _ => cases hcallback
    · left
      have hf : ∀ f, argument args 0 ≠ .function f := not_exists.1 hf
      refine ⟨hcallback, hf, ?_⟩
      cases m with
      | filter | forEach | map => exact withCallback_of_not_function hf _ state
      | _ => cases hcallback
  · right
    refine ⟨fun h => absurd h hcallback, ?_⟩
    cases m with
    | filter | forEach | map => exact absurd rfl hcallback
    | pop | push | remove | reverse | shift | splice | unshift =>
        exact ⟨_, _, _, rfl, fun h => nomatch h⟩
    | _ => exact ⟨_, _, _, rfl, fun _ => rfl⟩

end ArrayMethod

/-- The calls by name that fail, each with its error. -/
inductive Refused : Value → String → List Value → ScriptError → Prop
  | nullish {receiver : Value} {name : String} {args : List Value}
      (h : receiver = .undefined ∨ receiver = .null) :
      Refused receiver name args (.nullishReceiver receiver name)
  | noMethod {receiver : Value} {name : String} {args : List Value}
      (hu : receiver ≠ .undefined) (hn : receiver ≠ .null)
      (h : name ∉ receiver.kind.methodNames) :
      Refused receiver name args (.missingMethod receiver.kind name)
  | callback {vs : List Value} {name : String} {args : List Value}
      (hname : name ∈ ["filter", "map", "forEach"])
      (h : ∀ f, argument args 0 ≠ .function f) :
      Refused (.array vs) name args (.notCallable (argument args 0))
  | count {s : String} {args : List Value} {e : ScriptError}
      (h : Text.CountRefused s (argument args 0).toExtendedInt e) :
      Refused (.string s) "repeat" args e

namespace Refused

variable {receiver : Value} {name : String} {args : List Value} {e : ScriptError}

theorem ne_wrongReceiver (h : Refused receiver name args e) (owner : MethodOwner) :
    e ≠ .wrongReceiver owner := by
  cases h with
  | nullish | noMethod | callback => nofun
  | count h =>
      rintro rfl
      cases h.errorClass_eq

/-- Only repeating a text fails with a range error. -/
theorem errorClass_eq (h : Refused receiver name args e) :
    e.errorClass =
      if receiver.kind = .string ∧ name = "repeat" then .rangeError else .typeError := by
  cases h with
  | nullish h =>
      have hkind : receiver.kind ≠ .string := by
        rcases h with rfl | rfl <;> nofun
      rw [if_neg fun h => hkind h.1]
      rfl
  | noMethod hu hn h =>
      have hname : ¬ (receiver.kind = .string ∧ name = "repeat") := by
        rintro ⟨hkind, rfl⟩
        rw [hkind] at h
        exact h (by decide)
      rw [if_neg hname]
      rfl
  | callback => rfl
  | count h => exact h.errorClass_eq

end Refused

namespace Value

variable {σ : Type} {receiver : Value} {name : String} {args : List Value}

theorem isNullish_iff (v : Value) : v.isNullish = true ↔ v = .undefined ∨ v = .null := by
  cases v <;> simp [isNullish, kind]

/-- A method that is found is run. -/
theorem invoke_of_find? {m : Method} (hm : Method.find? receiver.kind name = some m)
    (host : Host σ) : receiver.invoke name args host = m.run receiver args host := by
  have hnullish : ¬ receiver.isNullish = true := by
    rw [isNullish_iff]
    rintro (rfl | rfl) <;> cases hm
  rw [invoke, if_neg hnullish, hm]

theorem find?_array (m : ArrayMethod) (vs : List Value) :
    Method.find? (Value.array vs).kind m.name = some (.array m) := by
  change (ArrayMethod.ofName? m.name).map Method.array = some (.array m)
  rw [ArrayMethod.ofName?_eq_some_iff.2 rfl]
  rfl

/-- Strings run the method of a name. -/
theorem invoke_string (m : StringMethod) (s : String) (args : List Value) (host : Host σ) :
    (Value.string s).invoke m.name args host = pure ⟨m.run s args, .string s⟩ := by
  have hfind : Method.find? (Value.string s).kind m.name = some (.string m) := by
    change (StringMethod.ofName? m.name).map Method.string = some (.string m)
    rw [StringMethod.ofName?_eq_some_iff.2 rfl]
    rfl
  exact invoke_of_find? hfind host

/-- So do arrays, which may be others afterwards. -/
theorem invoke_array {m : ArrayMethod} {vs args : List Value} {host : Host σ}
    {outcome : ArrayMethod.Outcome} (h : m.run host vs args = pure outcome) :
    (Value.array vs).invoke m.name args host = pure ⟨outcome.1, .array outcome.2⟩ := by
  rw [invoke_of_find? (find?_array m vs) host, Method.run, h, pure_bind]

/-- A refused call has its error and changes nothing. -/
theorem invoke_of_refused {e : ScriptError} (h : Refused receiver name args e) (host : Host σ)
    (state : σ) : (receiver.invoke name args host).run state = (⟨.error e, receiver⟩, state) := by
  cases h with
  | nullish h =>
      rw [invoke, if_pos ((isNullish_iff receiver).2 h)]
      rfl
  | noMethod hu hn h =>
      have hnullish : ¬ receiver.isNullish = true := by
        rw [isNullish_iff, not_or]
        exact ⟨hu, hn⟩
      rw [invoke, if_neg hnullish, (Method.find?_eq_none_iff _ _).2 h]
      rfl
  | @callback vs name args hname h =>
      obtain ⟨m, hm, hcallback⟩ : ∃ m : ArrayMethod,
          Method.find? (Value.array vs).kind name = some (.array m) ∧ m.takesCallback = true := by
        simp only [List.mem_cons, List.not_mem_nil, or_false] at hname
        rcases hname with rfl | rfl | rfl
        · exact ⟨.filter, rfl, rfl⟩
        · exact ⟨.map, rfl, rfl⟩
        · exact ⟨.forEach, rfl, rfl⟩
      rw [invoke_of_find? hm]
      rcases m.run_cases host vs args state with ⟨-, -, hrun⟩ | ⟨hf, -⟩
      · rw [Method.run, StateT.run_bind, hrun]
        rfl
      · obtain ⟨f, hf⟩ := hf hcallback
        exact absurd hf (h f)
  | @count s args e h =>
      have hm : Method.find? (Value.string s).kind "repeat" = some (.string .repeat) := rfl
      have hrun := (StringMethod.run_eq_error_iff .repeat s args e).2 ⟨rfl, h⟩
      rw [invoke_of_find? hm, Method.run, hrun]
      rfl

/-- A call by name is refused, or it succeeds and the receiver is another value only after the
methods that change an array. -/
theorem invoke_cases (receiver : Value) (name : String) (args : List Value) (host : Host σ)
    (state : σ) :
    (∃ e, Refused receiver name args e) ∨
    ∃ v after later, (receiver.invoke name args host).run state = (⟨.ok v, after⟩, later) ∧
      (after ≠ receiver → receiver.kind = .array ∧
        name ∈ ["push", "pop", "shift", "unshift", "remove", "reverse", "splice"]) := by
  by_cases hnullish : receiver.isNullish = true
  · exact .inl ⟨_, .nullish ((isNullish_iff receiver).1 hnullish)⟩
  · cases hm : Method.find? receiver.kind name with
    | none =>
        rw [isNullish_iff, not_or] at hnullish
        exact .inl ⟨_, .noMethod hnullish.1 hnullish.2 ((Method.find?_eq_none_iff _ _).1 hm)⟩
    | some m =>
        rw [invoke_of_find? hm]
        cases receiver with
        | undefined | null | symbol s | object o | function f => cases hm
        | boolean b =>
            obtain ⟨m, -, rfl⟩ := Option.map_eq_some_iff.1 hm
            exact .inr ⟨_, _, _, rfl, fun h => absurd rfl h⟩
        | number x =>
            obtain ⟨m, -, rfl⟩ := Option.map_eq_some_iff.1 hm
            exact .inr ⟨_, _, _, rfl, fun h => absurd rfl h⟩
        | string s =>
            obtain ⟨m, hname, rfl⟩ := Option.map_eq_some_iff.1 hm
            cases hresult : m.run s args with
            | error e =>
                obtain ⟨rfl, hcount⟩ := (StringMethod.run_eq_error_iff m s args e).1 hresult
                rw [StringMethod.ofName?_eq_some_iff] at hname
                subst hname
                exact .inl ⟨e, .count hcount⟩
            | ok v =>
                refine .inr ⟨v, .string s, state, ?_, fun h => absurd rfl h⟩
                rw [Method.run, hresult]
                rfl
        | array vs =>
            obtain ⟨m, hname, rfl⟩ := Option.map_eq_some_iff.1 hm
            rw [ArrayMethod.ofName?_eq_some_iff] at hname
            subst hname
            rcases m.run_cases host vs args state with
              ⟨hcallback, hf, -⟩ | ⟨-, v, after, later, hrun, hsame⟩
            · left
              refine ⟨_, .callback ?_ hf⟩
              cases m with
              | filter | forEach | map => decide
              | _ => cases hcallback
            · right
              refine ⟨v, .array after, later, ?_, fun hchanged => ⟨rfl, ?_⟩⟩
              · rw [Method.run, StateT.run_bind, hrun]
                rfl
              · have hchanges : m.changesArray = true := by
                  by_contra hno
                  rw [hsame (Bool.eq_false_iff.2 hno)] at hchanged
                  exact hchanged rfl
                cases m with
                | pop | push | remove | reverse | shift | splice | unshift => decide
                | _ => cases hchanges

/-- Calls by name fail exactly in the listed cases, never because a method was run on a value of
another kind, and a failing call changes neither the receiver nor the state of the host, which no
callback has seen. After a call that succeeds the receiver is another value only if it is an array
and the method one of those that change arrays. -/
theorem invoke_eq_error_iff (receiver : Value) (name : String) (args : List Value) (host : Host σ)
    (state : σ) :
    let outcome := (receiver.invoke name args host).run state
    (∀ e, outcome.1.result = .error e ↔ Refused receiver name args e) ∧
    (∀ e, outcome.1.result = .error e →
      outcome.1.receiver = receiver ∧ outcome.2 = state ∧ (∀ owner, e ≠ .wrongReceiver owner) ∧
      e.errorClass =
        if receiver.kind = .string ∧ name = "repeat" then .rangeError else .typeError) ∧
    (∀ v, outcome.1.result = .ok v → outcome.1.receiver ≠ receiver →
      receiver.kind = .array ∧
        name ∈ ["push", "pop", "shift", "unshift", "remove", "reverse", "splice"]) := by
  intro outcome
  rcases invoke_cases receiver name args host state with ⟨e, he⟩ | ⟨v, after, later, hrun, hkept⟩
  · have hrun : outcome = (⟨.error e, receiver⟩, state) := invoke_of_refused he host state
    refine ⟨fun e' => ⟨?_, ?_⟩, ?_, ?_⟩
    · intro h
      rw [hrun] at h
      cases h
      exact he
    · intro he'
      exact congrArg (·.1.result) (invoke_of_refused he' host state)
    · intro e' h
      rw [hrun] at h ⊢
      cases h
      exact ⟨rfl, rfl, he.ne_wrongReceiver, he.errorClass_eq⟩
    · intro v h
      rw [hrun] at h
      cases h
  · have hrun : outcome = (⟨.ok v, after⟩, later) := hrun
    refine ⟨fun e => ⟨?_, ?_⟩, ?_, ?_⟩
    · intro h
      rw [hrun] at h
      cases h
    · intro he
      exact congrArg (·.1.result) (invoke_of_refused he host state)
    · intro e h
      rw [hrun] at h
      cases h
    · intro w _ hchanged
      rw [hrun] at hchanged
      exact hkept hchanged

end Value

end ScriptValues
