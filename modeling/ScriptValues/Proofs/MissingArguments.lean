import ScriptValues.Proofs.FailedCalls

/-!
Missing arguments. Nearly every method reads its arguments by place, and a place behind the last
argument holds undefined, so arguments that are undefined may be added at the end or left out. The
exceptions are the methods that go through all of their arguments, whatever their number, and for
each of them one more undefined makes a difference.
-/

namespace ScriptValues

section Places

variable {args others : List Value}

/-- Lists of arguments that cannot be told apart by reading them by place. -/
def SamePlaces (args others : List Value) : Prop := ∀ i, argument args i = argument others i

theorem samePlaces_append_undefined (args : List Value) (count : Nat) :
    SamePlaces (args ++ List.replicate count .undefined) args := by
  intro i
  simp only [argument, List.getD_eq_getElem?_getD, List.getElem?_append, List.getElem?_replicate]
  split
  · rfl
  · next hi =>
    rw [List.getElem?_eq_none (Nat.le_of_not_lt hi)]
    split <;> rfl

/-- The methods of strings that go through all of their arguments. -/
def StringMethod.takesAll (m : StringMethod) : Bool := m = .concat

/-- The methods of arrays that go through all of their arguments. Splicing reads its first two by
place, but it asks whether they are there. -/
def ArrayMethod.takesAll : ArrayMethod → Bool
  | .concat | .push | .splice | .unshift => true
  | _ => false

def Method.takesAll : Method → Bool
  | .boolean _ | .number _ => false
  | .string m => m.takesAll
  | .array m => m.takesAll

theorem GlobalFunction.run_congr (h : SamePlaces args others) (g : GlobalFunction) :
    g.run args = g.run others := by
  cases g with
  | isFinite | isNaN | parseFloat => rw [run, run, h 0]
  | parseInt => rw [run, run, h 0, h 1]

theorem NumberMethod.run_congr (h : SamePlaces args others) (m : NumberMethod) (x : Double) :
    m.run x args = m.run x others := by
  cases m with
  | toExponential | toFixed | toPrecision | toString => rw [run, run, h 0]
  | toLocaleString | valueOf => rfl

theorem StringMethod.run_congr (h : SamePlaces args others) {m : StringMethod}
    (hm : m.takesAll = false) (s : String) : m.run s args = m.run s others := by
  unfold run
  rw [h 0, h 1]
  cases m with
  | concat => cases hm
  | _ => rfl

variable {σ : Type}

theorem ArrayMethod.withCallback_congr (h : SamePlaces args others) (vs : List Value)
    (body : Function → StateM σ Value) : withCallback vs args body = withCallback vs others body := by
  unfold withCallback
  rw [h 0]

theorem ArrayMethod.run_congr (h : SamePlaces args others) {m : ArrayMethod}
    (hm : m.takesAll = false) (host : Host σ) (vs : List Value) :
    m.run host vs args = m.run host vs others := by
  unfold run
  rw [h 0, h 1]
  cases m with
  | concat | push | splice | unshift => cases hm
  | filter | forEach | map => exact withCallback_congr h vs _
  | _ => rfl

theorem Method.run_congr (h : SamePlaces args others) {m : Method} (hm : m.takesAll = false)
    (receiver : Value) (host : Host σ) : m.run receiver args host = m.run receiver others host := by
  cases m with
  | boolean m => cases receiver <;> rfl
  | number m =>
      cases receiver with
      | number x => rw [run, run, m.run_congr h x]
      | _ => rfl
  | string m =>
      cases receiver with
      | string s => rw [run, run, m.run_congr h hm s]
      | _ => rfl
  | array m =>
      cases receiver with
      | array vs => rw [run, run, m.run_congr h hm host vs]
      | _ => rfl

end Places

/-- The names of the methods of a kind that go through all of their arguments. -/
def Kind.namesTakingAll : Kind → List String
  | .string => ["concat"]
  | .array => ["concat", "push", "splice", "unshift"]
  | _ => []

/-- The methods of arrays that go through all of their arguments notice one more undefined. -/
theorem ArrayMethod.exists_outcome_ne {σ : Type} {m : ArrayMethod} (hm : m.takesAll = true)
    (host : Host σ) (vs : List Value) :
    ∃ args outcome longer, m.run host vs args = pure outcome ∧
      m.run host vs (args ++ [.undefined]) = pure longer ∧ longer ≠ outcome := by
  have hlength {front back : List Value} : front ++ .undefined :: back ≠ front ++ back := by
    intro h
    simpa using congrArg List.length h
  cases m with
  | concat =>
      refine ⟨[], _, _, rfl, rfl, fun h => ?_⟩
      injection h with hresult
      injection hresult with hresult
      injection hresult with hresult
      exact hlength hresult
  | push =>
      refine ⟨[], _, _, rfl, rfl, fun h => ?_⟩
      injection h with _ hafter
      exact hlength hafter
  | unshift =>
      refine ⟨[], _, _, rfl, rfl, fun h => ?_⟩
      injection h with _ hafter
      exact @hlength [] vs hafter
  | splice =>
      -- whatever the first two arguments take out, the third one is put in
      refine ⟨[.undefined, .undefined], _, _, rfl, rfl, fun h => ?_⟩
      injection h with _ hafter
      simp only [List.append_assoc, List.append_nil] at hafter
      exact hlength hafter
  | _ => cases hm

theorem Method.takesAll_iff {kind : Kind} {name : String} {m : Method}
    (hm : find? kind name = some m) : m.takesAll = true ↔ name ∈ kind.namesTakingAll := by
  cases kind with
  | undefined | null | symbol | object | function => cases hm
  | boolean | number =>
      obtain ⟨m, -, rfl⟩ := Option.map_eq_some_iff.1 hm
      simp [takesAll, Kind.namesTakingAll]
  | string =>
      obtain ⟨m, hname, rfl⟩ := Option.map_eq_some_iff.1 hm
      obtain rfl := StringMethod.ofName?_eq_some_iff.1 hname
      cases m <;> decide
  | array =>
      obtain ⟨m, hname, rfl⟩ := Option.map_eq_some_iff.1 hm
      obtain rfl := ArrayMethod.ofName?_eq_some_iff.1 hname
      cases m <;> decide

namespace Value

variable {receiver : Value} {name : String} {args others : List Value}

theorem invoke_congr {σ : Type} (h : SamePlaces args others)
    (hname : name ∉ receiver.kind.namesTakingAll) (host : Host σ) :
    receiver.invoke name args host = receiver.invoke name others host := by
  cases hm : Method.find? receiver.kind name with
  | none => rw [invoke, invoke, hm]
  | some m =>
      have hplaces : m.takesAll = false := by
        rwa [← Method.takesAll_iff hm, Bool.not_eq_true] at hname
      rw [invoke_of_find? hm, invoke_of_find? hm, m.run_congr h hplaces]

/-- One more undefined is noticed by the methods that go through all of their arguments. -/
theorem exists_invoke_ne (host : Host Unit) (h : name ∈ receiver.kind.namesTakingAll) :
    ∃ args, receiver.invoke name (args ++ [.undefined]) host ≠ receiver.invoke name args host := by
  have hcall {call longer : Invocation} (hne : longer ≠ call) :
      (pure longer : StateM Unit Invocation) ≠ pure call :=
    fun heq => hne (congrArg (fun action => (action.run ()).1) heq)
  cases receiver with
  | string s =>
      obtain rfl : name = StringMethod.concat.name := List.mem_singleton.1 h
      refine ⟨[], ?_⟩
      rw [invoke_string, invoke_string]
      apply hcall
      intro heq
      injection heq with hresult
      injection hresult with hresult
      injection hresult with htext
      simp [Text.concat, String.ext_iff, Value.text, Value.scalarText] at htext
  | array vs =>
      obtain ⟨m, rfl, hm⟩ : ∃ m : ArrayMethod, m.name = name ∧ m.takesAll = true := by
        simp only [kind, Kind.namesTakingAll, List.mem_cons, List.not_mem_nil, or_false] at h
        rcases h with rfl | rfl | rfl | rfl
        · exact ⟨.concat, rfl, rfl⟩
        · exact ⟨.push, rfl, rfl⟩
        · exact ⟨.splice, rfl, rfl⟩
        · exact ⟨.unshift, rfl, rfl⟩
      obtain ⟨args, outcome, longer, hrun, hlonger, hne⟩ := m.exists_outcome_ne hm host vs
      refine ⟨args, ?_⟩
      rw [invoke_array hrun, invoke_array hlonger]
      apply hcall
      intro heq
      injection heq with hresult hafter
      injection hafter with hafter
      exact hne (Prod.ext hresult hafter)
  | _ => cases h

/-- Missing arguments are undefined arguments. Calls by name can be given any number of further
arguments that are undefined, and the result or the error, the receiver after the call and what the
host has seen stay the same, exactly for the names that are not among the few that go through all
of their arguments. Calls of the global functions, as values, never notice. -/
theorem invoke_append_undefined (receiver : Value) (name : String) :
    ((∀ (σ : Type) (host : Host σ) (args : List Value) (count : Nat),
      receiver.invoke name (args ++ List.replicate count .undefined) host =
        receiver.invoke name args host) ↔ name ∉ receiver.kind.namesTakingAll) ∧
    ∀ (g : GlobalFunction) (ids : Identities), ∃ f, (lookupGlobal g.name ids).1 = .function f ∧
      ∀ (σ : Type) (host : Host σ) (args : List Value) (count : Nat),
        (Value.function f).call (args ++ List.replicate count .undefined) host =
          (Value.function f).call args host := by
  refine ⟨⟨?_, ?_⟩, ?_⟩
  · intro hsame hname
    obtain ⟨args, hne⟩ := exists_invoke_ne (fun _ _ => pure .undefined) hname
    exact hne (hsame Unit _ args 1)
  · intro hname σ host args count
    exact invoke_congr (samePlaces_append_undefined args count) hname host
  · intro g ids
    refine ⟨⟨g.name, ids.function, .global g⟩, ?_, ?_⟩
    · cases g <;> rfl
    · intro σ host args count
      simp only [call, Function.call, g.run_congr (samePlaces_append_undefined args count)]

end Value

end ScriptValues
