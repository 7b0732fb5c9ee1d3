import ScriptValues.Proofs.FailedCalls

/-!
Methods of arrays by name, in terms of the operations on sequences. Several arguments are pushed,
unshifted or appended one by one. A method with a callback calls it in turn: once for every element,
from the first on, with the element and its index, each call starting in the state that the call
before left behind. The three methods make the same calls and differ in what they return.
-/

namespace ScriptValues

variable {σ : Type}

/-- Calls of a function, one after another: each starts in the state that the one before left
behind. A run has the arguments and the answer of every call, and the state after the last one. -/
inductive CallsInTurn (f : Function) (host : Host σ) :
    σ → List (List Value) → List Value → σ → Prop
  | nil {state : σ} : CallsInTurn f host state [] [] state
  | cons {state between after : σ} {args : List Value} {answer : Value}
      {calls : List (List Value)} {answers : List Value}
      (first : (f.call host args).run state = (answer, between))
      (further : CallsInTurn f host between calls answers after) :
      CallsInTurn f host state (args :: calls) (answer :: answers) after

/-- A host that also keeps a log of its calls: the function and the arguments of each. -/
def Host.recorded (host : Host σ) : Host (σ × List (Function × List Value)) := fun f args => do
  let (state, log) ← get
  let (answer, after) := (host f args).run state
  set (after, log ++ [(f, args)])
  return answer

private theorem run_bind {α β : Type} (action : StateM σ α) (next : α → StateM σ β) (state : σ) :
    (action >>= next).run state = (next (action.run state).1).run (action.run state).2 := rfl

theorem exists_callsInTurn (f : Function) (host : Host σ) (state : σ)
    (calls : List (List Value)) :
    ∃ answers after, CallsInTurn f host state calls answers after := by
  induction calls generalizing state with
  | nil => exact ⟨[], state, .nil⟩
  | cons args calls ih =>
      obtain ⟨answers, after, hfurther⟩ := ih ((f.call host args).run state).2
      exact ⟨_, after, .cons rfl hfurther⟩

namespace Sequence

/-- The arguments of a call for an element: the element and its index. -/
def visit (place : Value × Nat) : List Value := [place.1, .ofNat place.2]

/-- The arguments of the calls for all elements, in order. -/
def visits (vs : List Value) : List (List Value) := vs.zipIdx.map visit

variable {α β : Type}

/-- The elements whose call had a true answer. -/
def accepted (xs : List α) (answers : List Value) : List α :=
  ((xs.zip answers).filter (·.2.toBoolean)).map (·.1)

theorem accepted_cons (x : α) (xs : List α) (answer : Value) (answers : List Value) :
    accepted (x :: xs) (answer :: answers) =
      (if answer.toBoolean then [x] else []) ++ accepted xs answers := by
  rw [accepted, List.zip_cons_cons, List.filter_cons]
  split
  · rfl
  · rfl

theorem accepted_map (g : α → β) (xs : List α) (answers : List Value) :
    accepted (xs.map g) answers = (accepted xs answers).map g := by
  rw [accepted, accepted, List.zip_map_left, List.filter_map, List.map_map, List.map_map]
  rfl

end Sequence

namespace CallsInTurn

variable {f : Function} {host : Host σ} {state after : σ} {calls : List (List Value)}
  {answers : List Value} {places : List (Value × Nat)}

/-- Recording does not change the calls of a function that the host knows, and the log gets each of
them once, in order. -/
theorem recorded (hf : f.behaviour = .host) (h : CallsInTurn f host state calls answers after)
    (log : List (Function × List Value)) :
    CallsInTurn f host.recorded (state, log) calls answers
      (after, log ++ calls.map fun args => (f, args)) := by
  induction h generalizing log with
  | nil =>
      rw [List.map_nil, List.append_nil]
      exact .nil
  | @cons state between after args answer calls answers first _ ih =>
      have hcall : (f.call host.recorded args).run (state, log) =
          (answer, (between, log ++ [(f, args)])) := by
        simp only [Function.call, hf] at first ⊢
        change (((host f args).run state).1, (((host f args).run state).2, log ++ [(f, args)])) = _
        rw [first]
      have hfurther := ih (log ++ [(f, args)])
      rw [List.append_assoc, List.singleton_append] at hfurther
      exact .cons hcall hfurther

theorem mapM_run (h : CallsInTurn f host state (places.map Sequence.visit) answers after) :
    (places.mapM fun place => f.call host (Sequence.visit place)).run state = (answers, after) := by
  induction places generalizing state answers with
  | nil =>
      cases h
      rfl
  | cons place places ih =>
      cases h with
      | cons first further =>
          rw [List.mapM_cons, run_bind, first, run_bind, ih further]
          rfl

theorem forM_run (h : CallsInTurn f host state (places.map Sequence.visit) answers after) :
    (places.forM fun place => do let _ ← f.call host (Sequence.visit place)).run state =
      ((), after) := by
  induction places generalizing state answers with
  | nil =>
      cases h
      rfl
  | cons place places ih =>
      cases h with
      | cons first further =>
          rw [List.forM_eq_forM, List.forM_cons, run_bind, run_bind, first]
          exact ih further

/-- What is accepted is put in front of what was accepted before, so it comes out in reverse. -/
theorem filterAuxM_run (h : CallsInTurn f host state (places.map Sequence.visit) answers after)
    (before : List (Value × Nat)) :
    (List.filterAuxM (fun place => do return (← f.call host (Sequence.visit place)).toBoolean)
      places before).run state = ((Sequence.accepted places answers).reverse ++ before, after) := by
  induction places generalizing state answers before with
  | nil =>
      cases h
      rfl
  | cons place places ih =>
      cases h with
      | @cons _ between _ _ answer _ answers first further =>
          rw [List.filterAuxM, run_bind, run_bind, first, Sequence.accepted_cons]
          cases answer.toBoolean with
          | true =>
              refine (ih further (place :: before)).trans ?_
              simp
          | false => exact ih further before

end CallsInTurn

namespace Sequence

variable {f : Function} {host : Host σ} {state after : σ} {vs answers : List Value}

theorem map_run (h : CallsInTurn f host state (visits vs) answers after) :
    (map vs fun v i => f.call host [v, .ofNat i]).run state = (answers, after) :=
  h.mapM_run

theorem forEach_run (h : CallsInTurn f host state (visits vs) answers after) :
    (forEach vs fun v i => do let _ ← f.call host [v, .ofNat i]).run state = ((), after) :=
  h.forM_run

theorem filter_run (h : CallsInTurn f host state (visits vs) answers after) :
    (filter vs fun v i => do
      let answer ← f.call host [v, .ofNat i]
      return answer.toBoolean).run state = (accepted vs answers, after) := by
  rw [filter, List.filterM, run_bind, run_bind]
  have hpassed := h.filterAuxM_run []
  rw [List.append_nil] at hpassed
  refine (congrArg (fun r => (r.1.reverse.map (·.1), r.2)) hpassed).trans ?_
  rw [List.reverse_reverse, ← accepted_map, List.zipIdx_map_fst]

theorem foldl_push (vs args : List Value) : args.foldl push vs = vs ++ args := by
  induction args generalizing vs with
  | nil => rw [List.foldl_nil, List.append_nil]
  | cons v args ih => rw [List.foldl_cons, ih, push, List.append_assoc, List.singleton_append]

theorem foldl_unshift (vs args : List Value) : args.reverse.foldl unshift vs = args ++ vs := by
  induction args with
  | nil => rfl
  | cons v args ih =>
      rw [List.reverse_cons, List.foldl_append, ih]
      rfl

/-- A value as a sequence to append: the elements of an array, or the value alone. -/
def spread : Value → List Value
  | .array ws => ws
  | v => [v]

theorem foldl_concat_spread (vs args : List Value) :
    args.foldl (fun joined v => concat joined (spread v)) vs = concatSpread vs args := by
  rw [concatSpread]
  induction args generalizing vs with
  | nil => simp
  | cons v args ih =>
      rw [List.foldl_cons, ih, concat, List.flatMap_cons, List.append_assoc]
      cases v <;> rfl

/-- What the methods with a callback return, by the answers of the calls. -/
def returned (vs answers : List Value) : List (String × Value) :=
  [("map", .array answers), ("filter", .array (accepted vs answers)), ("forEach", .undefined)]

end Sequence

namespace Value

variable {f : Function} {host : Host σ} {state after : σ} {vs args answers : List Value}

/-- A method with a callback that is given a function returns what it makes of the calls, and leaves
the array as it is. -/
theorem invoke_callback {m : ArrayMethod} {body : Function → StateM σ Value} {v : Value}
    (hm : m.run host vs (.function f :: args) =
      ArrayMethod.withCallback vs (.function f :: args) body)
    (hbody : (body f).run state = (v, after)) :
    ((array vs).invoke m.name (.function f :: args) host).run state =
      (⟨.ok v, .array vs⟩, after) := by
  have hfirst : argument (.function f :: args) 0 = .function f := rfl
  have hrun := hm ▸ ArrayMethod.withCallback_of_function hfirst body state
  rw [hbody] at hrun
  rw [invoke_of_find? (find?_array m vs), Method.run, run_bind, hrun]
  rfl

theorem invoke_returned (h : CallsInTurn f host state (Sequence.visits vs) answers after)
    {name : String} {v : Value} (hname : (name, v) ∈ Sequence.returned vs answers) :
    ((array vs).invoke name (.function f :: args) host).run state =
      (⟨.ok v, .array vs⟩, after) := by
  simp only [Sequence.returned, List.mem_cons, Prod.mk.injEq, List.not_mem_nil, or_false] at hname
  rcases hname with ⟨rfl, rfl⟩ | ⟨rfl, rfl⟩ | ⟨rfl, rfl⟩
  · refine invoke_callback (m := .map) (by rw [ArrayMethod.run]) ?_
    rw [run_bind, Sequence.map_run h]
    rfl
  · refine invoke_callback (m := .filter) (by rw [ArrayMethod.run]) ?_
    rw [run_bind, Sequence.filter_run h]
    rfl
  · refine invoke_callback (m := .forEach) (by rw [ArrayMethod.run]) ?_
    rw [run_bind, Sequence.forEach_run h]
    rfl

/-- By name, pushing and unshifting arguments is to push them one by one, and to unshift them one by
one from the last on, and appending them is to append each in turn, as far as it is an array its
elements. The methods with a callback call it in turn for every element with the element and its
index, and nothing else, which a host that records its calls can tell; the array stays as it is, and
what is returned are the answers, the elements with true answers, and undefined. -/
theorem invoke_eq_typed (vs args : List Value) (host : Host σ) :
    (let pushed := args.foldl Sequence.push vs
     (array vs).invoke "push" args host =
      pure ⟨.ok (.ofNat pushed.length), .array pushed⟩) ∧
    (let unshifted := args.reverse.foldl Sequence.unshift vs
     (array vs).invoke "unshift" args host =
      pure ⟨.ok (.ofNat unshifted.length), .array unshifted⟩) ∧
    (let joined := args.foldl (fun joined v => Sequence.concat joined (Sequence.spread v)) vs
     (array vs).invoke "concat" args host = pure ⟨.ok (.array joined), .array vs⟩) ∧
    ∀ (f : Function) (state : σ), ∃ answers after,
      CallsInTurn f host state (Sequence.visits vs) answers after ∧
      ∀ name v, (name, v) ∈ Sequence.returned vs answers →
        ((array vs).invoke name (.function f :: args) host).run state =
          (⟨.ok v, .array vs⟩, after) ∧
        (f.behaviour = .host → ∀ log,
          ((array vs).invoke name (.function f :: args) host.recorded).run (state, log) =
            (⟨.ok v, .array vs⟩,
              (after, log ++ (Sequence.visits vs).map fun args => (f, args)))) := by
  refine ⟨?_, ?_, ?_, ?_⟩
  · intro pushed
    have hpushed : pushed = vs ++ args := Sequence.foldl_push vs args
    rw [hpushed, List.length_append]
    exact invoke_array (m := .push) rfl
  · intro unshifted
    have hunshifted : unshifted = args ++ vs := Sequence.foldl_unshift vs args
    rw [hunshifted, List.length_append]
    exact invoke_array (m := .unshift) rfl
  · intro joined
    have hjoined : joined = Sequence.concatSpread vs args := Sequence.foldl_concat_spread vs args
    rw [hjoined]
    exact invoke_array (m := .concat) rfl
  · intro f state
    obtain ⟨answers, after, hcalls⟩ := exists_callsInTurn f host state (Sequence.visits vs)
    refine ⟨answers, after, hcalls, ?_⟩
    intro name v hname
    refine ⟨invoke_returned hcalls hname, ?_⟩
    intro hf log
    exact invoke_returned (hcalls.recorded hf log) hname

/-- Filtering by a function that answers with its element calls it twice for two elements. -/
theorem invoke_eq_typed_filter :
    let f : Function := ⟨"identity", 0, .host⟩
    let host : Host Unit := fun _ args => pure (argument args 0)
    f.behaviour = .host ∧
      ((array [null, boolean true]).invoke "filter" [.function f] host.recorded).run ((), []) =
        (⟨.ok (.array [boolean true]), array [null, boolean true]⟩,
          ((), [(f, [null, .ofNat 0]), (f, [boolean true, .ofNat 1])])) := by
  intro f host
  refine ⟨rfl, ?_⟩
  obtain ⟨answers, after, hcalls, hreturned⟩ :=
    (invoke_eq_typed [null, boolean true] [] host).2.2.2 f ()
  obtain ⟨-, hrecorded⟩ := hreturned "filter"
    (.array (Sequence.accepted [null, boolean true] answers)) (by simp [Sequence.returned])
  rw [hrecorded rfl []]
  cases hcalls with
  | cons first further =>
      cases further with
      | cons second further =>
          cases further
          cases first
          cases second
          rfl

end Value

end ScriptValues
