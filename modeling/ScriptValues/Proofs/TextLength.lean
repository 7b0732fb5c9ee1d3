import Mathlib.Logic.Basic
import ScriptValues.Proofs.FailedCalls

/-!
How long the texts get that operations build. Every text that is put together has the bytes of its
parts, and only repeating a text looks at the limit. So values that keep to the limit keep to it over
a run of operations exactly when no operation on the way puts parts together that exceed it.
-/

namespace ScriptValues

namespace Value

mutual

/-- The bytes of the text that a value converts to. -/
def textBytes : Value → Nat
  | .array (v :: vs) => (if v.isNullish then 0 else textBytes v) + furtherBytes 1 vs
  | v => (scalarText v).utf8ByteSize

/-- The bytes of the texts of elements, each after a separator of so many bytes. -/
def furtherBytes (separator : Nat) : List Value → Nat
  | [] => 0
  | v :: vs => separator + (if v.isNullish then 0 else textBytes v) + furtherBytes separator vs

end

/-- The text of an array is its elements' texts with commas between. -/
theorem text_array (vs : List Value) : (Value.array vs).text = join "," vs := by
  cases vs with
  | nil => simp [text, scalarText, join]
  | cons v vs => rw [text, join, elementText]

/-- The bytes of the texts of elements with a separator between them. -/
def joinedBytes (separator : Nat) : List Value → Nat
  | [] => 0
  | v :: vs => (if v.isNullish then 0 else v.textBytes) + furtherBytes separator vs

mutual

theorem utf8ByteSize_text : ∀ v : Value, v.text.utf8ByteSize = v.textBytes
  | .array (v :: vs) => by
    rw [text, textBytes, utf8ByteSize_joinOnto]
    split
    · rfl
    · rw [utf8ByteSize_text v]
      rfl
  | .array [] => by simp [text, textBytes]
  | .undefined | .null | .boolean _ | .number _ | .string _ | .symbol _ | .object _
  | .function _ => by simp [text, textBytes]

theorem utf8ByteSize_joinOnto (separator : String) :
    ∀ (line : String) (vs : List Value),
      (joinOnto separator line vs).utf8ByteSize =
        line.utf8ByteSize + furtherBytes separator.utf8ByteSize vs
  | line, [] => by rw [joinOnto, furtherBytes, Nat.add_zero]
  | line, v :: vs => by
    rw [joinOnto, furtherBytes, utf8ByteSize_joinOnto]
    split
    · simp
      omega
    · simp [utf8ByteSize_text v]
      omega

end

theorem utf8ByteSize_join (separator : String) (vs : List Value) :
    (join separator vs).utf8ByteSize = joinedBytes separator.utf8ByteSize vs := by
  cases vs with
  | nil => rfl
  | cons v vs =>
      rw [join, joinedBytes, utf8ByteSize_joinOnto, elementText]
      split
      · rfl
      · rw [utf8ByteSize_text]

theorem add_of_string {a b : Value} (h : a.kind = .string ∨ b.kind = .string) :
    a.add b = .string (a.text ++ b.text) := if_pos h

theorem add_of_no_string {a b : Value} (h : ¬ (a.kind = .string ∨ b.kind = .string)) :
    a.add b = .number (a.toNumber.add b.toNumber) := if_neg h

mutual

/-- Every string in a value, those in its arrays too, has at most so many bytes. -/
def Within (limit : Nat) : Value → Prop
  | .string s => s.utf8ByteSize ≤ limit
  | .array vs => ElementsWithin limit vs
  | _ => True

def ElementsWithin (limit : Nat) : List Value → Prop
  | [] => True
  | v :: vs => Within limit v ∧ ElementsWithin limit vs

end

theorem elementsWithin_iff {limit : Nat} {vs : List Value} :
    ElementsWithin limit vs ↔ ∀ v ∈ vs, v.Within limit := by
  induction vs with
  | nil => simp [ElementsWithin]
  | cons v vs ih => simp [ElementsWithin, ih]

end Value

namespace Text

/-- The bytes of the texts of some values. -/
def argumentBytes : List Value → Nat
  | [] => 0
  | v :: vs => v.textBytes + argumentBytes vs

theorem utf8ByteSize_concat (s : String) (args : List Value) :
    (concat s args).utf8ByteSize = s.utf8ByteSize + argumentBytes args := by
  rw [concat]
  induction args generalizing s with
  | nil => rfl
  | cons v vs ih =>
      rw [List.foldl_cons, ih, argumentBytes, String.utf8ByteSize_append, Value.utf8ByteSize_text]
      omega

theorem utf8ByteSize_join_replicate (s : String) (count : Nat) :
    (String.join (List.replicate count s)).utf8ByteSize = s.utf8ByteSize * count := by
  induction count with
  | zero => rfl
  | succ count ih =>
      rw [List.replicate_succ, String.join_cons, String.utf8ByteSize_append, ih, Nat.mul_succ]
      omega

theorem times?_within {s repeated : String} {count : Int} (hs : s.utf8ByteSize ≤ maxBytes)
    (h : times? s count = some repeated) : repeated.utf8ByteSize ≤ maxBytes := by
  rw [times?] at h
  split at h
  · cases h
    exact Nat.zero_le _
  · split at h
    · cases h
      exact hs
    · split at h
      · next hshort =>
        cases h
        rwa [utf8ByteSize_join_replicate]
      · cases h

/-- A text that is repeated does not get past the limit. -/
theorem timesOrError_within {s repeated : String} {count : ExtendedInt}
    (hs : s.utf8ByteSize ≤ maxBytes) (h : timesOrError s count = .ok repeated) :
    repeated.utf8ByteSize ≤ maxBytes := by
  rw [timesOrError] at h
  split at h
  · cases h
  · cases htimes : times? s count.saturate with
    | none => simp [htimes] at h
    | some found =>
        obtain rfl : found = repeated := by simpa [htimes] using h
        exact times?_within hs htimes

end Text

/-- The operations that build strings, on values that a store holds: addition, four methods, and the
conversion to a text. Values can be collected into an array for them. Operands are places in the
store. -/
inductive Building
  | add (left right : Nat)
  | convert (value : Nat)
  | concat (receiver : Nat) (args : List Nat)
  | repeat (receiver : Nat) (args : List Nat)
  | join (receiver : Nat) (args : List Nat)
  | toString (receiver : Nat)
  | collect (elements : List Nat)

namespace Building

variable {σ : Type}

/-- Calls a method of a value by name and holds the result as well. A failed call leaves the store
as it is. -/
def holdResult (host : Host σ) (store : List Value) (receiver : Nat) (name : String)
    (args : List Nat) : StateM σ (List Value) := do
  let outcome ← (Sequence.get store receiver).invoke name (args.map (Sequence.get store)) host
  match outcome.result with
  | .ok v => return store ++ [v]
  | .error _ => return store

/-- Performs an operation and holds its result as well. -/
def perform (host : Host σ) (store : List Value) : Building → StateM σ (List Value)
  | .add left right =>
    return store ++ [(Sequence.get store left).add (Sequence.get store right)]
  | .convert value => return store ++ [.string (Sequence.get store value).text]
  | .concat receiver args => holdResult host store receiver "concat" args
  | .repeat receiver args => holdResult host store receiver "repeat" args
  | .join receiver args => holdResult host store receiver "join" args
  | .toString receiver => holdResult host store receiver "toString" []
  | .collect elements => return store ++ [.array (elements.map (Sequence.get store))]

/-- Performs operations one after the other. -/
def run (host : Host σ) (store : List Value) (steps : List Building) : StateM σ (List Value) :=
  steps.foldlM (perform host) store

/-- The bytes of the parts that an operation puts together; none for repeating, which looks at the
limit itself. -/
def partBytes (store : List Value) : Building → Nat
  | .add left right =>
    let a := Sequence.get store left
    let b := Sequence.get store right
    if a.kind = .string ∨ b.kind = .string then a.textBytes + b.textBytes else 0
  | .convert value => (Sequence.get store value).textBytes
  | .concat receiver args =>
    match Sequence.get store receiver with
    | .string s => s.utf8ByteSize + Text.argumentBytes (args.map (Sequence.get store))
    | _ => 0
  | .join receiver args =>
    match Sequence.get store receiver with
    | .array vs =>
      let separator := (argument (args.map (Sequence.get store)) 0).toText?.getD ","
      Value.joinedBytes separator.utf8ByteSize vs
    | _ => 0
  | .toString receiver =>
    let v := Sequence.get store receiver
    if "toString" ∈ v.kind.methodNames then v.textBytes else 0
  | .repeat _ _ | .collect _ => 0

/-- What an operation adds to the store. -/
def result? (store : List Value) : Building → Option Value
  | .add left right => some ((Sequence.get store left).add (Sequence.get store right))
  | .convert value => some (.string (Sequence.get store value).text)
  | .concat receiver args =>
    match Sequence.get store receiver with
    | .string s => some (.string (Text.concat s (args.map (Sequence.get store))))
    | .array vs => some (.array (Sequence.concatSpread vs (args.map (Sequence.get store))))
    | _ => none
  | .repeat receiver args =>
    match Sequence.get store receiver with
    | .string s =>
      match Text.timesOrError s (argument (args.map (Sequence.get store)) 0).toExtendedInt with
      | .ok repeated => some (.string repeated)
      | .error _ => none
    | _ => none
  | .join receiver args =>
    match Sequence.get store receiver with
    | .array vs =>
      some (.string
        (Value.join ((argument (args.map (Sequence.get store)) 0).toText?.getD ",") vs))
    | _ => none
  | .toString receiver =>
    let v := Sequence.get store receiver
    if "toString" ∈ v.kind.methodNames then some (.string v.text) else none
  | .collect elements => some (.array (elements.map (Sequence.get store)))

section Dispatch

variable {store : List Value} {receiver : Nat} {name : String} {args : List Nat} {host : Host σ}
  {after : Value}

theorem holdResult_of_ok {v : Value}
    (h : (Sequence.get store receiver).invoke name (args.map (Sequence.get store)) host =
      pure ⟨.ok v, after⟩) :
    holdResult host store receiver name args = pure (store ++ [v]) := by
  rw [holdResult, h, pure_bind]

theorem holdResult_of_error {e : ScriptError}
    (h : (Sequence.get store receiver).invoke name (args.map (Sequence.get store)) host =
      pure ⟨.error e, after⟩) :
    holdResult host store receiver name args = pure store := by
  rw [holdResult, h, pure_bind]

/-- A method that the receiver does not have adds nothing. -/
theorem holdResult_of_not_mem (h : name ∉ (Sequence.get store receiver).kind.methodNames) :
    holdResult host store receiver name args = pure store := by
  have hmissing : ∃ e, (Sequence.get store receiver).invoke name
      (args.map (Sequence.get store)) host = pure ⟨.error e, Sequence.get store receiver⟩ := by
    rw [Value.invoke]
    split
    · exact ⟨_, rfl⟩
    · rw [(Method.find?_eq_none_iff _ _).2 h]
      exact ⟨_, rfl⟩
  obtain ⟨e, he⟩ := hmissing
  exact holdResult_of_error he

end Dispatch

private theorem concat_mem_iff (kind : Kind) :
    "concat" ∈ kind.methodNames ↔ kind = .string ∨ kind = .array := by
  cases kind <;> decide

private theorem repeat_mem_iff (kind : Kind) : "repeat" ∈ kind.methodNames ↔ kind = .string := by
  cases kind <;> decide

private theorem join_mem_iff (kind : Kind) : "join" ∈ kind.methodNames ↔ kind = .array := by
  cases kind <;> decide

/-- The method `toString` without an argument gives the text that a value converts to. -/
theorem invoke_toString {v : Value} (h : "toString" ∈ v.kind.methodNames) (host : Host σ) :
    ∃ after, v.invoke "toString" [] host = pure ⟨.ok (.string v.text), after⟩ := by
  cases v with
  | string s => exact ⟨_, Value.invoke_string .toString s [] host⟩
  | array vs =>
      have hrun : ArrayMethod.run .toString host vs [] =
          pure (.ok (.string (Value.array vs).text), vs) := by
        rw [Value.text_array]
        rfl
      exact ⟨_, Value.invoke_array hrun⟩
  | boolean b => exact ⟨_, Value.invoke_of_find? (m := .boolean .toString) rfl host⟩
  | number x => exact ⟨_, Value.invoke_of_find? (m := .number .toString) rfl host⟩
  | undefined | null | symbol | object | function => simp [Value.kind, Kind.methodNames] at h

/-- An operation adds its result to the store, and nothing when it fails. -/
theorem perform_eq (host : Host σ) (store : List Value) (op : Building) :
    op.perform host store = pure (store ++ (op.result? store).toList) := by
  cases op with
  | add left right => rfl
  | convert value => rfl
  | collect elements => rfl
  | concat receiver args =>
      rw [perform, result?]
      cases hv : Sequence.get store receiver with
      | string s =>
          apply holdResult_of_ok
          rw [hv]
          exact Value.invoke_string .concat s _ host
      | array vs =>
          apply holdResult_of_ok
          rw [hv]
          exact @Value.invoke_array σ .concat vs _ host (.ok _, vs) rfl
      | undefined | null | boolean | number | symbol | object | function =>
          rw [holdResult_of_not_mem (by rw [hv, concat_mem_iff, Value.kind]; simp)]
          exact congrArg pure (List.append_nil store).symm
  | «repeat» receiver args =>
      rw [perform, result?]
      cases hv : Sequence.get store receiver with
      | string s =>
          have hinvoke := Value.invoke_string .repeat s (args.map (Sequence.get store)) host
          rw [StringMethod.run] at hinvoke
          dsimp only
          cases hrepeat : Text.timesOrError s
              (argument (args.map (Sequence.get store)) 0).toExtendedInt with
          | ok repeated =>
              rw [hrepeat] at hinvoke
              apply holdResult_of_ok
              rw [hv]
              exact hinvoke
          | error e =>
              rw [hrepeat] at hinvoke
              rw [holdResult_of_error (by rw [hv]; exact hinvoke)]
              exact congrArg pure (List.append_nil store).symm
      | undefined | null | boolean | number | symbol | object | function | array =>
          rw [holdResult_of_not_mem (by rw [hv, repeat_mem_iff, Value.kind]; simp)]
          exact congrArg pure (List.append_nil store).symm
  | join receiver args =>
      rw [perform, result?]
      cases hv : Sequence.get store receiver with
      | array vs =>
          apply holdResult_of_ok
          rw [hv]
          exact @Value.invoke_array σ .join vs _ host (.ok _, vs) rfl
      | undefined | null | boolean | number | symbol | object | function | string =>
          rw [holdResult_of_not_mem (by rw [hv, join_mem_iff, Value.kind]; simp)]
          exact congrArg pure (List.append_nil store).symm
  | toString receiver =>
      rw [perform, result?]
      split
      · next hmem =>
        obtain ⟨after, hinvoke⟩ := invoke_toString hmem host
        exact holdResult_of_ok hinvoke
      · next hmem =>
        rw [holdResult_of_not_mem hmem]
        exact congrArg pure (List.append_nil store).symm

/-- Every string that a store holds keeps to the limit. -/
def Fits (store : List Value) : Prop := ∀ v ∈ store, v.Within Text.maxBytes

section Limit

variable {store : List Value}

theorem Fits.get (h : Fits store) (i : Nat) : (Sequence.get store i).Within Text.maxBytes := by
  rw [Sequence.get, List.getD_eq_getElem?_getD]
  cases hi : store[i]? with
  | none => trivial
  | some v => exact h v (List.mem_of_getElem? hi)

theorem Fits.map_get (h : Fits store) (places : List Nat) :
    Fits (places.map (Sequence.get store)) := by
  intro v hv
  obtain ⟨i, -, rfl⟩ := List.mem_map.1 hv
  exact h.get i

theorem fits_append_toList (store : List Value) (result? : Option Value) :
    Fits (store ++ result?.toList) ↔
      Fits store ∧ ∀ v, result? = some v → v.Within Text.maxBytes := by
  cases result? with
  | none => simp
  | some v => simp [Fits, or_imp, forall_and]

/-- Spreading arrays puts no strings together. -/
theorem Fits.concatSpread {vs args : List Value} (hvs : (Value.array vs).Within Text.maxBytes)
    (hargs : Fits args) : (Value.array (Sequence.concatSpread vs args)).Within Text.maxBytes := by
  rw [Value.Within, Value.elementsWithin_iff] at hvs ⊢
  intro v hv
  rcases List.mem_append.1 hv with hv | hv
  · exact hvs v hv
  · obtain ⟨arg, harg, hv⟩ := List.mem_flatMap.1 hv
    have hwithin := hargs arg harg
    split at hv
    · rw [Value.Within, Value.elementsWithin_iff] at hwithin
      exact hwithin v hv
    · obtain rfl := List.mem_singleton.1 hv
      exact hwithin

/-- What an operation adds to a store within the limit is within the limit exactly when its parts
together are. -/
theorem result_within_iff (h : Fits store) (op : Building) :
    (∀ v, op.result? store = some v → v.Within Text.maxBytes) ↔
      op.partBytes store ≤ Text.maxBytes := by
  cases op with
  | add left right =>
      simp only [result?, partBytes, Option.some.injEq, forall_eq']
      generalize Sequence.get store left = a
      generalize Sequence.get store right = b
      by_cases hstring : a.kind = .string ∨ b.kind = .string
      · rw [if_pos hstring, Value.add_of_string hstring, Value.Within, String.utf8ByteSize_append,
          Value.utf8ByteSize_text, Value.utf8ByteSize_text]
      · rw [if_neg hstring, Value.add_of_no_string hstring]
        exact iff_of_true trivial (Nat.zero_le _)
  | convert value =>
      simp only [result?, partBytes, Option.some.injEq, forall_eq', Value.Within,
        Value.utf8ByteSize_text]
  | concat receiver args =>
      have hget := h.get receiver
      rw [result?, partBytes]
      cases hv : Sequence.get store receiver with
      | string s =>
          simp only [Option.some.injEq, forall_eq', Value.Within, Text.utf8ByteSize_concat]
      | array vs =>
          rw [hv] at hget
          simp only [Option.some.injEq, forall_eq']
          exact iff_of_true (Fits.concatSpread hget (h.map_get args)) (Nat.zero_le _)
      | undefined | null | boolean | number | symbol | object | function => simp
  | «repeat» receiver args =>
      have hget := h.get receiver
      rw [result?, partBytes]
      refine iff_of_true ?_ (Nat.zero_le _)
      intro v hv
      split at hv
      · next s hs =>
        rw [hs, Value.Within] at hget
        split at hv
        · next repeated hrepeat =>
          cases hv
          exact Text.timesOrError_within hget hrepeat
        · cases hv
      · cases hv
  | join receiver args =>
      rw [result?, partBytes]
      cases hv : Sequence.get store receiver with
      | array vs =>
          simp only [Option.some.injEq, forall_eq', Value.Within, Value.utf8ByteSize_join]
      | undefined | null | boolean | number | symbol | object | function | string => simp
  | toString receiver =>
      rw [result?, partBytes]
      generalize Sequence.get store receiver = v
      by_cases hmem : "toString" ∈ v.kind.methodNames
      · simp only [hmem, if_true, Option.some.injEq, forall_eq', Value.Within,
          Value.utf8ByteSize_text]
      · simp [hmem]
  | collect elements =>
      simp only [result?, partBytes, Option.some.injEq, forall_eq']
      refine iff_of_true ?_ (Nat.zero_le _)
      rw [Value.Within, Value.elementsWithin_iff]
      exact h.map_get elements

/-- Performing an operation keeps the limit when its parts together are within it. -/
theorem fits_perform_iff (host : Host σ) (store : List Value) (op : Building) (state : σ) :
    Fits ((op.perform host store).run state).1 ↔
      Fits store ∧ op.partBytes store ≤ Text.maxBytes := by
  rw [perform_eq, StateT.run_pure]
  exact (fits_append_toList store _).trans (and_congr_right fun h => result_within_iff h op)

/-- A run keeps the limit exactly when no operation of it puts parts together that exceed the
limit. -/
theorem fits_run_iff (host : Host σ) (store : List Value) (steps : List Building) (state : σ) :
    Fits ((run host store steps).run state).1 ↔
      Fits store ∧ ∀ before op after, steps = before ++ op :: after →
        op.partBytes ((run host store before).run state).1 ≤ Text.maxBytes := by
  induction steps generalizing store state with
  | nil =>
      have hno : ∀ before op after, ([] : List Building) = before ++ op :: after →
          op.partBytes ((run host store before).run state).1 ≤ Text.maxBytes := by simp
      exact ⟨fun h => ⟨h, hno⟩, And.left⟩
  | cons first steps ih =>
      have hcons (steps : List Building) : (run host store (first :: steps)).run state =
          (run host ((first.perform host store).run state).1 steps).run
            ((first.perform host store).run state).2 := rfl
      rw [hcons, ih, fits_perform_iff, and_assoc]
      refine and_congr_right fun _ => ?_
      constructor
      · rintro ⟨hfirst, hrest⟩ before op after hsplit
        cases before with
        | nil =>
            cases hsplit
            exact hfirst
        | cons _ before =>
            cases hsplit
            exact hrest before op after rfl
      · intro hall
        refine ⟨hall [] first steps rfl, fun before op after hsplit => ?_⟩
        exact hall (first :: before) op after (congrArg (first :: ·) hsplit)

/-- The two texts of a sum keep to the limit, and the sum does not. -/
theorem add_past_limit :
    let long := Value.string (String.ofList (List.replicate Text.maxBytes 'x'))
    let short := Value.string "x"
    Fits [long, short] ∧ ∃ sum, long.add short = .string sum ∧ Text.maxBytes < sum.utf8ByteSize := by
  intro long short
  have hletter : (String.ofList ['x']).utf8ByteSize = 1 := rfl
  have hbytes (count : Nat) : (String.ofList (List.replicate count 'x')).utf8ByteSize = count := by
    induction count with
    | zero => rfl
    | succ count ih =>
        rw [List.replicate_succ, ← List.singleton_append, String.ofList_append,
          String.utf8ByteSize_append, ih, hletter, Nat.add_comm]
  refine ⟨?_, _, Value.add_of_string (.inl rfl), ?_⟩
  · intro v hv
    rcases List.mem_pair.1 hv with rfl | rfl
    · rw [Value.Within, hbytes]
    · rw [Value.Within]
      decide
  · rw [String.utf8ByteSize_append, Value.utf8ByteSize_text, Value.utf8ByteSize_text]
    simp only [long, short, Value.textBytes, Value.scalarText, hbytes]
    exact Nat.lt_add_of_pos_right (by decide)

end Limit

end Building

end ScriptValues
