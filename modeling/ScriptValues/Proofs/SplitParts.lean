import ScriptValues.Proofs.FailedCalls
import ScriptValues.Proofs.TextSearch

/-!
The parts of a text between the occurrences of a separator. Going from left to right, each cut is
made at the first occurrence behind the one before, so occurrences that overlap an earlier one do not
count and no part contains the separator. Joining the parts with the separator gives the text back.
-/

namespace ScriptValues

namespace Text

section Lists

variable {needle part : List Char}

/-- The rest of an occurrence is passed over. -/
theorem splitFrom_append (skipped rest : List Char) :
    splitFrom needle skipped.length part (skipped ++ rest) = splitFrom needle 0 part rest := by
  induction skipped with
  | nil => rfl
  | cons c skipped ih =>
      rw [List.length_cons, List.cons_append, splitFrom, if_pos (Nat.succ_pos _),
        Nat.add_sub_cancel, ih]

theorem splitFrom_of_forall_not {cs : List Char} (h : ∀ k < cs.length, ¬ needle <+: cs.drop k) :
    splitFrom needle 0 part cs = [part.reverse ++ cs] := by
  induction cs generalizing part with
  | nil => rw [splitFrom, List.append_nil]
  | cons c cs ih =>
      have hfirst : ¬ needle.isPrefixOf (c :: cs) = true := by
        rw [List.isPrefixOf_iff_prefix]
        exact h 0 (Nat.succ_pos _)
      rw [splitFrom, if_neg (Nat.lt_irrefl 0), if_neg hfirst,
        ih fun k hk => h (k + 1) (Nat.succ_lt_succ hk), List.reverse_cons, List.append_assoc,
        List.singleton_append]

/-- A cut is made at the first occurrence, and the next part starts behind it. -/
theorem splitFrom_of_first {front rest : List Char} (hneedle : needle ≠ [])
    (h : ∀ k < front.length, ¬ needle <+: (front ++ needle ++ rest).drop k) :
    splitFrom needle 0 part (front ++ needle ++ rest) =
      (part.reverse ++ front) :: splitFrom needle 0 [] rest := by
  induction front generalizing part with
  | nil =>
      cases needle with
      | nil => exact absurd rfl hneedle
      | cons c later =>
          have hhere : (c :: later).isPrefixOf (c :: (later ++ rest)) = true :=
            List.isPrefixOf_iff_prefix.2 (List.prefix_append (c :: later) rest)
          rw [List.nil_append, List.cons_append, splitFrom, if_neg (Nat.lt_irrefl 0), if_pos hhere,
            List.length_cons, Nat.add_sub_cancel, splitFrom_append, List.append_nil]
  | cons c front ih =>
      have hfirst : ¬ needle.isPrefixOf (c :: (front ++ needle ++ rest)) = true := by
        rw [List.isPrefixOf_iff_prefix]
        exact h 0 (Nat.succ_pos _)
      rw [List.cons_append, List.cons_append, splitFrom, if_neg (Nat.lt_irrefl 0), if_neg hfirst,
        ih fun k hk => h (k + 1) (Nat.succ_lt_succ hk), List.reverse_cons, List.append_assoc,
        List.singleton_append]

end Lists

variable {s sep : String}

theorem parts_eq_splitFrom (hsep : sep ≠ "") (s : String) :
    parts s (some sep) = (splitFrom sep.toList 0 [] s.toList).map String.ofList := by
  have hneedle : sep.toList ≠ [] := mt String.toList_eq_nil_iff.1 hsep
  rw [parts, split, if_neg hneedle]

/-- A text without an occurrence of the separator is one part. -/
theorem parts_of_forall_not (hsep : sep ≠ "") (h : ∀ k, ¬ OccursAt s sep k) :
    parts s (some sep) = [s] := by
  rw [parts_eq_splitFrom hsep, splitFrom_of_forall_not, List.map_singleton, List.reverse_nil,
    List.nil_append, String.ofList_toList]
  exact fun k hk hprefix => h k (occursAt_iff.2 ⟨Nat.le_of_lt hk, hprefix⟩)

/-- The first part of a text ends at the first occurrence of the separator. -/
theorem parts_of_first {front rest : String} (hsep : sep ≠ "")
    (h : ∀ k < front.length, ¬ OccursAt (front ++ sep ++ rest) sep k) :
    parts (front ++ sep ++ rest) (some sep) = front :: parts rest (some sep) := by
  have hneedle : sep.toList ≠ [] := mt String.toList_eq_nil_iff.1 hsep
  rw [parts_eq_splitFrom hsep, parts_eq_splitFrom hsep, String.toList_append, String.toList_append,
    splitFrom_of_first hneedle, List.map_cons, List.reverse_nil, List.nil_append,
    String.ofList_toList]
  intro k hk hprefix
  rw [String.length_toList] at hk
  refine h k hk (occursAt_iff.2 ⟨?_, ?_⟩)
  · rw [String.toList_append, String.toList_append, List.length_append, List.length_append,
      String.length_toList]
    omega
  · rwa [String.toList_append, String.toList_append]

/-- The parts of a text that is cut at the occurrences of a separator, from left to right: each cut
is made at the first occurrence in what the cuts before have left, until there is none. -/
inductive Cuts (sep : String) : String → List String → Prop
  | last {s : String} (hnone : ∀ k, ¬ OccursAt s sep k) : Cuts sep s [s]
  | cut {front rest : String} {later : List String}
      (hfirst : ∀ k < front.length, ¬ OccursAt (front ++ sep ++ rest) sep k)
      (hrest : Cuts sep rest later) : Cuts sep (front ++ sep ++ rest) (front :: later)

theorem Cuts.parts_eq {ps : List String} (hsep : sep ≠ "") (h : Cuts sep s ps) :
    parts s (some sep) = ps := by
  induction h with
  | last hnone => exact parts_of_forall_not hsep hnone
  | cut hfirst _ ih => rw [parts_of_first hsep hfirst, ih]

/-- Every text can be cut, as what is left gets shorter with each occurrence. -/
theorem exists_cuts (hsep : sep ≠ "") (s : String) : ∃ ps, Cuts sep s ps := by
  induction hn : s.length using Nat.strongRecOn generalizing s with
  | ind n ih =>
      rcases exists_isLeast_or_forall_not (OccursAt s sep) with ⟨k, hk⟩ | hnone
      · obtain ⟨front, rest, rfl, rfl⟩ := hk.1
        have hpos : sep.length ≠ 0 := mt String.length_eq_zero_iff.1 hsep
        have hshorter : rest.length < n := by
          rw [← hn, String.length_append, String.length_append]
          omega
        obtain ⟨later, hlater⟩ := ih rest.length hshorter rest rfl
        exact ⟨_, .cut (fun j hj hoccurs => Nat.not_le_of_lt hj (hk.2 hoccurs)) hlater⟩
      · exact ⟨_, .last hnone⟩

theorem parts_eq_iff_cuts {ps : List String} (hsep : sep ≠ "") :
    parts s (some sep) = ps ↔ Cuts sep s ps := by
  refine ⟨?_, Cuts.parts_eq hsep⟩
  rintro rfl
  obtain ⟨ps, hcuts⟩ := exists_cuts hsep s
  rwa [hcuts.parts_eq hsep]

theorem Cuts.ne_nil {ps : List String} (h : Cuts sep s ps) : ps ≠ [] := by
  cases h <;> exact List.cons_ne_nil _ _

/-- An occurrence in a front part would be one in front of the first. -/
theorem Cuts.not_occursAt {ps : List String} (hsep : sep ≠ "") (h : Cuts sep s ps) :
    ∀ part ∈ ps, ∀ k, ¬ OccursAt part sep k := by
  induction h with
  | last hnone =>
      intro part hpart
      rw [List.mem_singleton.1 hpart]
      exact hnone
  | @cut front rest later hfirst _ ih =>
      intro part hpart
      rcases List.mem_cons.1 hpart with rfl | hlater
      · rintro k ⟨before, behind, rfl, rfl⟩
        have hpos : sep.length ≠ 0 := mt String.length_eq_zero_iff.1 hsep
        refine hfirst before.length ?_ ⟨before, behind ++ sep ++ rest, ?_, rfl⟩
        · rw [String.length_append, String.length_append]
          omega
        · simp only [String.append_assoc]
      · exact ih part hlater

end Text

namespace Value

/-- A line stays in front of what is joined onto it. -/
theorem joinOnto_append (separator front line : String) (vs : List Value) :
    joinOnto separator (front ++ line) vs = front ++ joinOnto separator line vs := by
  induction vs generalizing line with
  | nil => rw [joinOnto, joinOnto]
  | cons v vs ih =>
      rw [joinOnto, joinOnto, String.append_assoc, String.append_assoc, ih, String.append_assoc]

theorem join_cons {vs : List Value} (separator : String) (v : Value) (hvs : vs ≠ []) :
    join separator (v :: vs) = v.elementText ++ separator ++ join separator vs := by
  cases vs with
  | nil => exact absurd rfl hvs
  | cons w vs =>
      rw [join, joinOnto, joinOnto_append, join]
      rfl

end Value

namespace Text

variable {s sep : String}

/-- Joining puts the separator back where the cuts were made. -/
theorem Cuts.join_eq {ps : List String} (h : Cuts sep s ps) :
    Value.join sep (ps.map .string) = s := by
  induction h with
  | last hnone => rfl
  | cut _ hrest ih =>
      rw [List.map_cons, Value.join_cons sep _ (mt List.map_eq_nil_iff.1 hrest.ne_nil), ih]
      rfl

theorem join_parts (s sep : String) :
    Value.join sep ((parts s (some sep)).map .string) = s := by
  by_cases hsep : sep = ""
  · rw [hsep]
    exact join_elements s
  · exact ((parts_eq_iff_cuts hsep).1 rfl).join_eq

/-- A limit that is given keeps as many of the parts as it stands for. -/
theorem splitValues_limit {limit : Value} (hlimit : limit ≠ .undefined) (separator? : Option String) :
    splitValues s separator? limit = (splitValues s separator? .undefined).take limit.toUint32 := by
  cases limit with
  | undefined => exact absurd rfl hlimit
  | _ => rfl

variable {σ : Type}

/-- Splitting a text at a separator and joining the parts with it gives the text back. When the
separator is not empty there is a part at least, no part contains the separator, and the parts are
those between its leftmost occurrences that do not overlap. Without a separator the text is the only
part. By name, a limit that is given keeps the first of the parts, as many as its residue modulo
2^32. -/
theorem split_join (s : String) (host : Host σ) :
    (∀ sep, Value.join sep ((parts s (some sep)).map .string) = s) ∧
    (∀ sep, sep ≠ "" → parts s (some sep) ≠ [] ∧
      (∀ part ∈ parts s (some sep), ∀ k, ¬ OccursAt part sep k) ∧
      ∀ ps, parts s (some sep) = ps ↔ Cuts sep s ps) ∧
    parts s none = [s] ∧
    ∀ sep : Value, ∃ ps : List Value, ps = (parts s sep.toText?).map .string ∧
      (Value.string s).invoke "split" [sep] host = pure ⟨.ok (.array ps), .string s⟩ ∧
      ∀ limit : Value, limit ≠ .undefined →
        (Value.string s).invoke "split" [sep, limit] host =
          pure ⟨.ok (.array (ps.take limit.toUint32)), .string s⟩ := by
  refine ⟨join_parts s, ?_, rfl, ?_⟩
  · intro sep hsep
    have hcuts := (parts_eq_iff_cuts hsep).1 (Eq.refl (parts s (some sep)))
    exact ⟨hcuts.ne_nil, hcuts.not_occursAt hsep, fun ps => parts_eq_iff_cuts hsep⟩
  · intro sep
    refine ⟨_, rfl, Value.invoke_string .split s [sep] host, ?_⟩
    intro limit hlimit
    have hcall := Value.invoke_string .split s [sep, limit] host
    have hrun : StringMethod.run .split s [sep, limit] =
        .ok (.array (splitValues s sep.toText? limit)) := rfl
    rw [hrun, splitValues_limit hlimit] at hcall
    exact hcall

/-- The second of two occurrences that overlap does not count, and a limit above 2^32 wraps around. -/
theorem split_join_overlap :
    let host : Host Unit := fun _ _ => pure .undefined
    let limit := Value.ofNat (2 ^ (32 : Nat) + 1)
    ("aa" ≠ "" ∧ Cuts "aa" "aaab" ["", "ab"]) ∧
      (limit ≠ .undefined ∧ (Value.string "aaab").invoke "split" [.string "aa", limit] host =
        pure ⟨.ok (.array [.string ""]), .string "aaab"⟩) := by
  intro host limit
  obtain ⟨-, hcuts, -, hcall⟩ := split_join "aaab" host
  have hsep : "aa" ≠ "" := by decide
  have hlimit : limit ≠ .undefined := Value.noConfusion
  have hparts : parts "aaab" (some "aa") = ["", "ab"] := by decide
  obtain ⟨ps, rfl, -, hlimited⟩ := hcall (.string "aa")
  have hcount : limit.toUint32 = 1 := by decide +kernel
  have hresult := hlimited limit hlimit
  have htext : (Value.string "aa").toText? = some "aa" := rfl
  rw [hcount, htext, hparts] at hresult
  exact ⟨⟨hsep, ((hcuts "aa" hsep).2.2 _).1 hparts⟩, hlimit, hresult⟩

end Text

end ScriptValues
