import SoapDispatch.Proofs.SettingsReading

/-!
# Keys that differ

A document that is read has no mapping with a key twice, and neither has a tree of settings that is
made of one. Tags stand in the way of paths, so what they are around does not matter here.
-/

namespace SoapDispatch

open SoapDispatch.Config (Tidy)

namespace Yaml

/-! ## Values agree with themselves -/

mutual

/-- A value agrees with itself. -/
theorem Value.agrees_self : ∀ value : Value, value.agrees value = true
  | .null | .bool _ | .int _ | .real _ | .text _ => by simp [Value.agrees, Value.same]
  | .sequence items => by
    rw [Value.agrees]
    exact Value.agreesItems_self items
  | .mapping entries => by
    rw [Value.agrees, beq_self_eq_true, Bool.true_and]
    exact Value.agreesEntries_of_subset entries fun _ member => member
  | .tagged tag value => by
    rw [Value.agrees, beq_self_eq_true, Bool.true_and]
    exact Value.agrees_self value

theorem Value.agreesItems_self : ∀ items : List Value, Value.agreesItems items items = true
  | [] => rfl
  | item :: rest => by
    rw [Value.agreesItems, Value.agrees_self item, Value.agreesItems_self rest]
    rfl

theorem Value.agreesEntries_of_subset : ∀ (entries : List (Value × Value))
    {others : List (Value × Value)}, (∀ entry ∈ entries, entry ∈ others) →
    Value.agreesEntries entries others = true
  | [], _, _ => rfl
  | (key, value) :: rest, others, subset => by
    obtain ⟨first, later⟩ := List.forall_mem_cons.1 subset
    have here : (others.any fun other => key.agrees other.1 && value.agrees other.2) = true := by
      refine List.any_eq_true.2 ⟨(key, value), first, ?_⟩
      rw [Value.agrees_self key, Value.agrees_self value]
      rfl
    rw [Value.agreesEntries, here, Value.agreesEntries_of_subset rest later]
    rfl

end

/-- Entries that are put together to those of a mapping are left as they are, and their keys
differ. -/
theorem nodup_of_distinctEntries {values entries : List (Value × Value)}
    (result : distinctEntries values = .ok entries) :
    entries = values ∧ (Config.Entries.keys entries).Nodup := by
  induction values generalizing entries with
  | nil =>
    cases result
    exact ⟨rfl, List.nodup_nil⟩
  | cons entry rest inductionHypothesis =>
    rw [distinctEntries] at result
    split at result
    · cases result
    · next fresh =>
      obtain ⟨others, later, rfl⟩ := exists_of_map_eq_ok result
      obtain ⟨rfl, distinct⟩ := inductionHypothesis later
      refine ⟨rfl, List.nodup_cons.2 ⟨fun member => fresh ?_, distinct⟩⟩
      obtain ⟨other, listed, same⟩ := List.mem_map.1 member
      refine List.any_eq_true.2 ⟨other, listed, ?_⟩
      rw [← same, Value.agrees_self]

/-! ## What steps of evaluation give -/

/-- Whether all values that a step of evaluation gives have a property. -/
def Evaluator.Gives {α : Type} (holds : α → Prop) (step : Evaluator α) : Prop :=
  ∀ followed value after, step followed = .ok (value, after) → holds value

namespace Evaluator.Gives

variable {α β : Type} {holds : α → Prop} {kept : β → Prop}

theorem pure {value : α} (true : holds value) : Gives holds (Pure.pure value) := by
  rintro followed _ _ result
  obtain ⟨rfl, rfl⟩ := Prod.mk.inj (Except.ok.inj result)
  exact true

theorem lift {result : Except Refusal α} (all : ∀ value, result = .ok value → holds value) :
    Gives holds (liftM result) := by
  rintro followed value after done
  cases result with
  | ok own =>
    obtain ⟨rfl, rfl⟩ := Prod.mk.inj (Except.ok.inj done)
    exact all _ rfl
  | error cause => exact nomatch done

theorem fail {cause : Refusal} : Gives holds (throw cause) := by
  rintro followed value after done
  exact nomatch done

theorem bind {step : Evaluator α} {next : α → Evaluator β} (first : Gives holds step)
    (second : ∀ value, holds value → Gives kept (next value)) : Gives kept (step >>= next) := by
  rintro followed value after result
  obtain ⟨⟨between, counted⟩, done, rest⟩ := exists_of_bind_eq_ok result
  exact second between (first _ _ _ done) _ _ _ rest

theorem mapM {γ : Type} {step : γ → Evaluator α} (all : ∀ item, Gives holds (step item))
    (items : List γ) : Gives (fun values => ∀ value ∈ values, holds value) (items.mapM step) := by
  induction items with
  | nil => exact pure fun _ member => absurd member List.not_mem_nil
  | cons item rest inductionHypothesis =>
    rw [List.mapM_cons]
    refine (all item).bind fun value own => inductionHypothesis.bind fun values others => pure ?_
    exact List.forall_mem_cons.2 ⟨own, others⟩

end Evaluator.Gives

/-! ## Documents -/

/-- A scalar is no mapping. -/
theorem entries?_scalarValue {tag : Option (List UInt8)} {text : String} {plain : Bool}
    {value : Value} (result : scalarValue tag text plain = .ok value) : value.entries? = none := by
  have ofNumber {value : Value} (result : numberOrText text = .ok value) :
      value.entries? = none := by
    unfold numberOrText at result
    split at result
    · obtain ⟨number, _, rfl⟩ := exists_of_map_eq_ok result
      rfl
    · split at result
      · cases result
        rfl
      · obtain rfl := Except.ok.inj result
        cases real? text.toList <;> rfl
  have untagged {value : Value}
      (result : (if plain then plainValue text else .ok (.text text)) = .ok value) :
      value.entries? = none := by
    unfold plainValue at result
    split at result
    · split at result
      · cases result
        rfl
      · split at result
        · cases result
          rfl
        · exact ofNumber result
    · cases result
      rfl
  have ofCore {type : CoreType} {value : Value} (found : type.value? text = some (.ok value)) :
      value.entries? = none := by
    cases type with
    | bool =>
      obtain ⟨word, _, same⟩ := Option.map_eq_some_iff.1 found
      cases same
      rfl
    | int =>
      obtain ⟨number, _, same⟩ := Option.map_eq_some_iff.1 found
      obtain ⟨integer, _, rfl⟩ := exists_of_map_eq_ok same
      rfl
    | float =>
      obtain ⟨number, _, same⟩ := Option.map_eq_some_iff.1 found
      cases same
      rfl
    | null =>
      rw [CoreType.value?] at found
      split at found
      · cases found
        rfl
      · cases found
  unfold scalarValue at result
  dsimp only at result
  split at result
  · exact untagged result
  · split at result
    · obtain ⟨own, _, rfl⟩ := exists_of_map_eq_ok result
      rfl
    · next type _ _ =>
      cases found : type.value? text with
      | none =>
        rw [found] at result
        cases result
      | some read =>
        rw [found] at result
        exact ofCore (found.trans (congrArg some result))
    · split at result
      · exact untagged result
      · cases result
        rfl

/-- A value with a tag of its own around it is as tidy as without. -/
theorem tidy_withTag {tag : Option (List UInt8)} {value : Value} (tidy : Tidy value) :
    Tidy (withTag tag value) := by
  unfold withTag
  split
  · exact .other rfl
  · exact tidy

/-- No mapping in the value of a node has a key twice. -/
theorem gives_tidy_valueOf (aliases : Aliases) (depth : Nat) (node : Node) :
    Evaluator.Gives Tidy (valueOf aliases depth node) := by
  have ofScalar {marks : Marks} {text : String} {plain : Bool} :
      Evaluator.Gives Tidy (liftM (scalarValue marks.tag text plain)) :=
    .lift fun _ result => .other (entries?_scalarValue result)
  have anything {step : Evaluator Node} : Evaluator.Gives (fun _ => True) step :=
    fun _ _ _ _ => trivial
  induction depth generalizing node with
  | zero =>
    refine anything.bind fun target _ => ?_
    cases target with
    | scalar => exact ofScalar
    | _ => exact .fail
  | succ depth inductionHypothesis =>
    refine anything.bind fun target _ => ?_
    cases target with
    | «alias» => exact .fail
    | scalar => exact ofScalar
    | sequence marks items =>
      refine (Evaluator.Gives.mapM inductionHypothesis items).bind fun values _ => .pure ?_
      exact tidy_withTag (.other rfl)
    | mapping marks entries =>
      have each (entry : Node × Node) : Evaluator.Gives (fun value => Tidy value.2) (do
          return (← valueOf aliases depth entry.1, ← valueOf aliases depth entry.2)) :=
        (inductionHypothesis entry.1).bind fun _ _ =>
          (inductionHypothesis entry.2).bind fun _ tidy => .pure tidy
      refine (Evaluator.Gives.mapM each entries).bind fun values tidies => ?_
      refine (Evaluator.Gives.lift fun _ => nodup_of_distinctEntries).bind fun distinct => ?_
      rintro ⟨rfl, distinct⟩
      exact .pure (tidy_withTag (.mapping distinct (fun _ _ => trivial) tidies))

/-- No mapping in the value of a document has a key twice. -/
theorem tidy_read {text : String} {value : Value} (result : read text = .ok value) :
    Tidy value := by
  obtain ⟨tokens, _, result⟩ := exists_of_bind_eq_ok result
  obtain ⟨root, _, result⟩ := exists_of_bind_eq_ok result
  cases root with
  | none =>
    cases result
    exact .other rfl
  | some node =>
    obtain ⟨⟨own, after⟩, done, same⟩ := exists_of_map_eq_ok result
    obtain rfl : own = value := same
    exact gives_tidy_valueOf _ _ node _ _ _ done

end Yaml

namespace Config

open SoapDispatch.Yaml (Value)

/-- No mapping in what a variable overrides a setting with has a key twice. -/
theorem Assignment.tidy_reading (assignment : Assignment) : Tidy assignment.reading := by
  unfold reading
  split
  · next result => exact Yaml.tidy_read result
  · exact .other rfl

/-- Overrides by assignments keep a tree tidy. -/
theorem tidy_applyAssignments {tree : Value} (tidy : Tidy tree) (assignments : List Assignment) :
    Tidy (applyAssignments tree assignments) := by
  induction assignments generalizing tree with
  | nil => exact tidy
  | cons assignment rest inductionHypothesis =>
    refine inductionHypothesis ?_
    unfold Assignment.apply
    split
    · exact tidy.override (fun _ _ => trivial) assignment.tidy_reading
    · exact tidy

/-- A tree of settings that is lowered is tidy. -/
theorem tidy_layered (file : Value) : Tidy (layered file) :=
  (lowered_lowerKeys _).1.mono fun _ _ => trivial

end Config

end SoapDispatch
