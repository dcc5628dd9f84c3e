import Mathlib
import StepConditions.CommandLine.Run
import StepConditions.Proofs.Except
import StepConditions.Proofs.SameValue
import StepConditions.Proofs.StoreRun
import StepConditions.Proofs.Text

/-!
# The verdict of an evaluation on the command line

A run of `eval` ends with code 0 and prints `true` only when the mode is known, both files hold
documents, the data is made of objects, and the conditions hold. The word `false` is printed only
for conditions that do not hold; whatever fails before them leaves the output empty.
-/
namespace StepConditions.CommandLine

namespace CommandSpec
variable {spec : CommandSpec} {o : OptionSpec} {g g' : Given} {args : List String}

/-- An argument that sets an option to the value attached to its long name. -/
def attached (name value : String) : String :=
  "--" ++ name ++ "=" ++ value

lemma toList_attached (name value : String) :
    (attached name value).toList = '-' :: '-' :: (name.toList ++ '=' :: value.toList) := by
  simp [attached]

lemma dashedLong_append {name : String} (hn : ∀ c ∈ name.toList, c ≠ '=') (hh : name ≠ "help")
    (ho : spec.options.find? (·.long == name) = some o) (value : List Char) :
    spec.dashedLong (name.toList ++ '=' :: value) = .option o (some (String.ofList value)) := by
  have hn' : ∀ c ∈ name.toList, (c != '=') = true := fun c hc => bne_iff_ne.mpr (hn c hc)
  simp [dashedLong, List.takeWhile_append_of_pos hn', List.dropWhile_append_of_pos hn', hh, ho]

lemma readFrom_attached {name : String} (hn : ∀ c ∈ name.toList, c ≠ '=') (hh : name ≠ "help")
    (ho : spec.options.find? (·.long == name) = some o) (value : String)
    (hset : set g o value = .ok g') :
    spec.readFrom g (attached name value :: args) = spec.readFrom g' args := by
  have harg : (attached name value == "--") = false := by
    rw [beq_eq_false_iff_ne, ne_eq, ← String.toList_inj, toList_attached]
    simp
  have hd : spec.dashed? (attached name value) = some (.option o (some value)) := by
    simp [dashed?, toList_attached, dashedLong_append hn hh ho]
  rw [readFrom, harg, hd]
  simp only [hset]
  rfl

end CommandSpec

open CommandSpec

/-- The arguments of an evaluation, the value of each option attached to its name. -/
def evalArgs (conditions data : String) (option : Option String) : List String :=
  "eval" :: attached "conditions" conditions :: attached "data" data ::
    (option.map (attached "coercion")).toList

lemma ofArgs_eval (args : List String) :
    Request.ofArgs ("eval" :: args) = Request.ofCommand evalSpec args := by
  simp [Request.ofArgs, commandSpecs, helpName, evalSpec]

lemma readFrom_evalArgs (conditions data : String) (option : Option String) :
    evalSpec.readFrom ⟨[], []⟩ (evalArgs conditions data option).tail =
      .ok ⟨("conditions", conditions) :: ("data", data) :: (option.map ("coercion", ·)).toList, []⟩ := by
  have hc (args : List String) :
      evalSpec.readFrom ⟨[], []⟩ (attached "conditions" conditions :: args) =
        evalSpec.readFrom ⟨[("conditions", conditions)], []⟩ args :=
    readFrom_attached (by simp) (by simp) rfl conditions rfl
  have hd (args : List String) :
      evalSpec.readFrom ⟨[("conditions", conditions)], []⟩ (attached "data" data :: args) =
        evalSpec.readFrom ⟨[("conditions", conditions), ("data", data)], []⟩ args :=
    readFrom_attached (by simp) (by simp) rfl data rfl
  have hm (mode : String) :
      evalSpec.readFrom ⟨[("conditions", conditions), ("data", data)], []⟩
          [attached "coercion" mode] =
        evalSpec.readFrom
          ⟨[("conditions", conditions), ("data", data), ("coercion", mode)], []⟩ [] :=
    readFrom_attached (by simp) (by simp) rfl mode rfl
  cases option with
  | none => simp [evalArgs, hc, hd, readFrom]
  | some mode => simp [evalArgs, hc, hd, hm, readFrom]

/-- Any two file names and any mode name can be asked for. -/
lemma ofArgs_evalArgs (conditions data : String) (option : Option String) :
    Request.ofArgs (evalArgs conditions data option) = .run (.eval conditions data option) := by
  have h := readFrom_evalArgs conditions data option
  rw [evalArgs, List.tail_cons] at h
  rw [evalArgs, ofArgs_eval, Request.ofCommand, CommandSpec.read, h]
  cases option <;> rfl

/-- The coercion of the option if it is given, else of the variable if it is set, else of text. -/
inductive Chosen : Option String → Option String → Coercion → Prop
  | ofOption {m : String} {value : Option String} {mode : Coercion}
      (h : Coercion.parse m = .ok mode) : Chosen (some m) value mode
  | ofVariable {m : String} {mode : Coercion} (h : Coercion.parse m = .ok mode) :
      Chosen none (some m) mode
  | ofNeither : Chosen none none .text

namespace Surroundings
variable {w : Surroundings} {path conditions data : String} {option : Option String}
  {mode : Coercion} {doc : Json} {passed : Bool}

/-- The file is the text of a document in the format that its name tells. -/
def Reads (w : Surroundings) (path : String) (doc : Json) : Prop :=
  ∃ text, w.file path = .bytes (Text.utf8 text) ∧
    Document.parse (Document.formatOf path) text = .ok doc

/-- Every stage before the verdict succeeds, and this is the verdict. Of data for one step that
is given again the last counts. -/
def Decides (w : Surroundings) (conditions data : String) (option : Option String)
    (passed : Bool) : Prop :=
  ∃ mode doc steps, Chosen option (w.environment coercionVariable) mode ∧
    w.Reads conditions doc ∧ w.Reads data (.object steps) ∧
    (∀ m ∈ steps, m.2.isObject = true) ∧
    (evaluateDocument mode (some doc)
      (some (Store.resolver ⟨Json.setMembers [] steps⟩))).passed = passed

lemma coercionOf_modeName_eq_ok_iff :
    coercionOf (w.modeName option) = .ok mode ↔
      Chosen option (w.environment coercionVariable) mode := by
  constructor
  · intro h
    cases option with
    | some m => exact .ofOption h
    | none =>
      cases hv : w.environment coercionVariable with
      | some m =>
        simp only [modeName, Option.orElse_none, hv] at h
        exact .ofVariable h
      | none =>
        simp only [modeName, Option.orElse_none, hv] at h
        cases h
        exact .ofNeither
  · intro h
    generalize hv : w.environment coercionVariable = v at h
    cases h with
    | ofOption h => exact h
    | ofVariable h => simpa [modeName, hv, coercionOf] using h
    | ofNeither => simp [modeName, hv, coercionOf]

lemma load_eq_ok_iff : w.load path = .ok doc ↔ w.Reads path doc := by
  simp only [load, Reads]
  cases w.file path with
  | bytes content =>
    simp only [Document.load, Document.File.bytes.injEq, ← Text.ofUtf8_eq_ok_iff]
    cases Text.ofUtf8 content <;> simp
  | _ => simp [Document.load]

lemma evaluate_eq_ok_iff :
    w.evaluate conditions data option = .ok passed ↔ w.Decides conditions data option passed := by
  simp only [evaluate, bind_eq_ok_iff, coercionOf_modeName_eq_ok_iff, load_eq_ok_iff,
    Except.ok.injEq, Decides]
  constructor
  · rintro ⟨mode, hm, doc, hc, d, hd, store, hs, hp⟩
    obtain ⟨steps, rfl, ho, rfl⟩ := Store.exists_of_ofJson_eq_ok hs
    exact ⟨mode, doc, steps, hm, hc, hd, ho, hp⟩
  · rintro ⟨mode, doc, steps, hm, hc, hd, ho, hp⟩
    exact ⟨mode, hm, doc, hc, _, hd, _, Store.ofJson_object_eq_ok_iff.mpr ⟨ho, rfl⟩, hp⟩

lemma run_eval_of_decides (h : w.Decides conditions data option passed) :
    w.run (.eval conditions data option) =
      ⟨if passed then 0 else 1, Value.boolText passed ++ "\n", ""⟩ := by
  rw [run, eval, evaluate_eq_ok_iff.mpr h]
  rfl

lemma run_eval_of_not_decides (h : ∀ passed, ¬ w.Decides conditions data option passed) :
    (w.run (.eval conditions data option)).code = 1 ∧
      (w.run (.eval conditions data option)).output = "" := by
  rw [run, eval]
  cases he : w.evaluate conditions data option with
  | ok passed => exact absurd (evaluate_eq_ok_iff.mp he) (h passed)
  | error e => exact ⟨rfl, rfl⟩

lemma environment_extend_of_some {env : Variables.Environment} {name value : String}
    (h : env name = some value) (ls : List (List Char)) :
    Variables.extend env ls name = some value := by
  induction ls generalizing env with
  | nil => exact h
  | cons l ls ih =>
    rw [Variables.extend]
    cases Variables.line? env l with
    | none => exact h
    | some entry =>
      cases entry with
      | none => exact ih h
      | some entry => exact ih (by simp [Variables.Environment.define, h])

/-- A variable that is set keeps its value whatever the variable file says. -/
lemma environment_withVariableFile_of_some {name value : String}
    (h : w.environment name = some value) :
    w.withVariableFile.environment name = some value :=
  environment_extend_of_some h _

/-- The run passes with code 0 exactly if all stages succeed and the conditions hold. Conditions
that do not hold are the only ones to print the other word, and everything that fails on the way
prints nothing. The variable counts as it is set, and not at all beside the option. -/
theorem runArgs_eval (w : Surroundings) {args : List String}
    (ha : Request.ofArgs args = .run (.eval conditions data option)) :
    let result := w.runArgs args
    let decides := w.withVariableFile.Decides conditions data option
    (result.code = 0 ↔ decides true) ∧
    (decides true → result = ⟨0, "true\n", ""⟩) ∧
    (decides false → result = ⟨1, "false\n", ""⟩) ∧
    ((∀ passed, ¬ decides passed) → result.code = 1 ∧ result.output = "") ∧
    (∀ value, w.environment coercionVariable = some value →
      w.withVariableFile.environment coercionVariable = some value) ∧
    (∀ m e, option = some m → ({ w with environment := e } : Surroundings).runArgs args = result) := by
  intro result decides
  have hrun (v : Surroundings) :
      v.runArgs args = v.withVariableFile.run (.eval conditions data option) := by
    rw [runArgs, ha]
  have hresult : result = w.withVariableFile.run (.eval conditions data option) := hrun w
  have htrue : decides true → result = ⟨0, "true\n", ""⟩ := fun h =>
    hresult.trans (run_eval_of_decides h)
  have hfalse : decides false → result = ⟨1, "false\n", ""⟩ := fun h =>
    hresult.trans (run_eval_of_decides h)
  have hnot : (∀ passed, ¬ decides passed) → result.code = 1 ∧ result.output = "" := by
    intro h
    rw [hresult]
    exact run_eval_of_not_decides h
  refine ⟨⟨fun h => ?_, fun h => by rw [htrue h]⟩, htrue, hfalse, hnot,
    fun _ => environment_withVariableFile_of_some, ?_⟩
  · by_contra ht
    by_cases hf : decides false
    · simp [hfalse hf] at h
    · have := (hnot (Bool.rec hf ht)).1
      omega
  · -- with the option the mode name is found without the environment
    rintro m e rfl
    rw [hrun, hresult]
    rfl

/-- A variable that is no mode does no harm beside the option. -/
theorem runArgs_eval_option_beside_variable :
    let conditions :=
      "[\x7b\"stepRef\":\"s\",\"fieldRef\":\"n\",\"operator\":\"==\",\"value\":5\x7d]"
    let w := ofLists [("c.json", .bytes (Text.utf8 conditions)),
      ("d.json", .bytes (Text.utf8 "\x7b\"s\":\x7b\"n\":5\x7d\x7d"))] [(coercionVariable, "loose")]
    w.runArgs (evalArgs "c.json" "d.json" (some "match-expected")) = ⟨0, "true\n", ""⟩ := by
  intro conditions w
  let five : Json := .number (.whole ⟨5, by decide, by decide⟩)
  have hc : w.Reads "c.json" (singleCondition "s" "n" "==" five) := ⟨_, rfl, by cbv⟩
  have hd : w.Reads "d.json" (.object [("s", .object [("n", five)])]) := ⟨_, rfl, by cbv⟩
  have hdecides : w.withVariableFile.Decides "c.json" "d.json" (some "match-expected") true :=
    ⟨.matchExpected, _, _, .ofOption (by cbv), hc, hd, by simp [Json.isObject], by cbv⟩
  exact (runArgs_eval w (ofArgs_evalArgs "c.json" "d.json" (some "match-expected"))).2.1 hdecides

end Surroundings

end StepConditions.CommandLine
