/-
Loading is decoding a merged environment. What a process has keeps its value, an empty one too, and
of what a file of defaults defines each other name takes its first value; loading then gives what a
decoding of these bindings gives (`load_decodes_merged`).

All that is asked of the attempt to complete the environment is that it adds the bindings of the
file in their order, each unless its variable has a text by then (`AddsMissing`). Whether the
attempt has ended early is not looked at.

A source in memory finds nothing under a name with an equals sign, where a process may find a part
of a value. So a loading agrees with a decoding from memory where no variable of the schema has an
equals sign in its name, and with a decoding from a process that has the merged variables
everywhere.
-/
import EnvSettings.Load.Basic
import EnvSettings.Proofs.Decode.Locality
import EnvSettings.Proofs.Source.Assignment
import EnvSettings.Sample.Plain

namespace EnvSettings

open EnvSettings.Source

/-- Of bindings in reverse the first one of a name counts. -/
theorem Source.Bindings.value?_reverse (pairs : Bindings) (name : String) :
    Bindings.value? pairs.reverse name = pairs.lookup name := by
  induction pairs with
  | nil => rfl
  | cons binding pairs ih =>
      rw [List.reverse_cons, Bindings.value?_append, ih, lookup_cons_eq_ite]
      by_cases hown : name = binding.1
      · simp [Bindings.value?, hown]
      · simp [Bindings.value?, hown, Ne.symm hown]

/-- A process that was completed finds what one finds that has the merged variables. -/
theorem Environment.value?_complete_ofTexts (vars pairs : Bindings) (name : String) :
    ((ofTexts vars).complete pairs).value? name
      = (ofTexts (pairs.reverse ++ vars)).value? name := by
  refine value?_congr (nodup_complete (nodup_ofTexts vars) pairs) (nodup_ofTexts _) ?_ name
  intro name hname
  rw [value?_complete hname, value?_ofTexts hname, value?_ofTexts hname, Bindings.value?_append,
    Bindings.value?_reverse]

section

variable {A : Type} [AppTypes A] [DecidableEq A] {F : Type} {s : Schema A}

/-- What an attempt to complete an environment does where a file of defaults binds `pairs` before
its first malformed line: it adds them in their order, each unless its variable has a text by
then. -/
def AddsMissing (attempt : Environment → Completion F) (env : Environment) (pairs : Bindings) :
    Prop :=
  (attempt env).env = env.complete pairs

/-- Where no name has an equals sign a process is as good as bindings in memory. -/
theorem Decoder.decode_ofTexts (d : Decoder A) (hlenient : d.denyUnused = false)
    (hkeys : ∀ l : s.Leaf, '=' ∉ (l.key d.stem).toList) (start : s.Config) (vars : Bindings) :
    d.decode s start (Environment.ofTexts vars).toSource = d.decode s start (ofBindings vars) :=
  Decoder.decode_congr hlenient fun l =>
    congrArg present? (Environment.value?_ofTexts (hkeys l) vars)

/-- What is loaded is what is decoded in a process that has the merged variables. -/
theorem Schema.load_eq {attempt : Environment → Completion F} {vars pairs : Bindings}
    (hadds : AddsMissing attempt (Environment.ofTexts vars) pairs) (start : s.Config)
    (stem : String) (registry : Registry A) :
    s.load start stem registry attempt (Environment.ofTexts vars)
      = (Decoder.mk registry stem false false).decode s start
          (Environment.ofTexts (pairs.reverse ++ vars)).toSource := by
  unfold Schema.load
  rw [hadds]
  refine Decoder.decode_congr rfl fun l => ?_
  exact congrArg present? (Environment.value?_complete_ofTexts vars pairs (l.key stem))

/-- A program that needs its configuration gets what is loaded, or ends with a report of all value
errors or with the text of any other error. -/
theorem Schema.loadOrEnd_eq (s : Schema A) (start : s.Config) (stem : String)
    (registry : Registry A) (attempt : Environment → Completion F) (env : Environment)
    (palette : Palette) :
    s.loadOrEnd start stem registry attempt env palette
      = match s.load start stem registry attempt env with
        | .ok config => .ok config
        | .error (.values errors) => .error (report palette errors)
        | .error e => .error e.message := by
  unfold loadOrEnd
  cases s.load start stem registry attempt env with
  | ok config => rfl
  | error e =>
      cases e with
      | schema e => rfl
      | values errors => rfl
      | unused names => rfl

/-- Loading a configuration. Let a process have the variables `vars`, and let an attempt to
complete its environment add the bindings `pairs` of a file of defaults. Merged, the variables of
the process keep their values, empty ones too, and every other name has its first value among the
pairs. What is loaded is what is decoded from the merged bindings, if no variable of the schema has
an equals sign in its name; for every schema it is what is decoded in a process that has the merged
variables. That the attempt has ended early, at a malformed line or because there is no file, is no
error. A program that cannot go on without its configuration gets it, or ends with a report of all
value errors or with the text of any other error. -/
theorem load_decodes_merged (s : Schema A) (start : s.Config) (stem : String)
    (registry : Registry A) (vars pairs : Bindings) (palette : Palette)
    {attempt : Environment → Completion F}
    (hadds : AddsMissing attempt (Environment.ofTexts vars) pairs) :
    let env := Environment.ofTexts vars
    let merged : Bindings := pairs.reverse ++ vars
    let d : Decoder A := ⟨registry, stem, false, false⟩
    let answer := s.load start stem registry attempt env
    (∀ name, merged.value? name = (vars.value? name).or (pairs.lookup name))
      ∧ ((∀ l : s.Leaf, '=' ∉ (l.key stem).toList) →
        answer = d.decode s start (ofBindings merged))
      ∧ answer = d.decode s start (Environment.ofTexts merged).toSource
      ∧ s.loadOrEnd start stem registry attempt env palette
        = match answer with
          | .ok config => .ok config
          | .error (.values errors) => .error (report palette errors)
          | .error e => .error e.message := by
  intro env merged d answer
  have hprocess : answer = d.decode s start (Environment.ofTexts merged).toSource :=
    Schema.load_eq hadds start stem registry
  refine ⟨fun name => ?_, fun hkeys => ?_, hprocess, ?_⟩
  · rw [Bindings.value?_append, Bindings.value?_reverse]
  · rw [hprocess]
    exact d.decode_ofTexts rfl hkeys start merged
  · exact s.loadOrEnd_eq start stem registry attempt env palette

end

/-- A variable that is empty in the process, one that is twice in the file, and a line that is
malformed behind them. -/
theorem load_decodes_merged_worker :
    let vars : Bindings := [("JOB_QUEUE_URL", "q"), ("JOB_TYPE", "")]
    let pairs : Bindings := [("JOB_TYPE", "t"), ("JOB_LEVEL", "9"), ("JOB_LEVEL", "8")]
    let attempt (env : Environment) : Completion String := ⟨env.complete pairs, some "bad line"⟩
    let start := Sample.worker.initial
    AddsMissing attempt (Environment.ofTexts vars) pairs
      ∧ (∀ l : Sample.worker.Leaf, '=' ∉ (l.key "JOB_").toList)
      ∧ Sample.worker.load start "JOB_" Sample.programRegistry attempt (Environment.ofTexts vars)
        = (Decoder.mk Sample.programRegistry "JOB_" false false).decode Sample.worker start
            (ofBindings [("JOB_LEVEL", "8"), ("JOB_LEVEL", "9"), ("JOB_TYPE", "t"),
              ("JOB_QUEUE_URL", "q"), ("JOB_TYPE", "")]) := by
  intro vars pairs attempt start
  have hadds : AddsMissing attempt (Environment.ofTexts vars) pairs := rfl
  have hkeys : ∀ l : Sample.worker.Leaf, '=' ∉ (l.key "JOB_").toList := by
    have hall : ∀ l ∈ Sample.worker.leaves, '=' ∉ (l.key "JOB_").toList := by decide +kernel
    exact fun l => hall l (Schema.mem_leaves l)
  obtain ⟨-, hmemory, -⟩ :=
    load_decodes_merged Sample.worker start "JOB_" Sample.programRegistry vars pairs .plain hadds
  exact ⟨hadds, hkeys, hmemory hkeys⟩

/-- Under a name with an equals sign a process finds a part of the value of another variable, where
the merged bindings have nothing; there is no file of defaults. -/
theorem load_finds_name_with_equals :
    let s : Schema Empty := .value "a=b" (.scalar .string) false .plain .done
    let vars : Bindings := [("A", "B=7")]
    let env := Environment.ofTexts vars
    let attempt (env : Environment) : Completion Unit := ⟨env, some ()⟩
    let merged : Bindings := ([] : Bindings).reverse ++ vars
    AddsMissing attempt env []
      ∧ s.load s.initial "" Registry.empty attempt env = .ok ("7", ())
      ∧ (Decoder.mk Registry.empty "" false false).decode s s.initial (ofBindings merged)
        = .ok ("", ()) :=
  ⟨rfl, rfl, rfl⟩

end EnvSettings
