/-
Decoding strictly. A strict decoding differs from a lenient one in a single way: when the lenient
one has a configuration, the names that the source defines under the stem and that no leaf reads
are an error, if there are any (`decode_strict`).

# Which names are unread

`Schema.Unread` says it of the schema alone. The decoder instead looks at what its pass has asked
the source for, so the bridge is that the pass asks for the variables of all leaves, whatever
they come to, and for nothing else (`Decoder.mem_fetched_filled`).
-/
import EnvSettings.Proofs.Decode.Pass
import EnvSettings.Proofs.Source.Listing
import EnvSettings.Proofs.Source.Tracked
import EnvSettings.Sample.Plain

namespace EnvSettings

open EnvSettings.Source

variable {A : Type} {s : Schema A}

-- ============================================================ unread names

/-- A name under the stem that is not the variable of any leaf. -/
def Schema.Unread (s : Schema A) (stem name : String) : Prop :=
  (∃ rest, name = stem ++ rest) ∧ ∀ l : s.Leaf, l.key stem ≠ name

/-- A name continues the stem exactly if its characters do. -/
theorem exists_eq_append_iff {stem name : String} :
    (∃ rest, name = stem ++ rest) ↔ stem.toList <+: name.toList := by
  constructor
  · rintro ⟨rest, rfl⟩
    exact ⟨rest.toList, String.toList_append.symm⟩
  · rintro ⟨rest, hrest⟩
    refine ⟨String.ofList rest, String.toList_injective ?_⟩
    rw [String.toList_append, String.toList_ofList, hrest]

instance (stem : String) : DecidablePred (s.Unread stem) := fun name =>
  decidable_of_iff (stem.toList <+: name.toList ∧ ∀ l ∈ s.leaves, l.key stem ≠ name) <| by
    refine and_congr exists_eq_append_iff.symm ?_
    exact ⟨fun h l => h l (Schema.mem_leaves l), fun h l _ => h l⟩

/-- Names that are sorted are in ascending order. -/
theorem pairwise_mergeSort (names : List String) :
    (names.mergeSort (· ≤ ·)).Pairwise (· ≤ ·) := by
  have htrans : ∀ a b c : String, decide (a ≤ b) = true → decide (b ≤ c) = true →
      decide (a ≤ c) = true := by
    intro a b c hab hbc
    exact decide_eq_true (String.le_trans (of_decide_eq_true hab) (of_decide_eq_true hbc))
  have htotal : ∀ a b : String, (decide (a ≤ b) || decide (b ≤ a)) = true := by
    intro a b
    rw [Bool.or_eq_true, decide_eq_true_eq, decide_eq_true_eq]
    exact String.le_total a b
  have hsorted := List.pairwise_mergeSort htrans htotal names
  exact hsorted.imp fun h => of_decide_eq_true h

section

variable [AppTypes A] [DecidableEq A] {registry : Registry A} {stem : String} {echo : Bool}
  {start : s.Config} {source : Source}

/-- A pass fetches the variables of the leaves and no other name. -/
theorem Decoder.mem_fetched_filled {d : Decoder A} {name : String} :
    name ∈ (d.filled s start source).source.fetched ↔ ∃ l : s.Leaf, l.key d.stem = name := by
  rw [Tracked.mem_fetched]
  unfold Decoder.filled
  rw [List.mem_map]
  constructor
  · rintro ⟨l, -, hl⟩
    exact ⟨l, Call.get.inj hl⟩
  · rintro ⟨l, hl⟩
    exact ⟨l, Schema.mem_leaves l, congrArg Call.get hl⟩

/-- The names that are found unread are the unread names of the source in ascending order. -/
theorem Decoder.unread_filled (d : Decoder A) (s : Schema A) (start : s.Config) (source : Source) :
    d.unread (d.filled s start source)
      = (source.list.filter fun name => s.Unread d.stem name).mergeSort (· ≤ ·) := by
  unfold Decoder.unread unusedNames Tracked.unfetched
  refine congrArg (List.mergeSort · _) ?_
  rw [List.filter_filter]
  refine List.filter_congr fun name _ => ?_
  rw [Bool.eq_iff_iff, Bool.and_eq_true, decide_eq_true_eq, decide_eq_true_eq,
    List.isPrefixOf_iff_prefix, ← exists_eq_append_iff, Decoder.mem_fetched_filled]
  unfold Schema.Unread
  rw [not_exists]

-- ======================================================= strict decodings

/-- A strict decoding takes a configuration of the lenient one away if a name is unread. -/
theorem Decoder.decode_of_denyUnused {names : List String}
    (hnames : (Decoder.mk registry stem true echo).unread
      ((Decoder.mk registry stem true echo).filled s start source) = names) :
    (Decoder.mk registry stem true echo).decode s start source
      = ((Decoder.mk registry stem false echo).decode s start source).bind fun c =>
          if names = [] then .ok c else .error (.unused names) := by
  rw [Decoder.decode_eq, Decoder.decode_eq, hnames]
  cases s.firstError? registry [] with
  | some e => rfl
  | none =>
      -- both passes ask the same source for the same names
      have hsame : (Decoder.mk registry stem true echo).filled s start source
          = (Decoder.mk registry stem false echo).filled s start source := rfl
      rw [hsame]
      by_cases herrors : ((Decoder.mk registry stem false echo).filled s start source).errors ≠ []
      · simp only [if_pos herrors]
        rfl
      · by_cases hempty : names = []
        · simp [herrors, hempty, Except.bind]
        · simp [herrors, hempty, Except.bind]

/-- A strict decoding that ends in a configuration has found no name unread. -/
theorem Decoder.not_unread_of_decode {c : s.Config}
    (hc : (Decoder.mk registry stem true echo).decode s start source = .ok c) {name : String}
    (hname : name ∈ source.list) : ¬ s.Unread stem name := by
  intro hunread
  cases Decoder.decode_eq_iff_ends.mp hc with
  | decoded fine settled read =>
      refine read ⟨rfl, List.ne_nil_of_mem (a := name) ?_⟩
      rw [Decoder.unread_filled, List.mem_mergeSort, List.mem_filter]
      exact ⟨hname, decide_eq_true hunread⟩

/-- When unread names are the answer, they are those found at the end of the pass. -/
theorem Decoder.eq_unread_of_decode {d : Decoder A} {names : List String}
    (hanswer : d.decode s start source = .error (.unused names)) :
    names = d.unread (d.filled s start source) := by
  cases Decoder.decode_eq_iff_ends.mp hanswer with
  | unused fine settled unread => rfl

end

/-- Strict decoding. Where a lenient decoding answers an error, a strict one answers the same
error. Where it answers a configuration, so does the strict one, unless the source lists names
that are unread; those are then the answer, as often as the source lists them and in ascending
order. -/
theorem decode_strict [AppTypes A] [DecidableEq A] (s : Schema A) (registry : Registry A)
    (stem : String) (echo : Bool) (start : s.Config) (source : Source) :
    (∀ e, (Decoder.mk registry stem false echo).decode s start source = .error e →
        (Decoder.mk registry stem true echo).decode s start source = .error e)
      ∧ (∃ names : List String, names.Pairwise (· ≤ ·)
        ∧ names.Perm (source.list.filter fun name => s.Unread stem name)
        ∧ ∀ c, (Decoder.mk registry stem false echo).decode s start source = .ok c →
          (Decoder.mk registry stem true echo).decode s start source
            = if names = [] then .ok c else .error (.unused names))
      ∧ ∀ names,
        (Decoder.mk registry stem true echo).decode s start source = .error (.unused names) →
        ∀ name ∈ names, (∃ rest, name = stem ++ rest) ∧ ∀ l : s.Leaf, l.key stem ≠ name := by
  have hunread := (Decoder.mk registry stem true echo).unread_filled s start source
  have hstrict := Decoder.decode_of_denyUnused hunread
  refine ⟨fun e he => ?_, ⟨_, pairwise_mergeSort _, List.mergeSort_perm _ _, fun c hc => ?_⟩,
    fun names hnames name hname => ?_⟩
  · rw [hstrict, he]
    rfl
  · rw [hstrict, hc]
    rfl
  · have hlisted := Decoder.eq_unread_of_decode hnames
    rw [hunread] at hlisted
    rw [hlisted, List.mem_mergeSort, List.mem_filter] at hname
    have hunreadName : s.Unread stem name := of_decide_eq_true hname.2
    exact hunreadName

/-- Strict decodings leave nothing out. However a source is put together, it lists every name that
has a value, be it an empty one; so when a strict decoding ends in a configuration, every name
under the stem that has a value is the variable of a leaf. A process in the source must not have a
variable of an empty name, and where there is one a name must not have an equals sign, with which
it could reach into the value of another variable. If the variables of every process in it have
distinct names, the source lists no name twice. -/
theorem strict_decode_leaves_nothing_out [AppTypes A] [DecidableEq A] (o : Origin)
    {source : Source} (hsource : o.toSource = .ok source)
    (hempty : ∀ env ∈ o.environments, [] ∉ env.map Prod.fst) :
    ((∀ env ∈ o.environments, (env.map Prod.fst).Nodup) → source.list.Nodup)
      ∧ (∀ name value, (o.environments ≠ [] → '=' ∉ name.toList) →
        source.get name = some value → name ∈ source.list)
      ∧ ∀ (s : Schema A) (registry : Registry A) (stem : String) (echo : Bool) (start c : s.Config),
        (Decoder.mk registry stem true echo).decode s start source = .ok c →
        ∀ name value, (∃ rest, name = stem ++ rest) →
          (o.environments ≠ [] → '=' ∉ name.toList) → source.get name = some value →
          ∃ l : s.Leaf, l.key stem = name := by
  have hlisted : ∀ name value, (o.environments ≠ [] → '=' ∉ name.toList) →
      source.get name = some value → name ∈ source.list :=
    fun name value hname hvalue => Origin.mem_list_of_get hsource hempty hname hvalue
  refine ⟨fun hnames => Origin.nodup_list hsource hnames, hlisted, ?_⟩
  intro s registry stem echo start c hc name value hstem hname hvalue
  have hread := Decoder.not_unread_of_decode hc (hlisted name value hname hvalue)
  unfold Schema.Unread at hread
  push Not at hread
  exact hread hstem

/-- A process in front of a file whose line about the host it leaves to count, and behind both a
tracked source in memory. -/
theorem strict_decode_leaves_nothing_out_layers :
    let s : Schema Empty :=
      .value "verbose" (.scalar .bool) false .plain <|
      .value "host" (.scalar .string) false .plain .done
    let env := Environment.ofTexts [("APP_VERBOSE", "true"), ("APP_HOST", ""), ("HOME", "/root")]
    let file : Origin := .file "app.env" (.ok (Bytes.ofText "# hosts\nAPP_HOST=db"))
    let o : Origin := .layered (.process env) (.layered file (.tracked (.memory [("USER", "me")])))
    let source := env.toSource.orElse
      ((ofBindings [("APP_HOST", "db")]).orElse (ofBindings [("USER", "me")]))
    o.toSource = .ok source ∧ (∀ e ∈ o.environments, [] ∉ e.map Prod.fst)
      ∧ (∀ e ∈ o.environments, (e.map Prod.fst).Nodup) ∧ source.list.Nodup
      ∧ (∃ c, (Decoder.mk Registry.empty "APP_" true false).decode s s.initial source = .ok c)
      ∧ source.get "APP_HOST" = some "db" ∧ ∃ l : s.Leaf, l.key "APP_" = "APP_HOST" := by
  intro s env file o source
  let d : Decoder Empty := ⟨Registry.empty, "APP_", true, false⟩
  have hempty : ∀ e ∈ o.environments, [] ∉ e.map Prod.fst := by decide +kernel
  have hnames : ∀ e ∈ o.environments, (e.map Prod.fst).Nodup := by decide +kernel
  have hread : EnvFile.read "app.env" (Bytes.ofText "# hosts\nAPP_HOST=db")
      = .ok [("APP_HOST", "db")] := by decide +kernel
  have hsource : o.toSource = .ok source := by
    simp only [o, file, Origin.toSource, EnvFile.toSource, hread]
    rfl
  have hvalue : source.get "APP_HOST" = some "db" := by decide +kernel
  have hfine : s.firstError? (Registry.empty : Registry Empty) [] = none := rfl
  have herrors : (d.filled s s.initial source).errors = [] := by decide +kernel
  have hunread : d.unread (d.filled s s.initial source) = [] := by decide +kernel
  have hc := (Decoder.Ends.decoded hfine herrors fun h => h.2 hunread).decode_eq
  obtain ⟨hnodup, -, hleaf⟩ := strict_decode_leaves_nothing_out (A := Empty) o hsource hempty
  refine ⟨hsource, hempty, hnames, hnodup hnames, ⟨_, hc⟩, hvalue, ?_⟩
  refine hleaf s Registry.empty "APP_" false s.initial _ hc "APP_HOST" "db" ⟨"HOST", rfl⟩ ?_ hvalue
  decide

end EnvSettings
