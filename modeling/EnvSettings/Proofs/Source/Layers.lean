/-
Tracking in layers. A tracked source may itself be tracked, and each layer can be asked what it
knows, at any time and by anyone who holds it. Whatever has been asked of whichever layers, in
whichever order, a layer answers as the source inside all of them does, and what it has fetched are
the names whose value was asked for from it or from a layer around it
(`tracking_records_reads`). One layer alone is the case that is met in a decoding.

# What a layer hears

A layer that is asked asks the layer inside it in turn, and so on inwards (`Query.passedOn`); what
lies outside it hears nothing. So a step shows in each layer as the few queries that this one hears
(`Query.heardAt`), of which only one that asks for a value leaves anything behind. What is
fetched after a run is then found by induction on the run, for each layer apart
(`Layers.mem_calls_run`).
-/
import EnvSettings.Proofs.Source.Tracked

namespace EnvSettings.Source

-- ================================================================= queries

/-- What a tracked source can be asked. -/
inductive Query
  | get (name : String)
  | list
  | fetched
  | unfetched
  deriving Repr, DecidableEq

/-- What it answers. -/
inductive Reply
  | value (value? : Option String)
  | names (names : List String)
  deriving Repr, DecidableEq

/-- What a tracked source asks the source inside it in order to answer. -/
def Query.passedOn : Query → List Query
  | .get name => [.get name]
  | .list => [.list]
  | .fetched => []
  | .unfetched => [.list]

namespace Tracked

variable {t : Tracked}

/-- Answers a query, and remembers it. -/
def answer (t : Tracked) : Query → Reply × Tracked
  | .get name => (.value (t.get name).1, (t.get name).2)
  | .list => (.names t.list.1, t.list.2)
  | .fetched => (.names t.fetched, t)
  | .unfetched => (.names t.unfetched.1, t.unfetched.2)

/-- Answers one query after the other. -/
def hear (t : Tracked) (queries : List Query) : Tracked :=
  queries.foldl (fun t query => (t.answer query).2) t

/-- An answer leaves the source inside alone. -/
theorem inner_answer (query : Query) : (t.answer query).2.inner = t.inner := by
  cases query <;> rfl

/-- Of the queries only those for a value are remembered as such. -/
theorem mem_calls_answer {query : Query} {name : String} :
    .get name ∈ (t.answer query).2.calls ↔ .get name ∈ t.calls ∨ query = .get name := by
  cases query with
  | get other => simp [answer, get, eq_comm]
  | list => simp [answer, list]
  | fetched => simp [answer]
  | unfetched => simp [answer, unfetched]

theorem inner_hear (queries : List Query) : (t.hear queries).inner = t.inner := by
  induction queries generalizing t with
  | nil => rfl
  | cons query queries ih => exact ih.trans (inner_answer query)

/-- What is remembered after queries was remembered before or is among them. -/
theorem mem_calls_hear {queries : List Query} {name : String} :
    .get name ∈ (t.hear queries).calls ↔ .get name ∈ t.calls ∨ .get name ∈ queries := by
  induction queries generalizing t with
  | nil => simp [hear]
  | cons query queries ih =>
      show .get name ∈ ((t.answer query).2.hear queries).calls ↔ _
      rw [ih, mem_calls_answer, List.mem_cons, or_assoc, eq_comm]

/-- What has been fetched depends on nothing but the names whose value was asked for. -/
theorem fetched_congr {t t' : Tracked} (h : ∀ name, .get name ∈ t.calls ↔ .get name ∈ t'.calls) :
    t.fetched = t'.fetched := by
  refine eq_of_pairwise_lt (pairwise_ascending _) (pairwise_ascending _) fun name => ?_
  rw [mem_fetched, mem_fetched, h]

/-- Nor do the answers, given the source inside. -/
theorem answer_congr {t t' : Tracked} (hinner : t.inner = t'.inner)
    (hcalls : ∀ name, .get name ∈ t.calls ↔ .get name ∈ t'.calls) (query : Query) :
    (t.answer query).1 = (t'.answer query).1 := by
  cases query with
  | get name => simp only [answer, get, hinner]
  | list => simp only [answer, list, hinner]
  | fetched => simp only [answer, fetched_congr hcalls]
  | unfetched => simp only [answer, unfetched, hinner, fetched_congr hcalls]

end Tracked

-- ================================================================== layers

/-- Tracked sources around each other, the outermost first. -/
abbrev Layers (n : Nat) := Fin n → Tracked

/-- The queries that a layer hears when another one, or itself, is asked. -/
def Query.heardAt {n : Nat} (query : Query) (asked layer : Fin n) : List Query :=
  if asked = layer then [query] else if asked < layer then query.passedOn else []

/-- A layer hears of a value that it, or one around it, is asked for. -/
theorem Query.get_mem_heardAt {n : Nat} {query : Query} {asked layer : Fin n} {name : String} :
    .get name ∈ query.heardAt asked layer ↔ asked ≤ layer ∧ query = .get name := by
  unfold heardAt
  split
  · next heq => simp [heq, eq_comm]
  · next hne =>
      split
      · next hlt =>
          have hle : asked ≤ layer := Nat.le_of_lt hlt
          cases query <;> simp [passedOn, hle, eq_comm]
      · next hge =>
          have hnot : ¬ asked ≤ layer := fun hle =>
            hge (Nat.lt_of_le_of_ne hle fun heq => hne (Fin.ext heq))
          simp [hnot]

namespace Layers

variable {n : Nat} {layers : Layers n}

/-- Layers that have not been asked anything. -/
def around (source : Source) (n : Nat) : Layers n := fun _ => .ofSource source

/-- Asks one of the layers. -/
def ask (layers : Layers n) (asked : Fin n) (query : Query) : Reply × Layers n :=
  (((layers asked).answer query).1, fun layer => (layers layer).hear (query.heardAt asked layer))

/-- Asks layers one after the other. -/
def run (layers : Layers n) (log : List (Fin n × Query)) : Layers n :=
  log.foldl (fun layers entry => (layers.ask entry.1 entry.2).2) layers

/-- What a layer remembers of a query is what it hears of it. -/
theorem mem_calls_ask {asked layer : Fin n} {query : Query} {name : String} :
    .get name ∈ ((layers.ask asked query).2 layer).calls
      ↔ .get name ∈ (layers layer).calls ∨ asked ≤ layer ∧ query = .get name := by
  rw [ask, Tracked.mem_calls_hear, Query.get_mem_heardAt]

theorem inner_ask (asked layer : Fin n) (query : Query) :
    ((layers.ask asked query).2 layer).inner = (layers layer).inner :=
  Tracked.inner_hear _

/-- Asking for anything but a value leaves all answers as they are. -/
theorem reply_ask_of_ne_get {asked layer : Fin n} {query : Query}
    (hquery : ∀ name, query ≠ .get name) (next : Query) :
    ((layers.ask asked query).2.ask layer next).1 = (layers.ask layer next).1 := by
  refine Tracked.answer_congr (inner_ask asked layer query) (fun name => ?_) next
  rw [mem_calls_ask]
  exact or_iff_left fun hget => hquery name hget.2

/-- However often layers are asked, the sources inside them stay as they are. -/
theorem inner_run (log : List (Fin n × Query)) (layer : Fin n) :
    (layers.run log layer).inner = (layers layer).inner := by
  induction log generalizing layers with
  | nil => rfl
  | cons entry log ih => exact ih.trans (inner_ask entry.1 layer entry.2)

/-- A run leaves behind in a layer the names whose value was asked for from there or from further
out. -/
theorem mem_calls_run {log : List (Fin n × Query)} {layer : Fin n} {name : String} :
    .get name ∈ (layers.run log layer).calls
      ↔ .get name ∈ (layers layer).calls ∨ ∃ asked ≤ layer, (asked, .get name) ∈ log := by
  induction log generalizing layers with
  | nil => simp [run]
  | cons entry log ih =>
      obtain ⟨asked, query⟩ := entry
      show .get name ∈ ((layers.ask asked query).2.run log layer).calls ↔ _
      rw [ih, mem_calls_ask, or_assoc]
      apply or_congr_right
      constructor
      · rintro (⟨hle, rfl⟩ | ⟨other, hle, hlog⟩)
        · exact ⟨asked, hle, List.mem_cons_self⟩
        · exact ⟨other, hle, List.mem_cons_of_mem _ hlog⟩
      · rintro ⟨other, hle, hlog⟩
        rcases List.mem_cons.mp hlog with heq | hlog
        · obtain ⟨rfl, rfl⟩ := Prod.mk.inj heq
          exact Or.inl ⟨hle, rfl⟩
        · exact Or.inr ⟨other, hle, hlog⟩

/-- Runs that ask for the same values, in any order, lead to the same answers. -/
theorem reply_run_congr {log log' : List (Fin n × Query)}
    (hsame : ∀ asked name, (asked, .get name) ∈ log' ↔ (asked, .get name) ∈ log) (layer : Fin n)
    (query : Query) :
    ((layers.run log').ask layer query).1 = ((layers.run log).ask layer query).1 := by
  refine Tracked.answer_congr ((inner_run log' layer).trans (inner_run log layer).symm)
    (fun name => ?_) query
  rw [mem_calls_run, mem_calls_run]
  simp only [hsame]

/-- From the start nothing but the run counts. -/
theorem mem_fetched_run {source : Source} {log : List (Fin n × Query)} {layer : Fin n}
    {name : String} :
    name ∈ ((around source n).run log layer).fetched
      ↔ ∃ asked ≤ layer, (asked, .get name) ∈ log := by
  have hfresh : Call.get name ∉ (around source n layer).calls := List.not_mem_nil
  rw [Tracked.mem_fetched, mem_calls_run, or_iff_right hfresh]

end Layers

end EnvSettings.Source

namespace EnvSettings

open EnvSettings.Source

/-- Tracking records the reads and nothing else. Take layers of tracking around a source and ask
them anything in any order. Then each layer answers for the source. The names it has fetched are
those whose value was asked for from it or from a layer around it, in strictly ascending order and
whether the source has them or not; the names not fetched are all others that the source lists, as
it lists them, so that a listed name is among the one or among the other. No query but one for a
value changes either, and the order of the queries does not count, nor how often one is made. -/
theorem tracking_records_reads (source : Source) (n : Nat) (log : List (Fin n × Query)) :
    let layers := (Layers.around source n).run log
    (∀ layer : Fin n,
      (∀ name, (layers.ask layer (.get name)).1 = .value (source.get name))
      ∧ (layers.ask layer .list).1 = .names source.list
      ∧ ∃ fetched unfetched, (layers.ask layer .fetched).1 = .names fetched
        ∧ (layers.ask layer .unfetched).1 = .names unfetched
        ∧ fetched.Pairwise (· < ·)
        ∧ (∀ name, name ∈ fetched ↔ ∃ asked ≤ layer, (asked, .get name) ∈ log)
        ∧ unfetched = source.list.filter (· ∉ fetched)
        ∧ (∀ name ∈ source.list, name ∈ fetched ↔ name ∉ unfetched)
        ∧ ∀ asked query, (∀ name, query ≠ .get name) →
          ((layers.ask asked query).2.ask layer .fetched).1 = .names fetched
          ∧ ((layers.ask asked query).2.ask layer .unfetched).1 = .names unfetched)
    ∧ ∀ log' : List (Fin n × Query),
      (∀ asked name, (asked, .get name) ∈ log' ↔ (asked, .get name) ∈ log) →
      ∀ layer query,
        (((Layers.around source n).run log').ask layer query).1 = (layers.ask layer query).1 := by
  intro layers
  have hinner : ∀ layer, (layers layer).inner = source := Layers.inner_run log
  refine ⟨fun layer => ⟨fun name => ?_, ?_, (layers layer).fetched, (layers layer).unfetched.1, rfl,
    rfl, pairwise_ascending _, fun name => Layers.mem_fetched_run, ?_, fun name hname => ?_,
    fun asked query hquery => ?_⟩, fun log' hsame => Layers.reply_run_congr hsame⟩
  · rw [← hinner layer]
    rfl
  · rw [← hinner layer]
    rfl
  · rw [← hinner layer]
    rfl
  · rw [Tracked.unfetched, List.mem_filter, hinner layer, and_iff_right hname, decide_eq_true_eq,
      Decidable.not_not]
  · exact ⟨Layers.reply_ask_of_ne_get hquery .fetched,
      Layers.reply_ask_of_ne_get hquery .unfetched⟩

/-- What the inner of two layers is asked directly, the outer one knows nothing of. -/
example :
    let source := ofBindings [("A", "a"), ("B", "b"), ("C", "c")]
    let layers := (Layers.around source 2).run
      [(0, .get "C"), (1, .unfetched), (1, .get "X"), (1, .get "A"), (0, .get "C")]
    (layers.ask 0 .fetched).1 = .names ["C"] ∧ (layers.ask 0 .unfetched).1 = .names ["A", "B"]
      ∧ (layers.ask 1 .fetched).1 = .names ["A", "C", "X"]
      ∧ (layers.ask 1 .unfetched).1 = .names ["B"] := by
  decide

end EnvSettings
