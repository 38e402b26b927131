import QueryArtifacts.Artifact.Pipe
import QueryArtifacts.Proofs.Query.RelatedRuns
import QueryArtifacts.Proofs.Template.Drafts

/-!
# Pipes written by scripts

A script is an author that is a run of actions with drafts for texts.  The body of its pipe is what
the same run gives when the placeholders stand under their conditions from the start.

* `Script.author` — the author that carries a script out.
* `Script.text` — the text of the query that a script answers with, for given placeholders.
* `Script.body_guarded` — the body of the pipe.
-/

namespace QueryArtifacts

/-- A run of actions whose texts are drafts, and the handle of the query to publish.  Handle `0`
leads to the query that the author is handed. -/
structure Script (parameters : Parameters) where
  actions : List (Action (Draft parameters))
  result : Handle := 0

namespace Script

variable {parameters : Parameters}

/-- The session of a script that starts with one query. -/
def session (script : Script parameters) (tokens : Placeholders) (fresh : QueryId)
    (store : Store) : Session :=
  ({ store, handles := [fresh] } : Session).run
    (script.actions.map (Action.map (Draft.fill tokens)))

/-- The author that carries a script out.  A handle that was never given out answers with the query
that the author is handed. -/
def author (script : Script parameters) : QueryAuthor := fun tokens fresh store =>
  let final := script.session tokens fresh store
  ((final.query? script.result).getD fresh, final.store)

/-- The text of the query that a script answers with. -/
def text (script : Script parameters) (tokens : Placeholders) : Except QueryError String :=
  let (fresh, store) := Store.empty.create
  let (query, store) := script.author tokens fresh store
  store.text query

/-- The body of a pipe is the wrapped text of its script. -/
theorem body_eq (script : Script parameters) :
    Pipe.body parameters script.author =
      match script.text parameters.placeholders with
      | .error error => .error (.query error)
      | .ok sql => Template.wrap parameters sql := rfl

/-- A script keeps related stores related, with plain placeholders in one and guarded ones in the
other. -/
theorem session_related (script : Script parameters) (fresh : QueryId) {store store' : Store}
    (hstore : store.Related (Twins parameters) store') :
    (script.session parameters.placeholders fresh store).Related (Twins parameters)
      (script.session parameters.guardedPlaceholders fresh store') := by
  have hfill : ∀ draft : Draft parameters, Twins parameters (draft.fill parameters.placeholders)
      (draft.fill parameters.guardedPlaceholders) := fun draft => ⟨draft, rfl, rfl⟩
  have hstart : ({ store, handles := [fresh] } : Session).Related (Twins parameters)
      { store := store', handles := [fresh] } := ⟨rfl, hstore⟩
  exact hstart.run (twins_textRelation parameters) hfill script.actions

/-- The texts of a script with plain and with guarded placeholders are twins. -/
theorem text_alike (script : Script parameters) :
    Alike (Twins parameters) (script.text parameters.placeholders)
      (script.text parameters.guardedPlaceholders) := by
  have hcreate : (Store.empty.create).2.Related (Twins parameters) (Store.empty.create).2 :=
    (Store.related_empty _).add (QueryState.related_schema none)
  have hfinal := script.session_related (Store.empty.create).1 hcreate
  unfold text author
  simp only [hfinal.query? script.result]
  exact hfinal.store.text (twins_textRelation parameters) _

/-- **Wrapping afterwards is wrapping from the start.**  The body of a pipe that a script writes
never fails for an unknown parameter, fails exactly when the query has no text, and otherwise is,
to the character, the text of the same script with guarded placeholders. -/
theorem body_guarded (hreadable : parameters.Readable) (script : Script parameters) :
    (∀ name token, Pipe.body parameters script.author ≠ .error (.unknownParameter name token)) ∧
    (∀ error, Pipe.body parameters script.author = .error (.query error) ↔
      script.text parameters.placeholders = .error error) ∧
    (∀ sql, Pipe.body parameters script.author = .ok sql ↔
      script.text parameters.guardedPlaceholders = .ok sql) := by
  have halike := script.text_alike
  rw [body_eq]
  generalize script.text parameters.placeholders = plain,
    script.text parameters.guardedPlaceholders = guarded at halike ⊢
  -- Both texts fail together, or they are the two texts of one draft.
  cases halike with
  | error => simp
  | ok htwins =>
      obtain ⟨draft, rfl, rfl⟩ := htwins
      simp [draft.wrap_fill hreadable]

/-- A parameter that may be missing and one with a default. -/
def deviceAndDay : Parameters where
  toList := [("device", .enumeration ["mobile"]),
    ("since", { type := .date, default := some (.str "2024-01-01") })]
  distinct := by decide

theorem readable_deviceAndDay : deviceAndDay.Readable where
  identifier := by
    intro entry hentry
    rcases List.mem_pair.mp hentry with rfl | rfl <;> decide
  enclosed := by
    intro entry hentry _ value hdefault
    rcases List.mem_pair.mp hentry with rfl | rfl
    · cases hdefault
    · cases hdefault
      rw [← Text.splitAtPair_eq_none_iff]
      decide

/-- A query that compares one column with a placeholder and one with a text. -/
def deviceScript : Script deviceAndDay where
  actions :=
    [.state 0 (.table [.plain "events" (by decide)]),
      .state 0 (.filter none (.compare [.plain "device" (by decide)] [.plain "=" (by decide)]
        (.text [.token "device" rfl]))),
      .state 0 (.filter (some .and) (.raw [.plain "day > " (by decide), .token "since" rfl]))]

theorem body_deviceScript :
    deviceAndDay.Readable ∧
    Pipe.body deviceAndDay deviceScript.author =
      .ok ("SELECT *\nFROM events\nWHERE device = \x7b% if defined(device) %\x7d" ++
        "\x7b\x7b String(device) \x7d\x7d\x7b% end %\x7d" ++
        " AND day > \x7b\x7b Date(since, '2024-01-01') \x7d\x7d") := by
  refine ⟨readable_deviceAndDay, ?_⟩
  rw [(body_guarded readable_deviceAndDay deviceScript).2.2]
  decide +kernel

end Script
end QueryArtifacts
