import QueryArtifacts.Proofs.Artifact.ReadDatasource

/-!
# The directives of an engine

Behind the columns of a datasource stand its directives: a fixed order of keys, each with its value
between quotes if it is set.  Quoting escapes quotes and backslashes only.  A lexer that goes by the
quotes reads every value back, but a line feed in a value stands in the text as it is and breaks the
directive over two rows.

* `Engine.directiveText` — the part of a definition text behind the columns.
* `Datasource.readDirectives?` — the reader.
* `Datasource.directives_read` — reading directives back, and how many rows they take.
-/

namespace QueryArtifacts

open Text Writer

/-- The text of the directives of an engine. -/
def Engine.directiveText (engine : Engine) : String :=
  (engine.write {}).text

namespace Datasource

/-- The part of a definition text behind the columns depends on the engine only. -/
theorem text_eq_append (datasource : Datasource) :
    datasource.text = (schemaWriter datasource).text ++ datasource.engine.directiveText := by
  obtain ⟨-, hdepth⟩ := text_schemaWriter datasource
  have hfresh : (datasource.engine.write {}).text =
      ofRows (directiveRows (directives datasource.engine)) := by
    rw [text_write rfl]
    exact String.empty_append
  change (datasource.engine.write (schemaWriter datasource)).text = _
  rw [text_write hdepth, Engine.directiveText, hfresh]

theorem directiveText_eq (engine : Engine) :
    engine.directiveText = ofRows (directiveRows (directives engine)) := by
  rw [Engine.directiveText, text_write rfl]
  exact String.empty_append

/-! ## Reading -/

/-- Read directives under the given keys, in their order and each of them at most once, up to the
end of the text. -/
def readDirectives? : List String → List Char → Option (List (String × String))
  | [], text => if text = [] then some [] else none
  | key :: keys, text =>
      match text.dropPrefix? (key ++ " ").toList with
      | none => readDirectives? keys text
      | some rest => do
          let (value, rest) ← readQuoted? '"' rest
          let rest ← rest.dropPrefix? ['\n']
          return (key, String.ofList value) :: (← readDirectives? keys rest)

/-- Directives that may be absent, under the keys of a row. -/
def settings (found : List (String × Option String)) : List (String × String) :=
  found.flatMap fun (key, value) => setting key value

/-- The directives that an engine can have. -/
def engineSettings (engine : Engine) : List (String × Option String) :=
  [("ENGINE", some engine.kind), ("ENGINE_SORTING_KEY", joinedKey engine),
    ("ENGINE_PARTITION_KEY", engine.partitionBy), ("ENGINE_TTL", engine.ttl),
    ("ENGINE_VER", engine.version)]

theorem map_fst_engineSettings (engine : Engine) :
    (engineSettings engine).map Prod.fst = directiveKeys := rfl

theorem directives_eq_settings (engine : Engine) :
    directives engine = settings (engineSettings engine) := by
  simp [directives, settings, engineSettings, setting]

theorem toList_ofRows_directiveRows_cons (key value : String) (more : List (String × String)) :
    (ofRows (directiveRows ((key, value) :: more))).toList =
      (key ++ " ").toList ++
        ((quoted value).toList ++ '\n' :: (ofRows (directiveRows more)).toList) := by
  change (ofRows (directiveRow key value :: directiveRows more)).toList = _
  rw [ofRows_cons, directiveRow]
  simp

/-- A text of directives opens with one of their keys. -/
theorem dropPrefix?_directiveRows {key : String} (hkey : ' ' ∉ key.toList)
    {found : List (String × String)} (hfound : ∀ directive ∈ found, ' ' ∉ directive.1.toList)
    (hother : key ∉ found.map Prod.fst) :
    (ofRows (directiveRows found)).toList.dropPrefix? (key ++ " ").toList = none := by
  rw [Option.eq_none_iff_forall_ne_some]
  intro rest hrest
  obtain ⟨front, htext, hfront⟩ := List.dropPrefix?_eq_some_iff.mp hrest
  rw [eq_of_beq hfront, String.toList_append, List.append_assoc] at htext
  cases found with
  | nil => simp [directiveRows] at htext
  | cons directive more =>
      obtain ⟨other, value⟩ := directive
      rw [toList_ofRows_directiveRows_cons, String.toList_append, List.append_assoc] at htext
      -- Both keys are what stands in front of the first blank.
      have hcut := congrArg (splitAtChar ' ') htext
      change splitAtChar ' ' (other.toList ++ ' ' :: _) = splitAtChar ' ' (key.toList ++ ' ' :: _)
        at hcut
      rw [splitAtChar_append (hfound _ (List.mem_cons_self ..)), splitAtChar_append hkey] at hcut
      have hsame : other = key := String.toList_inj.mp (Prod.mk.inj (Option.some.inj hcut)).1
      exact hother (hsame ▸ List.mem_cons_self ..)

/-- Directives are read back under their keys, whatever their values hold. -/
theorem readDirectives?_settings {found : List (String × Option String)}
    (hkeys : ∀ key ∈ found.map Prod.fst, ' ' ∉ key.toList)
    (hdistinct : (found.map Prod.fst).Nodup) :
    readDirectives? (found.map Prod.fst) (ofRows (directiveRows (settings found))).toList =
      some (settings found) := by
  induction found with
  | nil => rfl
  | cons directive more ih =>
      obtain ⟨key, value⟩ := directive
      rw [List.map_cons, List.forall_mem_cons] at hkeys
      rw [List.map_cons, List.nodup_cons] at hdistinct
      have hmore := ih hkeys.2 hdistinct.2
      cases value with
      | none =>
          have hset (setting : String × String) (hsetting : setting ∈ settings more) :
              setting.1 ∈ more.map Prod.fst := by
            obtain ⟨entry, hentry, hvalue⟩ := List.mem_flatMap.mp hsetting
            rw [(eq_of_mem_setting hvalue).1]
            exact List.mem_map_of_mem hentry
          have habsent := dropPrefix?_directiveRows hkeys.1
            (fun setting hsetting => hkeys.2 _ (hset setting hsetting)) (fun hmem => by
              obtain ⟨setting, hsetting, hname⟩ := List.mem_map.mp hmem
              exact hdistinct.1 (hname ▸ hset setting hsetting))
          change readDirectives? (key :: more.map Prod.fst)
            (ofRows (directiveRows (settings more))).toList = some (settings more)
          rw [readDirectives?, habsent]
          exact hmore
      | some value =>
          change readDirectives? (key :: more.map Prod.fst)
            (ofRows (directiveRows ((key, value) :: settings more))).toList =
              some ((key, value) :: settings more)
          rw [readDirectives?, toList_ofRows_directiveRows_cons,
            List.dropPrefix?_append_of_beq _ (beq_self_eq_true _)]
          simp only [quoted, readQuoted?_quoteEscaped (q := '"') (by decide), Option.bind_eq_bind,
            Option.bind_some, String.ofList_toList]
          rw [← List.singleton_append, List.dropPrefix?_append_of_beq _ (beq_self_eq_true _),
            Option.bind_some, hmore]
          rfl

theorem readDirectives?_directiveText (engine : Engine) :
    readDirectives? directiveKeys engine.directiveText.toList = some (directives engine) := by
  rw [directiveText_eq, directives_eq_settings, ← map_fst_engineSettings engine]
  have hkeys : ∀ key ∈ directiveKeys, ' ' ∉ key.toList := by decide
  have hdistinct : directiveKeys.Nodup := by decide
  rw [← map_fst_engineSettings engine] at hkeys hdistinct
  exact readDirectives?_settings hkeys hdistinct

/-! ## Rows -/

theorem ofRows_directiveRows (found : List (String × String)) :
    ofRows (directiveRows found) =
      String.join (found.map fun (key, value) => key ++ " " ++ quoted value ++ "\n") := by
  induction found with
  | nil => rfl
  | cons directive more ih =>
      obtain ⟨key, value⟩ := directive
      rw [List.map_cons, String.join_cons, ← ih, ← String.toList_inj,
        toList_ofRows_directiveRows_cons]
      simp

/-- Quoting leaves line feeds alone. -/
theorem count_quoted (value : String) :
    (quoted value).toList.count '\n' = value.toList.count '\n' := by
  rw [quoted, toList_quoteEscaped, List.count_append, List.count_cons_of_ne (by decide),
    count_escaped (by decide)]
  rfl

/-- A directive takes a row more for each line feed of its value. -/
theorem count_directiveRows {found : List (String × String)}
    (hfound : ∀ directive ∈ found, directive.1 ∈ directiveKeys) :
    (ofRows (directiveRows found)).toList.count '\n' =
      found.length + (found.flatMap fun directive => directive.2.toList).count '\n' := by
  have hkeys : ∀ key ∈ directiveKeys, (key ++ " ").toList.count '\n' = 0 := by decide
  induction found with
  | nil => rfl
  | cons directive more ih =>
      obtain ⟨key, value⟩ := directive
      rw [List.forall_mem_cons] at hfound
      rw [toList_ofRows_directiveRows_cons, List.count_append, List.count_append,
        List.count_cons_self, hkeys key hfound.1, count_quoted, ih hfound.2, List.length_cons,
        List.flatMap_cons, List.count_append]
      dsimp only
      omega

theorem length_rows_directiveText (engine : Engine) :
    (rows engine.directiveText).length = (directives engine).length +
      ((directives engine).flatMap fun directive => directive.2.toList).count '\n' := by
  rw [length_rows, directiveText_eq]
  exact count_directiveRows fun _ hdirective => (mem_directives hdirective).1

/-- A directive takes one row exactly if its value holds no line feed. -/
theorem not_mem_directiveRow_iff {key : String} (hkey : key ∈ directiveKeys) (value : String) :
    '\n' ∉ directiveRow key value ↔ '\n' ∉ value.toList := by
  have hkeys : ∀ key ∈ directiveKeys, '\n' ∉ (key ++ " ").toList := by decide
  rw [directiveRow, List.mem_append, not_or, ← List.count_eq_zero (l := (quoted value).toList),
    count_quoted, List.count_eq_zero]
  exact and_iff_right (hkeys key hkey)

theorem rows_directiveText_iff (engine : Engine) :
    rows engine.directiveText = directiveRows (directives engine) ↔
      ∀ directive ∈ directives engine, '\n' ∉ directive.2.toList := by
  rw [directiveText_eq, rows_ofRows_iff, directiveRows, List.forall_mem_map]
  refine forall_congr' fun directive => imp_congr_right fun hdirective => ?_
  exact not_mem_directiveRow_iff (mem_directives hdirective).1 directive.2

/-- Reading one by one gives as many answers as there are rows. -/
theorem length_of_mapM {α β : Type} {read : α → Option β} {items : List α} {found : List β}
    (hread : items.mapM read = some found) : found.length = items.length := by
  induction items generalizing found with
  | nil =>
      cases hread
      rfl
  | cons item rest ih =>
      rw [List.mapM_cons] at hread
      obtain ⟨first, -, hrest⟩ := Option.bind_eq_some_iff.mp hread
      obtain ⟨more, hmore, heq⟩ := Option.bind_eq_some_iff.mp hrest
      obtain rfl := Option.some.inj heq
      rw [List.length_cons, List.length_cons, ih hmore]

/-- Directives are read row by row exactly if each of them takes one row. -/
theorem mapM_rows_directiveText_iff (engine : Engine) :
    (rows engine.directiveText).mapM readDirective? = some (directives engine) ↔
      ∀ directive ∈ directives engine, '\n' ∉ directive.2.toList := by
  have hkeys : ∀ key ∈ directiveKeys, ' ' ∉ key.toList := by decide
  constructor
  · intro hread directive hdirective
    -- Reading gives a directive for each row, and no row is left over for a line feed.
    have hlength := length_of_mapM hread
    rw [length_rows_directiveText, Nat.left_eq_add, List.count_eq_zero] at hlength
    exact fun hfeed => hlength (List.mem_flatMap.mpr ⟨directive, hdirective, hfeed⟩)
  · intro hvalues
    rw [(rows_directiveText_iff engine).mpr hvalues]
    exact mapM_readDirective? fun directive hdirective => hkeys _ (mem_directives hdirective).1

/-- **Directives are read back.**  Behind the columns stand the directives that are set, each as its
key and its quoted value, in a fixed order.  A reader that goes by the quotes recovers them all,
whatever the values hold.  A directive takes a row more for each line feed of its value, so that the
rows are the directives, and can be read one by one, exactly if no value holds a line feed. -/
theorem directives_read (datasource : Datasource) :
    datasource.text = (schemaWriter datasource).text ++ datasource.engine.directiveText ∧
    datasource.engine.directiveText = String.join ((directives datasource.engine).map
      fun (key, value) => key ++ " " ++ quoted value ++ "\n") ∧
    readDirectives? directiveKeys datasource.engine.directiveText.toList =
      some (directives datasource.engine) ∧
    (rows datasource.engine.directiveText).length = (directives datasource.engine).length +
      ((directives datasource.engine).flatMap fun directive => directive.2.toList).count '\n' ∧
    (rows datasource.engine.directiveText = directiveRows (directives datasource.engine) ↔
      ∀ directive ∈ directives datasource.engine, '\n' ∉ directive.2.toList) ∧
    ((rows datasource.engine.directiveText).mapM readDirective? =
        some (directives datasource.engine) ↔
      ∀ directive ∈ directives datasource.engine, '\n' ∉ directive.2.toList) := by
  refine ⟨text_eq_append datasource, ?_, readDirectives?_directiveText _,
    length_rows_directiveText _, rows_directiveText_iff _, mapM_rows_directiveText_iff _⟩
  rw [directiveText_eq, ofRows_directiveRows]

/-- A table whose rows expire by an expression that is written over two lines. -/
def expiring : Datasource where
  columns := {
    toList := [("ts", { type := "DateTime" })]
    distinct := by decide }
  engine := { ttl := some "ts +\nINTERVAL 30 DAY" }

/-- The directive of the expression takes two rows, and neither of them is one. -/
theorem directives_expiring :
    expiring.text = "SCHEMA >\n    `ts` DateTime `json:$.ts`\n\n" ++
      "ENGINE \"MergeTree\"\nENGINE_TTL \"ts +\nINTERVAL 30 DAY\"\n" ∧
    directives expiring.engine =
      [("ENGINE", "MergeTree"), ("ENGINE_TTL", "ts +\nINTERVAL 30 DAY")] ∧
    rows expiring.engine.directiveText = ["ENGINE \"MergeTree\"".toList,
      "ENGINE_TTL \"ts +".toList, "INTERVAL 30 DAY\"".toList] ∧
    readDirective? "ENGINE_TTL \"ts +".toList = none ∧
    readDirective? "INTERVAL 30 DAY\"".toList = none := by
  decide +kernel

end Datasource
end QueryArtifacts
