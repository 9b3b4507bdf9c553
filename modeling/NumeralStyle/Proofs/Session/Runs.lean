import NumeralStyle.Proofs.Cache.Transparency
import NumeralStyle.Session

/-!
# Runs of a session

What a session does to its cache is a run of the cache, and so what holds of every run of
a cache holds within a session.  A step that fails changes nothing, and only steps that are
about the check change the check, whatever is done with the style in the meantime.  The main
statement says what a session answers at any moment of a run: a check suggests the same with
the cache as without it, and the places of shared values tell them apart.
-/

namespace NumeralStyle.Session

variable {session : Session}

/-! ## One step -/

/-- A step that fails leaves the session as it is. -/
theorem step_of_failed
    {next : Step} {error : StyleError} (failed : (session.step next).1 = .failed error) :
    (session.step next).2 = session := by
  cases next with
  | load document =>
      rw [step] at failed ⊢
      cases loaded : Style.ofDocument document with
      | error _ => rfl
      | ok style =>
          rw [loaded] at failed
          cases failed
  | validate =>
      rw [step]
      cases session.style.validate <;> rfl
  | build =>
      rw [step] at failed ⊢
      cases built : Check.ofStyle session.style with
      | error _ => rfl
      | ok check =>
          rw [built] at failed
          cases failed
  | parse text =>
      rw [step, parse] at failed
      dsimp only at failed
      split at failed <;> cases failed
  | _ => cases failed

/-- What a step asks of the cache. -/
def Step.cacheSteps : Step → List Cache.Step
  | .checkCached text | .parse text => [.parse text]
  | .size => [.size]
  | .clear => [.clear]
  | _ => []

/-- Whether a step builds a check or changes the one that there is. -/
def Step.isAboutCheck : Step → Bool
  | .build | .skipSeparated => true
  | _ => false

theorem noteStamp_extends (stamps : List Nat) (stamp : Nat) :
    stamps <+: noteStamp stamps stamp := by
  rw [noteStamp]
  split
  · exact List.prefix_rfl
  · exact List.prefix_append stamps [stamp]

theorem mem_noteStamp (stamps : List Nat) (stamp : Nat) : stamp ∈ noteStamp stamps stamp := by
  rw [noteStamp]
  split
  · assumption
  · exact List.mem_concat_self

/-- What a step may change: the cache as it asks the cache to, the check if it is about the
check, and the noted stamps by one more behind them. -/
structure Advances (session : Session) (next : Step) (later : Session) : Prop where
  cache : later.cache = session.cache.after next.cacheSteps
  check? : next.isAboutCheck = false → later.check? = session.check?
  stamps : session.stamps <+: later.stamps

theorem advances_parse (session : Session) (text : Text) :
    session.Advances (.parse text) (session.parse text).2 := by
  rw [parse]
  dsimp only
  split
  · exact ⟨rfl, fun _ => rfl, List.prefix_rfl⟩
  · exact ⟨rfl, fun _ => rfl, noteStamp_extends _ _⟩

theorem advances_step (session : Session) (next : Step) :
    session.Advances next (session.step next).2 := by
  cases next with
  | load document =>
      rw [step]
      cases Style.ofDocument document <;> exact ⟨rfl, fun _ => rfl, List.prefix_rfl⟩
  | validate =>
      rw [step]
      cases session.style.validate <;> exact ⟨rfl, fun _ => rfl, List.prefix_rfl⟩
  | build =>
      rw [step]
      cases Check.ofStyle session.style <;> exact ⟨rfl, nofun, List.prefix_rfl⟩
  | skipSeparated => exact ⟨rfl, nofun, List.prefix_rfl⟩
  | parse text => exact session.advances_parse text
  | _ => exact ⟨rfl, fun _ => rfl, List.prefix_rfl⟩

/-! ## Whole runs -/

/-- The session at the end of a run. -/
def after (session : Session) : List Step → Session
  | [] => session
  | next :: steps => (session.step next).2.after steps

theorem after_append (session : Session) (steps more : List Step) :
    session.after (steps ++ more) = (session.after steps).after more := by
  induction steps generalizing session with
  | nil => rfl
  | cons next steps inductionHypothesis => exact inductionHypothesis _

theorem getElem?_run (session : Session) (steps : List Step) (index : Nat) :
    (session.run steps)[index]? =
      steps[index]?.map fun next => ((session.after (steps.take index)).step next).1 := by
  induction steps generalizing session index with
  | nil => rfl
  | cons next steps inductionHypothesis =>
      cases index with
      | zero => rfl
      | succ index => exact inductionHypothesis (session.step next).2 index

/-- The cache of a session has been through a run of its own. -/
theorem cache_after (session : Session) (steps : List Step) :
    (session.after steps).cache = session.cache.after (steps.flatMap Step.cacheSteps) := by
  induction steps generalizing session with
  | nil => rfl
  | cons next steps inductionHypothesis =>
      rw [after, inductionHypothesis, (session.advances_step next).cache, List.flatMap_cons,
        Cache.after_append]

theorem sound_cache_after (steps : List Step) : (after {} steps).cache.Sound := by
  rw [cache_after]
  exact Cache.sound_after_empty _

theorem clear_mem_cacheSteps_iff (steps : List Step) :
    .clear ∈ steps.flatMap Step.cacheSteps ↔ .clear ∈ steps := by
  induction steps with
  | nil => exact ⟨nofun, nofun⟩
  | cons next steps inductionHypothesis =>
      rw [List.flatMap_cons, List.mem_append, inductionHypothesis, List.mem_cons]
      cases next <;> simp [Step.cacheSteps]

theorem check?_after (session : Session) {steps : List Step}
    (kept : ∀ next ∈ steps, next.isAboutCheck = false) :
    (session.after steps).check? = session.check? := by
  induction steps generalizing session with
  | nil => rfl
  | cons next steps inductionHypothesis =>
      rw [List.forall_mem_cons] at kept
      rw [after, inductionHypothesis _ kept.2, (session.advances_step next).check? kept.1]

/-- A check that was built stays in force until a step is about it again, whatever becomes
of the style. -/
theorem check?_after_build
    {check : Check} {steps : List Step} (built : Check.ofStyle session.style = .ok check)
    (kept : ∀ next ∈ steps, next.isAboutCheck = false) :
    (session.after (.build :: steps)).check? = some check := by
  rw [after, check?_after _ kept, step, built]

/-! ## Places of shared values -/

theorem stamps_after (session : Session) (steps : List Step) :
    session.stamps <+: (session.after steps).stamps := by
  induction steps generalizing session with
  | nil => exact List.prefix_rfl
  | cons next steps inductionHypothesis =>
      exact (session.advances_step next).stamps.trans (inductionHypothesis _)

/-- A numeral is answered with the place of its stamp among the stamps noted then. -/
theorem exists_shared_of_step_parse
    {text : Text} {numeral : Numeral} {place size : Nat}
    (answered : (session.step (.parse text)).1 = .shared (some (numeral, place)) size) :
    ∃ shared, (session.cache.parse text).1 = some shared ∧
      shared.stamp ∈ (session.step (.parse text)).2.stamps ∧
      (session.step (.parse text)).2.stamps.idxOf shared.stamp = place := by
  rw [step, parse] at answered ⊢
  dsimp only at answered ⊢
  cases found : (session.cache.parse text).1 with
  | none =>
      rw [found] at answered
      cases answered
  | some shared =>
      rw [found] at answered
      cases answered
      exact ⟨shared, rfl, mem_noteStamp _ _, rfl⟩

/-- Two readings are answered with one place if they share one value. -/
theorem place_eq_iff_of_after
    (sound : session.cache.Sound) (between : List Step) {left right : Text}
    {leftNumeral rightNumeral : Numeral} {leftPlace rightPlace leftSize rightSize : Nat}
    (first : (session.step (.parse left)).1 = .shared (some (leftNumeral, leftPlace)) leftSize)
    (second : (((session.step (.parse left)).2.after between).step (.parse right)).1 =
      .shared (some (rightNumeral, rightPlace)) rightSize) :
    leftPlace = rightPlace ↔ Text.trim left = Text.trim right ∧ .clear ∉ between := by
  obtain ⟨leftShared, leftFound, leftNoted, rfl⟩ := exists_shared_of_step_parse first
  obtain ⟨rightShared, rightFound, rightNoted, rfl⟩ := exists_shared_of_step_parse second
  have later : (session.step (.parse left)).2.stamps <+:
      (((session.step (.parse left)).2.after between).step (.parse right)).2.stamps :=
    (stamps_after _ between).trans (advances_step _ (.parse right)).stamps
  rw [cache_after, (session.advances_step (.parse left)).cache] at rightFound
  rw [later.idxOf_eq_of_mem leftNoted, List.idxOf_inj (later.subset leftNoted),
    ← clear_mem_cacheSteps_iff]
  exact sound.stamp_eq_iff_of_after _ leftFound rightFound

/-! ## Answers -/

/-- With a sound cache a check suggests what it suggests without a cache. -/
theorem step_checkCached (sound : session.cache.Sound) (text : Text) :
    (session.step (.checkCached text)).1 =
      .cachedSuggestion (session.check?.bind fun check => check.suggestFor? text)
        (session.cache.parse text).2.size := by
  rw [step]
  dsimp only
  cases session.check? with
  | none => rfl
  | some check =>
      rw [Option.bind_some, Option.bind_some, ← sound.suggest?_parse check text,
        Option.bind_map]
      rfl

theorem step_parse (sound : session.cache.Sound) (text : Text) :
    ∃ shared, (session.step (.parse text)).1 =
        .shared shared (session.cache.parse text).2.size ∧
      shared.map Prod.fst = Numeral.parse? text := by
  rw [← sound.numeral_parse, step, parse]
  dsimp only
  cases (session.cache.parse text).1 with
  | none => exact ⟨none, rfl, rfl⟩
  | some shared => exact ⟨_, rfl, rfl⟩

/-- What the answers of a run from the start have to be, said without a cache. -/
structure AnswersAnew (steps : List Step) (answers : List Answer) : Prop where
  check : ∀ (index : Nat) (text : Text), steps[index]? = some (.check text) →
    answers[index]? = some (.suggestion
      ((after {} (steps.take index)).check?.bind fun check => check.suggestFor? text))
  checkCached : ∀ (index : Nat) (text : Text), steps[index]? = some (.checkCached text) →
    ∃ size, answers[index]? = some (.cachedSuggestion
      ((after {} (steps.take index)).check?.bind fun check => check.suggestFor? text) size)
  parse : ∀ (index : Nat) (text : Text), steps[index]? = some (.parse text) →
    ∃ shared size, answers[index]? = some (.shared shared size) ∧
      shared.map Prod.fst = Numeral.parse? text
  size : ∀ index : Nat, steps[index]? = some .size →
    let texts := Cache.textsSinceClear ((steps.take index).flatMap Step.cacheSteps)
    answers[index]? = some (.size texts.dedup.length (texts.dedup.length = 0))
  /-- Two numerals have the same place if the trimmed texts are equal and no clearing came
  between. -/
  identity : ∀ (earlier later : Nat) (left right : Text) (leftNumeral rightNumeral : Numeral)
    (leftPlace rightPlace leftSize rightSize : Nat), earlier < later →
    steps[earlier]? = some (.parse left) → steps[later]? = some (.parse right) →
    answers[earlier]? = some (.shared (some (leftNumeral, leftPlace)) leftSize) →
    answers[later]? = some (.shared (some (rightNumeral, rightPlace)) rightSize) →
    (leftPlace = rightPlace ↔
      Text.trim left = Text.trim right ∧ .clear ∉ (steps.take later).drop (earlier + 1))

/-- From the start on, a session answers as if each text were read anew. -/
theorem answersAnew_run (steps : List Step) : AnswersAnew steps (run {} steps) where
  check index text asked := by
    rw [getElem?_run, asked]
    rfl
  checkCached index text asked := by
    rw [getElem?_run, asked, Option.map_some, step_checkCached (sound_cache_after _)]
    exact ⟨_, rfl⟩
  parse index text asked := by
    obtain ⟨shared, answer, numeral⟩ := step_parse (sound_cache_after (steps.take index)) text
    rw [getElem?_run, asked, Option.map_some, answer]
    exact ⟨shared, _, rfl, numeral⟩
  size index asked := by
    rw [getElem?_run, asked, Option.map_some, step, takeCache, cache_after,
      Cache.size_after_empty, Cache.isEmpty_after_empty]
  identity earlier later left right leftNumeral rightNumeral leftPlace rightPlace leftSize
      rightSize before askedLeft askedRight answeredLeft answeredRight := by
    rw [getElem?_run, askedLeft, Option.map_some, Option.some_inj] at answeredLeft
    rw [getElem?_run, askedRight, Option.map_some, Option.some_inj,
      Cache.take_eq_append_of_lt before askedLeft, after_append] at answeredRight
    exact place_eq_iff_of_after (sound_cache_after _) _ answeredLeft answeredRight

end NumeralStyle.Session
