import Mathlib
import NumeralStyle.Cache
import NumeralStyle.Check

/-!
# Transparency of caches

A cache answers as if every text were read anew, whatever was done with it before.
The invariant is that each trimmed text has one entry, which holds the result of
reading it under a stamp of its own.  The main statement follows a whole run from the
empty cache: the numerals are those of the reader, the size counts the distinct
texts since the last clearing, and two answers are the same shared value exactly if
their trimmed texts are equal and no clearing came between them.
-/

namespace NumeralStyle.Cache

/-! ## Runs -/

/-- What can be done with a cache. -/
inductive Step where
  | parse (text : Text)
  | size
  | isEmpty
  | clear
  deriving DecidableEq, Repr

inductive Answer where
  | shared (shared : Option Shared)
  | size (size : Nat)
  | flag (value : Bool)
  | done
  deriving DecidableEq, Repr

def step (cache : Cache) : Step → Answer × Cache
  | .parse text => (.shared (cache.parse text).1, (cache.parse text).2)
  | .size => (.size cache.size, cache)
  | .isEmpty => (.flag cache.isEmpty, cache)
  | .clear => (.done, cache.clear)

/-- The answers to one step after the other. -/
def run (cache : Cache) : List Step → List Answer
  | [] => []
  | next :: steps => (cache.step next).1 :: (cache.step next).2.run steps

/-- The cache at the end of a run. -/
def after (cache : Cache) : List Step → Cache
  | [] => cache
  | next :: steps => (cache.step next).2.after steps

/-- The trimmed text that a step reads. -/
def Step.trimmed? : Step → Option Text
  | .parse text => some (Text.trim text)
  | .size | .isEmpty | .clear => none

/-- The trimmed texts that were read since the last clearing, the latest first. -/
def textsSinceClear (steps : List Step) : List Text :=
  (steps.reverse.takeWhile fun step => step ≠ .clear).filterMap Step.trimmed?

/-- What the answers of a run have to be, said without a cache. -/
structure Transparent (steps : List Step) (answers : List Answer) : Prop where
  length : answers.length = steps.length
  /-- A cached numeral, or a cached rejection, is what the reader gives, and so a check
  suggests the same for it. -/
  parse : ∀ (index : Nat) (text : Text), steps[index]? = some (.parse text) →
    ∃ shared, answers[index]? = some (.shared shared) ∧
      shared.map Shared.numeral = Numeral.parse? text ∧
      ∀ check : Check,
        (shared.map Shared.numeral).bind check.suggest? = check.suggestFor? text
  size : ∀ index : Nat, steps[index]? = some .size →
    answers[index]? = some (.size (textsSinceClear (steps.take index)).dedup.length)
  isEmpty : ∀ index : Nat, steps[index]? = some .isEmpty →
    answers[index]? = some (.flag ((textsSinceClear (steps.take index)).dedup.length = 0))
  /-- A shared value is the same as an earlier one if the trimmed texts are equal and no
  clearing came between. -/
  identity : ∀ (earlier later : Nat) (left right : Text) (leftShared rightShared : Shared),
    earlier < later →
    steps[earlier]? = some (.parse left) → steps[later]? = some (.parse right) →
    answers[earlier]? = some (.shared (some leftShared)) →
    answers[later]? = some (.shared (some rightShared)) →
    (leftShared.stamp = rightShared.stamp ↔
      Text.trim left = Text.trim right ∧ .clear ∉ (steps.take later).drop (earlier + 1))

variable {cache : Cache} {text trimmed : Text}

theorem getElem?_run (cache : Cache) (steps : List Step) (index : Nat) :
    (cache.run steps)[index]? =
      steps[index]?.map fun next => ((cache.after (steps.take index)).step next).1 := by
  induction steps generalizing cache index with
  | nil => rfl
  | cons next steps inductionHypothesis =>
      cases index with
      | zero => rfl
      | succ index =>
          rw [run, List.getElem?_cons_succ, List.getElem?_cons_succ, inductionHypothesis]
          rfl

theorem length_run (cache : Cache) (steps : List Step) :
    (cache.run steps).length = steps.length := by
  induction steps generalizing cache with
  | nil => rfl
  | cons next steps inductionHypothesis =>
      rw [run, List.length_cons, List.length_cons, inductionHypothesis]

theorem after_append (cache : Cache) (steps more : List Step) :
    cache.after (steps ++ more) = (cache.after steps).after more := by
  induction steps generalizing cache with
  | nil => rfl
  | cons next steps inductionHypothesis => exact inductionHypothesis _

theorem after_concat (cache : Cache) (steps : List Step) (next : Step) :
    cache.after (steps ++ [next]) = ((cache.after steps).step next).2 :=
  cache.after_append steps [next]

/-! ## One reading -/

def keys (cache : Cache) : List Text :=
  cache.entries.map Prod.fst

theorem parse?_trim (text : Text) : Numeral.parse? (Text.trim text) = Numeral.parse? text := by
  rw [Numeral.parse?, Numeral.read, Text.trim_trim]
  rfl

theorem mem_entries_of_get? {shared : Option Shared} (found : cache.get? trimmed = some shared) :
    (trimmed, shared) ∈ cache.entries := by
  obtain ⟨entry, first, rfl⟩ := Option.map_eq_some_iff.1 found
  have accepted := List.find?_some first
  have same : entry.1 = trimmed := of_decide_eq_true accepted
  rw [← same]
  exact List.mem_of_find?_eq_some first

theorem not_mem_keys_of_get? (absent : cache.get? trimmed = none) : trimmed ∉ cache.keys := by
  intro member
  obtain ⟨entry, inEntries, same⟩ := List.mem_map.1 member
  have different := List.find?_eq_none.1 (Option.map_eq_none_iff.1 absent) entry inEntries
  exact different (decide_eq_true same)

/-- A text that was seen is answered by its entry, and any other gets the next entry. -/
theorem parse_cases (cache : Cache) (text : Text) :
    (∃ shared, (Text.trim text, shared) ∈ cache.entries ∧ cache.parse text = (shared, cache)) ∨
      (Text.trim text ∉ cache.keys ∧
        cache.parse text = cache.insert (Text.trim text) (Numeral.parse? (Text.trim text))) := by
  cases found : cache.get? (Text.trim text) with
  | none =>
      right
      refine ⟨not_mem_keys_of_get? found, ?_⟩
      simp only [Cache.parse, found]
  | some shared =>
      left
      refine ⟨shared, mem_entries_of_get? found, ?_⟩
      simp only [Cache.parse, found]

/-- What is answered stands in the cache from then on. -/
theorem mem_entries_parse (cache : Cache) (text : Text) :
    (Text.trim text, (cache.parse text).1) ∈ (cache.parse text).2.entries := by
  rcases cache.parse_cases text with ⟨shared, inEntries, answer⟩ | ⟨_, answer⟩
  · rw [answer]
    exact inEntries
  · rw [answer]
    exact List.mem_cons_self

/-- A step clears the cache, leaves it as it is, or adds the entry of an unseen text. -/
theorem step_cases (cache : Cache) (next : Step) :
    (next = .clear ∧ (cache.step next).2 = cache.clear) ∨
      (next ≠ .clear ∧ (∀ trimmed ∈ next.trimmed?, trimmed ∈ cache.keys) ∧
        (cache.step next).2 = cache) ∨
      ∃ trimmed, next.trimmed? = some trimmed ∧ trimmed ∉ cache.keys ∧
        (cache.step next).2 = (cache.insert trimmed (Numeral.parse? trimmed)).2 := by
  cases next with
  | parse text =>
      right
      rw [step]
      rcases cache.parse_cases text with ⟨shared, inEntries, answer⟩ | ⟨unseen, answer⟩
      · left
        rw [answer]
        refine ⟨Step.noConfusion, ?_, rfl⟩
        rintro _ ⟨⟩
        exact List.mem_map_of_mem inEntries
      · right
        exact ⟨Text.trim text, rfl, unseen, congrArg Prod.snd answer⟩
  | size => exact Or.inr (Or.inl ⟨Step.noConfusion, nofun, rfl⟩)
  | isEmpty => exact Or.inr (Or.inl ⟨Step.noConfusion, nofun, rfl⟩)
  | clear => exact Or.inl ⟨rfl, rfl⟩

/-! ## The invariant -/

/-- Each text has one entry, which holds the result of reading it under its own stamp. -/
structure Sound (cache : Cache) : Prop where
  nodup : cache.keys.Nodup
  parsed : ∀ entry ∈ cache.entries, entry.2.map Shared.numeral = Numeral.parse? entry.1
  used : ∀ entry ∈ cache.entries, ∀ shared ∈ entry.2, shared.stamp < cache.nextStamp
  distinct : cache.entries.Pairwise fun newer older =>
    ∀ left ∈ newer.2, ∀ right ∈ older.2, left.stamp ≠ right.stamp

theorem sound_of_entries_eq_nil (empty : cache.entries = []) : cache.Sound := by
  refine ⟨?_, ?_, ?_, ?_⟩ <;> simp [keys, empty]

/-- A numeral that is shared under a stamp has this stamp. -/
theorem stamp_of_mem_map {parsed : Option Numeral} {stamp : Nat} {shared : Shared}
    (member : shared ∈ parsed.map fun numeral => ⟨numeral, stamp⟩) :
    shared.stamp = stamp := by
  obtain ⟨numeral, _, rfl⟩ := Option.map_eq_some_iff.1 member
  rfl

theorem Sound.insert (sound : cache.Sound) (unseen : trimmed ∉ cache.keys) :
    (cache.insert trimmed (Numeral.parse? trimmed)).2.Sound := by
  refine ⟨List.nodup_cons.2 ⟨unseen, sound.nodup⟩, ?_, ?_,
    List.pairwise_cons.2 ⟨?_, sound.distinct⟩⟩
  · intro entry member
    rcases List.mem_cons.1 member with rfl | older
    · cases parsed : Numeral.parse? trimmed <;> rfl
    · exact sound.parsed entry older
  · intro entry member shared inEntry
    rcases List.mem_cons.1 member with rfl | older
    · exact Nat.lt_succ_of_le (stamp_of_mem_map inEntry).le
    · exact Nat.lt_succ_of_lt (sound.used entry older shared inEntry)
  · intro entry older left inNew right inOld
    rw [stamp_of_mem_map inNew]
    exact (sound.used entry older right inOld).ne'

theorem Sound.step (sound : cache.Sound) (next : Step) : (cache.step next).2.Sound := by
  rcases cache.step_cases next with ⟨_, cleared⟩ | ⟨_, _, same⟩ | ⟨trimmed, _, unseen, added⟩
  · rw [cleared]
    exact sound_of_entries_eq_nil rfl
  · rw [same]
    exact sound
  · rw [added]
    exact sound.insert unseen

theorem Sound.after (sound : cache.Sound) (steps : List Step) : (cache.after steps).Sound := by
  induction steps generalizing cache with
  | nil => exact sound
  | cons next steps inductionHypothesis => exact inductionHypothesis (sound.step next)

theorem sound_after_empty (steps : List Step) : (empty.after steps).Sound :=
  (sound_of_entries_eq_nil rfl).after steps

/-- A sound cache answers as the reader does. -/
theorem Sound.numeral_parse (sound : cache.Sound) (text : Text) :
    (cache.parse text).1.map Shared.numeral = Numeral.parse? text := by
  have parsed := (sound.step (.parse text)).parsed _ (cache.mem_entries_parse text)
  rw [parsed, parse?_trim]

/-- In a sound cache a stamp belongs to one text. -/
theorem Sound.stamp_eq_iff
    (sound : cache.Sound) {left right : Text} {leftShared rightShared : Shared}
    (leftEntry : (left, some leftShared) ∈ cache.entries)
    (rightEntry : (right, some rightShared) ∈ cache.entries) :
    leftShared.stamp = rightShared.stamp ↔ left = right := by
  constructor
  · intro sameStamp
    by_contra different
    have entriesDiffer : (left, some leftShared) ≠ (right, some rightShared) := by
      intro same
      exact different (congrArg Prod.fst same)
    have symmetric : Std.Symm fun newer older : Text × Option Shared =>
        ∀ left ∈ newer.2, ∀ right ∈ older.2, left.stamp ≠ right.stamp :=
      ⟨fun _ _ apart left inLeft right inRight => (apart right inRight left inLeft).symm⟩
    exact sound.distinct.forall leftEntry rightEntry entriesDiffer leftShared rfl rightShared rfl
      sameStamp
  · rintro rfl
    have same := List.inj_on_of_nodup_map sound.nodup leftEntry rightEntry rfl
    rw [Prod.mk.injEq, Option.some_inj] at same
    rw [same.2]

/-! ## What a run keeps -/

/-- Entries stay until the cache is cleared. -/
theorem mem_entries_after
    {entry : Text × Option Shared} (member : entry ∈ cache.entries) {steps : List Step}
    (kept : .clear ∉ steps) :
    entry ∈ (cache.after steps).entries := by
  induction steps using List.reverseRecOn with
  | nil => exact member
  | append_singleton steps next inductionHypothesis =>
      rw [List.mem_append, List.mem_singleton, not_or] at kept
      have before := inductionHypothesis kept.1
      rw [after_concat]
      rcases (cache.after steps).step_cases next with
        ⟨clears, _⟩ | ⟨_, _, same⟩ | ⟨trimmed, _, _, added⟩
      · exact absurd clears.symm kept.2
      · rw [same]
        exact before
      · rw [added]
        exact List.mem_cons_of_mem _ before

theorem nextStamp_le_step (cache : Cache) (next : Step) :
    cache.nextStamp ≤ (cache.step next).2.nextStamp := by
  rcases cache.step_cases next with ⟨_, cleared⟩ | ⟨_, _, same⟩ | ⟨trimmed, _, _, added⟩
  · rw [cleared]
    exact le_rfl
  · rw [same]
  · rw [added]
    exact Nat.le_succ cache.nextStamp

theorem nextStamp_le_after (cache : Cache) (steps : List Step) :
    cache.nextStamp ≤ (cache.after steps).nextStamp := by
  induction steps using List.reverseRecOn with
  | nil => exact le_rfl
  | append_singleton steps next inductionHypothesis =>
      rw [after_concat]
      exact inductionHypothesis.trans (nextStamp_le_step _ next)

/-- No stamp below the given one is in the cache or will be given out. -/
structure Above (floor : Nat) (cache : Cache) : Prop where
  next : floor ≤ cache.nextStamp
  entries : ∀ entry ∈ cache.entries, ∀ shared ∈ entry.2, floor ≤ shared.stamp

theorem Above.step {floor : Nat} (above : Above floor cache) (next : Step) :
    Above floor (cache.step next).2 := by
  refine ⟨above.next.trans (cache.nextStamp_le_step next), ?_⟩
  rcases cache.step_cases next with ⟨_, cleared⟩ | ⟨_, _, same⟩ | ⟨trimmed, _, _, added⟩
  · rw [cleared]
    exact nofun
  · rw [same]
    exact above.entries
  · rw [added]
    intro entry member shared inEntry
    rcases List.mem_cons.1 member with rfl | older
    · rw [stamp_of_mem_map inEntry]
      exact above.next
    · exact above.entries entry older shared inEntry

/-- Clearing takes away all entries, and later entries have later stamps. -/
theorem above_after_of_clear_mem (cache : Cache) {steps : List Step} (cleared : .clear ∈ steps) :
    Above cache.nextStamp (cache.after steps) := by
  induction steps using List.reverseRecOn with
  | nil => exact absurd cleared List.not_mem_nil
  | append_singleton steps next inductionHypothesis =>
      rw [after_concat]
      rcases List.mem_append.1 cleared with before | last
      · exact (inductionHypothesis before).step next
      · rw [← List.mem_singleton.1 last]
        exact ⟨cache.nextStamp_le_after steps, nofun⟩

/-! ## The texts of a run -/

theorem textsSinceClear_concat (steps : List Step) (next : Step) :
    textsSinceClear (steps ++ [next]) =
      if next = .clear then [] else next.trimmed?.toList ++ textsSinceClear steps := by
  rw [textsSinceClear, List.reverse_concat]
  by_cases clears : next = .clear
  · rw [if_pos clears, List.takeWhile_cons_of_neg (by simp [clears])]
    rfl
  · rw [if_neg clears, List.takeWhile_cons_of_pos (by simp [clears])]
    cases trimmed : next.trimmed? with
    | none => exact List.filterMap_cons_none trimmed
    | some text => exact List.filterMap_cons_some trimmed

/-- The keys of a cache are the texts that were read since it was cleared. -/
theorem mem_keys_after_empty (steps : List Step) (text : Text) :
    text ∈ (empty.after steps).keys ↔ text ∈ textsSinceClear steps := by
  induction steps using List.reverseRecOn with
  | nil => exact Iff.rfl
  | append_singleton steps next inductionHypothesis =>
      rw [after_concat, textsSinceClear_concat]
      rcases (empty.after steps).step_cases next with
        ⟨clears, cleared⟩ | ⟨kept, seen, same⟩ | ⟨trimmed, reads, _, added⟩
      · rw [cleared, if_pos clears]
        exact Iff.rfl
      · rw [same, if_neg kept, List.mem_append, Option.mem_toList, inductionHypothesis]
        refine ⟨Or.inr, fun member => member.elim (fun read => ?_) id⟩
        exact inductionHypothesis.1 (seen text read)
      · have kept : next ≠ .clear := by
          rintro rfl
          cases reads
        rw [added, if_neg kept, reads, Option.toList_some, List.singleton_append, List.mem_cons,
          ← inductionHypothesis]
        exact List.mem_cons

theorem size_after_empty (steps : List Step) :
    (empty.after steps).size = (textsSinceClear steps).dedup.length := by
  have same : (empty.after steps).keys.Perm (textsSinceClear steps).dedup := by
    rw [List.perm_ext_iff_of_nodup (sound_after_empty steps).nodup (List.nodup_dedup _)]
    intro text
    rw [mem_keys_after_empty, List.mem_dedup]
  rw [← same.length_eq]
  exact (List.length_map _).symm

theorem isEmpty_after_empty (steps : List Step) :
    (empty.after steps).isEmpty = decide ((textsSinceClear steps).dedup.length = 0) := by
  rw [← size_after_empty, Bool.eq_iff_iff, decide_eq_true_eq, size, List.length_eq_zero_iff]
  exact List.isEmpty_iff

/-! ## Whole runs -/

theorem Sound.suggest?_parse (sound : cache.Sound) (check : Check) (text : Text) :
    ((cache.parse text).1.map Shared.numeral).bind check.suggest? = check.suggestFor? text := by
  rw [sound.numeral_parse]
  rfl

theorem getElem?_run_of_eq_some {steps : List Step} {index : Nat} {next : Step}
    (asked : steps[index]? = some next) :
    (cache.run steps)[index]? = some ((cache.after (steps.take index)).step next).1 := by
  rw [getElem?_run, asked, Option.map_some]

/-- The stamp of a reading is met again exactly where its text is read again, unless the
cache was cleared. -/
theorem Sound.stamp_eq_iff_of_after
    (sound : cache.Sound) (between : List Step) {left right : Text}
    {leftShared rightShared : Shared} (first : (cache.parse left).1 = some leftShared)
    (second : (((cache.parse left).2.after between).parse right).1 = some rightShared) :
    leftShared.stamp = rightShared.stamp ↔
      Text.trim left = Text.trim right ∧ .clear ∉ between := by
  have leftSound : (cache.parse left).2.Sound := sound.step (.parse left)
  have leftEntry := cache.mem_entries_parse left
  have rightEntry := ((cache.parse left).2.after between).mem_entries_parse right
  rw [first] at leftEntry
  rw [second] at rightEntry
  by_cases cleared : .clear ∈ between
  · have above := ((cache.parse left).2.above_after_of_clear_mem cleared).step (.parse right)
    have older := leftSound.used _ leftEntry leftShared rfl
    have newer := above.entries _ rightEntry rightShared rfl
    exact iff_of_false (older.trans_le newer).ne fun conditions => conditions.2 cleared
  · have kept : .clear ∉ between ++ [.parse right] := by
      simpa using cleared
    have leftKept := mem_entries_after leftEntry kept
    rw [after_concat] at leftKept
    have rightSound := (leftSound.after between).step (.parse right)
    rw [rightSound.stamp_eq_iff leftKept rightEntry]
    exact (and_iff_left cleared).symm

theorem take_eq_append_of_lt
    {α : Type} {steps : List α} {earlier later : Nat} {next : α} (before : earlier < later)
    (asked : steps[earlier]? = some next) :
    steps.take later = steps.take earlier ++ next :: (steps.take later).drop (earlier + 1) := by
  have askedBefore : (steps.take later)[earlier]? = some next := by
    rw [List.getElem?_take_of_lt before, asked]
  obtain ⟨inside, isNext⟩ := List.getElem?_eq_some_iff.1 askedBefore
  have split := List.take_append_drop earlier (steps.take later)
  rw [List.drop_eq_getElem_cons inside, isNext, List.take_take, Nat.min_eq_left before.le] at split
  exact split.symm

/-- From the empty cache on, every run is transparent. -/
theorem transparent_run (steps : List Step) : Transparent steps (empty.run steps) where
  length := empty.length_run steps
  parse index text asked := by
    have sound := sound_after_empty (steps.take index)
    exact ⟨_, getElem?_run_of_eq_some asked, sound.numeral_parse text,
      fun check => sound.suggest?_parse check text⟩
  size index asked := by
    rw [getElem?_run_of_eq_some asked, step, size_after_empty]
  isEmpty index asked := by
    rw [getElem?_run_of_eq_some asked, step, isEmpty_after_empty]
  identity earlier later left right leftShared rightShared before askedLeft askedRight
      answeredLeft answeredRight := by
    rw [getElem?_run_of_eq_some askedLeft, step, Option.some_inj, Answer.shared.injEq]
      at answeredLeft
    rw [getElem?_run_of_eq_some askedRight, step, Option.some_inj, Answer.shared.injEq,
      take_eq_append_of_lt before askedLeft, after_append] at answeredRight
    exact (sound_after_empty _).stamp_eq_iff_of_after _ answeredLeft answeredRight

/-- The second reading shares the value of the first, and the one after clearing does not. -/
example :
    ∃ numeral, empty.run
        [.parse "7_0".toList, .parse " 7_0 ".toList, .clear, .parse "7_0".toList, .size] =
      [.shared (some ⟨numeral, 0⟩), .shared (some ⟨numeral, 0⟩), .done,
        .shared (some ⟨numeral, 1⟩), .size 1] :=
  ⟨_, rfl⟩

end NumeralStyle.Cache
