import NumeralStyle.Cache
import NumeralStyle.Check
import NumeralStyle.Style.Document

/-!
# Sessions

A session edits a style, builds a check from it, and reads and checks texts through
a cache.  The style in hand and the style of the check are independent: editing the
one leaves the other as it is until the check is built anew.
-/

namespace NumeralStyle

/-- What a session holds.  The stamps are those of the shared values that have been
answered so far, in the order of their first answers. -/
structure Session where
  style : Style := .conventional
  check? : Option Check := none
  cache : Cache := .empty
  stamps : List Nat := []

namespace Session

inductive Step where
  | setStyle (style : Style)
  | setRule (base : Base) (rule : Rule)
  | load (document : Text)
  | save
  | validate
  | build
  | skipSeparated
  /-- Compare the style of the check with the style in hand. -/
  | compare
  | check (text : Text)
  /-- Check a text that is read through the cache. -/
  | checkCached (text : Text)
  | parse (text : Text)
  | size
  | clear

inductive Answer where
  | done
  | failed (error : StyleError)
  | style (style : Style)
  | document (text : Text)
  | flag (value : Bool)
  /-- The style of the check, and whether it is the style in hand. -/
  | comparison (compared : Option (Style × Bool))
  | suggestion (suggestion : Option Suggestion)
  | cachedSuggestion (suggestion : Option Suggestion) (size : Nat)
  /-- The numeral with its place among the shared values answered so far. -/
  | shared (shared : Option (Numeral × Nat)) (size : Nat)
  | size (size : Nat) (isEmpty : Bool)

def takeStyle (session : Session) (style : Style) : Answer × Session :=
  (.style style, { session with style := style })

/-- The stamps with one more, unless it is among them. -/
def noteStamp (stamps : List Nat) (stamp : Nat) : List Nat :=
  if stamp ∈ stamps then stamps else stamps ++ [stamp]

def takeCache (session : Session) (cache : Cache) : Answer × Session :=
  (.size cache.size cache.isEmpty, { session with cache := cache })

/-- Read a text through the cache and number the shared value. -/
def parse (session : Session) (text : Text) : Answer × Session :=
  let (shared?, cache) := session.cache.parse text
  match shared? with
  | none => (.shared none cache.size, { session with cache := cache })
  | some shared =>
    let stamps := noteStamp session.stamps shared.stamp
    (.shared (some (shared.numeral, stamps.idxOf shared.stamp)) cache.size,
      { session with cache := cache, stamps := stamps })

def step (session : Session) : Step → Answer × Session
  | .setStyle style => session.takeStyle style
  | .setRule base rule => session.takeStyle (session.style.withRule base rule)
  | .load document =>
    match Style.ofDocument document with
    | .error error => (.failed error, session)
    | .ok style => session.takeStyle style
  | .save => (.document session.style.document, session)
  | .validate =>
    match session.style.validate with
    | .error error => (.failed error, session)
    | .ok () => (.done, session)
  | .build =>
    match Check.ofStyle session.style with
    | .error error => (.failed error, session)
    | .ok check => (.done, { session with check? := some check })
  | .skipSeparated =>
    (.flag session.check?.isSome,
      { session with check? := session.check?.map Check.skipSeparated })
  | .compare =>
    (.comparison (session.check?.map fun check =>
      (check.style, decide (check.style = session.style))), session)
  | .check text =>
    (.suggestion (session.check?.bind fun check => check.suggestFor? text), session)
  | .checkCached text =>
    let (shared?, cache) := session.cache.parse text
    let suggestion? := session.check?.bind fun check =>
      shared?.bind fun shared => check.suggest? shared.numeral
    (.cachedSuggestion suggestion? cache.size, { session with cache := cache })
  | .parse text => session.parse text
  | .size => session.takeCache session.cache
  | .clear => session.takeCache session.cache.clear

def run (session : Session) : List Step → List Answer
  | [] => []
  | next :: steps =>
    let (answer, session) := session.step next
    answer :: session.run steps

end Session

end NumeralStyle
