import CallFlow.Turn.Walk

namespace CallFlow

/-- Where a call is in its life. -/
inductive SessionStatus where
  | pending
  | active
  | ended
  | transferred
  | hungUp
  deriving Repr, DecidableEq

/-- The word for a status. -/
def SessionStatus.word : SessionStatus → String
  | pending => "pending"
  | active => "active"
  | ended => "ended"
  | transferred => "transferred"
  | hungUp => "hung_up"

/-- Who said something in a call. -/
inductive Speaker where
  | caller
  | agent
  deriving Repr, DecidableEq

/-- The word for a speaker. -/
def Speaker.word : Speaker → String
  | caller => "user"
  | agent => "assistant"

/-- Something that was said in a call. -/
structure Line where
  speaker : Speaker
  text : String
  deriving Repr, DecidableEq

/-- A line as an entry of the history. -/
def Line.entry (l : Line) : Entry := .said l.speaker.word l.text

/-- The walks of a turn: the one that the caller's words begin, and those that follow from it
without a word. -/
structure Passage where
  first : Walk
  more : List Walk := []
  deriving Repr

namespace Passage

/-- The walks in order. -/
def walks (p : Passage) : List Walk := p.first :: p.more

/-- The result of the last walk. -/
def result (p : Passage) : TurnResult := (p.more.getLast?.getD p.first).result

/-- A passage with a walk before it. -/
def after (w : Walk) (p : Passage) : Passage := ⟨w, p.walks⟩

end Passage

/-- A call in progress: what lasts from turn to turn. The result of a turn is committed only if the
caller is still there when it comes. A result without a word takes the session to the next node at
once, so that the caller is not left in silence. -/
structure Session where
  id : String
  flow : Flow
  /-- The node where the next turn begins. -/
  node : Option String
  bindings : Bindings
  lines : List Line := []
  turnCount : Nat := 0
  status : SessionStatus := .pending
  transferTo : Option String := none
  lastResult : Option TurnResult := none
  deriving Repr

/-- Why a session refuses to go on. -/
inductive Closed where
  | alreadyStarted (id : String)
  | inactive (id : String) (status : SessionStatus)
  deriving Repr, DecidableEq

/-- The wording of a refusal. -/
def Closed.message : Closed → String
  | alreadyStarted id => s!"Session {id} already started"
  | inactive id status => s!"Session {id} is {status.word}"

namespace Session

/-- A session of a flow before its first turn. Variables that are given go before the defaults. -/
def new (id : String) (flow : Flow) (bindings : Bindings) : Session where
  id := id
  flow := flow
  node := flow.entry?
  bindings := flow.initialVariables.update bindings

def isActive (s : Session) : Bool := s.status = .pending || s.status = .active

/-- Ends the call from the caller's side. -/
def hangUp (s : Session) : Session := if s.isActive then { s with status := .hungUp } else s

/-- The lines that are kept of all. -/
def keep (settings : EngineSettings) (lines : List Line) : List Line :=
  let limit := settings.historyLimit
  if limit ≠ 0 && (lines.length : Int) > limit then lastItems lines limit else lines

/-- The lines that a turn adds. -/
def newLines (utterance : Option String) (response : String) : List Line :=
  (utterance.map fun u => ⟨.caller, u⟩).toList
    ++ if response = "" then [] else [⟨.agent, response⟩]

/-- The session after the result of a turn. -/
def commit (settings : EngineSettings) (s : Session) (utterance : Option String)
    (r : TurnResult) : Session :=
  let s :=
    { s with
      lines := keep settings (s.lines ++ newLines utterance r.response)
      turnCount := s.turnCount + if utterance.isSome then 1 else 0
      bindings := r.bindings
      lastResult := some r }
  match r.move.action with
  | .finish => { s with status := .ended }
  | .transfer => { s with status := .transferred, transferTo := r.move.destination? }
  | .speak | .gather => { s with node := r.move.next? <|> s.node }

/-- The turn that a session is to run. -/
def turn (settings : Settings) (s : Session) (utterance : Option String) : Turn where
  settings := settings
  flow := s.flow
  userInput := utterance.getD ""
  history := (s.lines ++ newLines utterance "").map Line.entry

/-- The variables with which a turn begins. -/
def turnVariables (s : Session) (utterance : Option String) : Bindings :=
  match utterance with
  | some u => s.bindings.set userInputName (.text u)
  | none => s.bindings

/-- Takes a walk from where the session is, and commits its result if the caller is still there. -/
def execute (settings : Settings) (s : Session) (utterance : Option String) :
    Dialogue (Walk × Session) := do
  let w ← (s.turn settings utterance).run (s.node.getD "") (s.turnVariables utterance)
  let s := if ← .query .hungUp then s.hangUp else s
  return (w, if s.isActive then s.commit settings.engine utterance w.result else s)

/-- Whether a result leaves the caller in silence, with a node to go on to. -/
def isSilentAdvance (s : Session) (r : TurnResult) : Bool :=
  s.isActive && r.move.action = .gather && r.response = "" && r.move.next?.any (· ≠ "")

/-- Goes on from silent results, so many times at most. -/
def followUp (settings : Settings) : Nat → Walk × Session → Dialogue (Passage × Session)
  | 0, (w, s) => return (⟨w, []⟩, s)
  | n + 1, (w, s) => do
    if s.isSilentAdvance w.result then
      let (p, s) ← followUp settings n (← s.execute settings none)
      return (p.after w, s)
    else return (⟨w, []⟩, s)

/-- Runs a turn and whatever follows from it without a word of the caller. -/
def advance (settings : Settings) (s : Session) (utterance : Option String) :
    Dialogue (Passage × Session) := do
  followUp settings settings.engine.hops (← s.execute settings utterance)

/-- The session ended if it has had its number of turns. -/
def limitTurns (s : Session) : Session :=
  match s.flow.settings.maxTurns with
  | none => s
  | some limit =>
    if s.isActive && limit ≠ 0 && (s.turnCount : Int) ≥ limit then { s with status := .ended }
    else s

/-- Begins the call. -/
def start (settings : Settings) (s : Session) :
    Dialogue (Except Closed Passage × Session) := do
  if s.status ≠ .pending then return (.error (.alreadyStarted s.id), s)
  let (p, s) ← { s with status := .active }.advance settings none
  return (.ok p, s)

/-- Takes what the caller says. -/
def input (settings : Settings) (s : Session) (text : String) :
    Dialogue (Except Closed Passage × Session) := do
  if !s.isActive then return (.error (.inactive s.id s.status), s)
  let (p, s) ← { s with status := .active }.advance settings (some text)
  return (.ok p, s.limitTurns)

/-- A session, written out. -/
def toValue (s : Session) : Value :=
  let line (l : Line) : Value :=
    .object [("role", .text l.speaker.word), ("content", .text l.text)]
  .object
    [("id", .text s.id),
     ("flow_id", .text s.flow.id),
     ("status", .text s.status.word),
     ("current_node_id", .ofText? s.node),
     ("turn_count", .int s.turnCount),
     ("variables", .object s.bindings),
     ("history", .list (s.lines.map line)),
     ("transfer_to", .ofText? s.transferTo)]

end Session

end CallFlow
