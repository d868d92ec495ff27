import CallFlow.Session.Basic

namespace CallFlow

/-- Sessions by their ids, in the order in which they were first saved. -/
structure SessionStore where
  sessions : List Session := []

namespace SessionStore

/-- The session of an id. -/
def get? (store : SessionStore) (id : String) : Option Session :=
  store.sessions.find? fun s => s.id = id

/-- Replaces the session of an id by one of the same id, or adds it at the end. -/
def insert (session : Session) : List Session → List Session
  | [] => [session]
  | s :: rest => if s.id = session.id then session :: rest else s :: insert session rest

/-- The store with a session, in place of the one of its id. -/
def save (store : SessionStore) (session : Session) : SessionStore :=
  ⟨insert session store.sessions⟩

/-- The store without the session of an id. -/
def remove (store : SessionStore) (id : String) : SessionStore :=
  ⟨store.sessions.filter fun s => s.id ≠ id⟩

/-- The ids of the sessions. -/
def ids (store : SessionStore) : List String := store.sessions.map Session.id

/-- The number of sessions. -/
def size (store : SessionStore) : Nat := store.sessions.length

end SessionStore

end CallFlow
