import CallFlow.Session.Store

namespace CallFlow

namespace SessionStore

variable {store : SessionStore} {session : Session} {id : String}

private theorem find?_insert (session : Session) (sessions : List Session) (id : String) :
    (insert session sessions).find? (fun s => s.id = id) =
      if session.id = id then some session else sessions.find? fun s => s.id = id := by
  induction sessions with
  | nil => simp [insert]
  | cons s rest ih =>
    by_cases hsession : s.id = session.id
    · rw [insert, if_pos hsession]
      by_cases hid : session.id = id <;> simp [hsession, hid]
    · rw [insert, if_neg hsession, List.find?_cons, List.find?_cons, ih]
      by_cases hs : s.id = id
      · simp [hs, show session.id ≠ id from fun h => hsession (hs.trans h.symm)]
      · simp [hs]

/-- Saving changes what is found under one id. -/
theorem get?_save : (store.save session).get? id =
    if session.id = id then some session else store.get? id :=
  find?_insert session store.sessions id

theorem get?_save_self : (store.save session).get? session.id = some session := by
  rw [get?_save, if_pos rfl]

theorem get?_save_of_ne (h : session.id ≠ id) : (store.save session).get? id = store.get? id := by
  rw [get?_save, if_neg h]

theorem get?_remove_self : (store.remove id).get? id = none := by
  simp [get?, remove]

theorem get?_remove_of_ne {other : String} (h : other ≠ id) :
    (store.remove other).get? id = store.get? id := by
  simp only [get?, remove, List.find?_filter]
  congr 1
  funext s
  by_cases hs : s.id = id
  · simp [hs, h.symm]
  · simp [hs]

/-- What is found under an id has it. -/
theorem id_of_get? (h : store.get? id = some session) : session.id = id := by
  simpa using List.find?_some h

private theorem insert_of_find? {sessions : List Session}
    (h : sessions.find? (fun s => s.id = session.id) = some session) :
    insert session sessions = sessions := by
  induction sessions with
  | nil => cases h
  | cons s rest ih =>
    by_cases hs : s.id = session.id
    · rw [List.find?_cons_of_pos (by simpa using hs)] at h
      rw [insert, if_pos hs, Option.some.inj h]
    · rw [List.find?_cons_of_neg (by simpa using hs)] at h
      rw [insert, if_neg hs, ih h]

/-- Nothing changes when a session is saved that is there. -/
theorem save_of_get? (h : store.get? id = some session) : store.save session = store := by
  obtain rfl := id_of_get? h
  rw [save, insert_of_find? h]

private theorem insert_insert {a b : Session} (h : a.id = b.id) (sessions : List Session) :
    insert b (insert a sessions) = insert b sessions := by
  induction sessions with
  | nil => simp [insert, h]
  | cons s rest ih =>
    by_cases hs : s.id = b.id
    · simp [insert, hs, h]
    · simp [insert, hs, h, ih]

/-- Of two sessions that are saved under one id the second is found. -/
theorem save_save {a b : Session} (h : a.id = b.id) : (store.save a).save b = store.save b := by
  rw [save, save, insert_insert h]
  rfl

end SessionStore

end CallFlow
