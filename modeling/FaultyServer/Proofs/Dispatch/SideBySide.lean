import FaultyServer.Dispatch.Session

/-!
# Dispatchers side by side

Several dispatchers, each with its own counter, on one clock. A move of one of them changes the
others in no other way than that time passes for them (`getElem?_runAmong`).
-/

namespace FaultyServer.Dispatch

/-- Lets milliseconds pass, if there are any. -/
def Session.elapse (s : Session) (ms : Nat) : Session := if ms = 0 then s else s.pass ms

/-- One of several dispatchers makes a move. The time that it takes passes for the others, too. -/
def makeAmong (sessions : List Session) (mover : Nat) (move : Move) : List Session :=
  match sessions[mover]? with
  | none => sessions
  | some s =>
    sessions.mapIdx fun i t =>
      if i = mover then s.make move else t.elapse ((s.make move).now - s.now)

/-- Dispatchers make moves in their order. -/
def runAmong (sessions : List Session) (moves : List (Nat × Move)) : List Session :=
  moves.foldl (fun sessions (mover, move) => makeAmong sessions mover move) sessions

/-- What a move of some dispatcher is to one of them: its own move, or a pause, if any. -/
def ownMove (id : Nat) (sessions : List Session) (mover : Nat) (move : Move) : List Move :=
  if mover = id then [move]
  else
    match sessions[mover]? with
    | none => []
    | some s => if (s.make move).now - s.now = 0 then [] else [.pass ((s.make move).now - s.now)]

/-- The moves of one dispatcher, and pauses for the time that the moves of the others take. -/
def ownMoves (id : Nat) : List Session → List (Nat × Move) → List Move
  | _, [] => []
  | sessions, (mover, move) :: rest =>
    ownMove id sessions mover move ++ ownMoves id (makeAmong sessions mover move) rest

theorem getElem?_makeAmong (sessions : List Session) (id mover : Nat) (move : Move) :
    (makeAmong sessions mover move)[id]? =
      (sessions[id]?).map (·.run (ownMove id sessions mover move)) := by
  rw [makeAmong, ownMove]
  cases hs : sessions[mover]? with
  | none =>
    by_cases hid : mover = id
    · subst hid
      rw [hs]
      rfl
    · rw [if_neg hid]
      exact Option.map_id'.symm
  | some s =>
    dsimp only
    rw [List.getElem?_mapIdx]
    by_cases hid : mover = id
    · subst hid
      rw [hs, if_pos rfl]
      simp only [Option.map_some, if_true]
      rfl
    · rw [if_neg hid]
      congr 1
      funext t
      rw [if_neg (Ne.symm hid), Session.elapse]
      split <;> rfl

/-- A dispatcher among others is after a session what it is after its own moves alone, with pauses
for the time that the others take. -/
theorem getElem?_runAmong (sessions : List Session) (moves : List (Nat × Move)) (id : Nat) :
    (runAmong sessions moves)[id]? = (sessions[id]?).map (·.run (ownMoves id sessions moves)) := by
  induction moves generalizing sessions with
  | nil => exact Option.map_id'.symm
  | cons first rest ih =>
    obtain ⟨mover, move⟩ := first
    have hrest : runAmong sessions ((mover, move) :: rest) =
        runAmong (makeAmong sessions mover move) rest := rfl
    rw [hrest, ih, getElem?_makeAmong, Option.map_map, ownMoves]
    congr 1
    funext s
    exact (List.foldl_append ..).symm

end FaultyServer.Dispatch
