import SqlClient.Worker

/-!
# Waiting requests

Requests from everyone who uses a connection wait in one queue, and the worker takes them in the order
of their arrival. Requests that wait behind a close are not served: the worker ends and lets go of them.
-/

namespace SqlClient

/-- What can be asked of a worker. -/
inductive Request where
  | execute (x : Execution)
  | fetch (cursor : Nat)
  | openCursors
  | close

/-- What a request gets. -/
inductive Reply where
  | executed (result : Except Error Outcome)
  | fetched (result : Except Error (Option (List Value)))
  | counted (result : Except Error Nat)
  | closed (result : Except Error Unit)

namespace Reply

/-- The reply to a request that fails. -/
def refusal (e : Error) : Request → Reply
  | .execute _ => .executed (.error e)
  | .fetch _ => .fetched (.error e)
  | .openCursors => .counted (.error e)
  | .close => .closed (.error e)

/-- The error in a reply, if it is one. -/
def error? : Reply → Option Error
  | .executed (.error e) | .fetched (.error e) | .counted (.error e) | .closed (.error e) => some e
  | _ => none

end Reply

/-- What a request gets that was waiting when the worker ended. -/
def Request.abandonment : Request → EngineError
  | .execute _ => .connection "Session worker closed while executing a statement"
  | .fetch _ => .connection "Session worker closed while fetching a row"
  | .openCursors => .connection "Session worker closed while counting cursors"
  | .close => .connection "Session worker closed while closing the session"

namespace Worker

variable {σ π κ : Type} (E : Engine σ π κ)

/-- Serves one request. -/
def serve (w : Worker σ κ) : Request → Reply × Worker σ κ
  | .execute x => let r := w.execute E x; (.executed r.1, r.2)
  | .fetch number => let r := w.fetch E number; (.fetched r.1, r.2)
  | .openCursors => let r := w.openCursors; (.counted r.1, r.2)
  | .close => let r := w.close E; (.closed r.1, r.2)

/-- Lets go of requests without serving them. -/
def abandon (requests : List Request) : List Reply :=
  requests.map fun r => .refusal r.abandonment r

/-- Serves waiting requests in turn, up to the first close. -/
def serveWaiting (w : Worker σ κ) : List Request → List Reply × Worker σ κ
  | [] => ([], w)
  | request :: rest =>
    let first := w.serve E request
    match request with
    | .close => (first.1 :: abandon rest, first.2)
    | _ =>
      let later := serveWaiting first.2 rest
      (first.1 :: later.1, later.2)

/-- Every waiting request gets exactly one reply. -/
theorem length_serveWaiting (w : Worker σ κ) (requests : List Request) :
    (w.serveWaiting E requests).1.length = requests.length := by
  induction requests generalizing w with
  | nil => rfl
  | cons request rest ih => cases request <;> simp [serveWaiting, abandon, ih]

end Worker

end SqlClient
