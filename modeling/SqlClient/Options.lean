import SqlClient.Error

/-!
# Connection options
-/

namespace SqlClient

/-- What a connection is opened with. -/
structure Options where
  /-- Whether geometries are converted. -/
  geometry : Bool
  /-- The greatest number of rows of a query; zero stands for no limit. -/
  maxRows : Nat
  /-- The name of the worker, if it is not to be chosen. -/
  workerName : Option String
  /-- Whether the session is closed once nobody uses the connection any more. -/
  closeSessionOnDrop : Bool
  deriving DecidableEq, Repr

namespace Options

/-- No geometries, no limit, a name of the worker's own, and a session that is closed. -/
def default : Options := ⟨false, 0, none, true⟩

instance : Inhabited Options := ⟨default⟩

end Options

end SqlClient
