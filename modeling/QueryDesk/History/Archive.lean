import QueryDesk.Execution.Coordinator
import QueryDesk.History.Store

/-!
# The history document as the history of a session

A session sees the document as a history that it loads from and saves to; here
the errors of the document become failures of that history.
-/

namespace QueryDesk.History

open Storage Execution

/-- The failure that a load which gives up amounts to. -/
def loadFailure : LoadError → Failure
  | .integerTooLong => ⟨.value, "integer too long", true⟩
  | .tooDeep => ⟨.depth, "document nested too deep", true⟩
  | .path e => ⟨.value, e.message, true⟩

/-- The failure that an obstacle to writing a document amounts to. -/
def obstacleFailure : Json.Obstacle → Failure
  | .bytes => ⟨.type, "not a document", true⟩
  | .integerTooLong => ⟨.value, "integer too long", true⟩
  | .tooDeep => ⟨.depth, "document nested too deep", true⟩

/-- The failure that a change which was not made amounts to. -/
def storeFailure : StoreError → Failure
  | .load e => loadFailure e
  | .save (.system e) => ⟨.system, e.words, true⟩
  | .save (.obstacle o) => obstacleFailure o
  | .save (.path e) => ⟨.value, e.message, true⟩
  | .save .failed => ⟨.system, "failed", true⟩
  | .save .interrupted => ⟨.runtime, "interrupted", true⟩

/-- The history of a session that is kept in a document. -/
def Store.archive (store : Store) (s : Surroundings) : Archive FileSystem where
  load fs connection := (store.load fs s connection).mapError loadFailure
  save fs connection query :=
    let change := store.save fs s connection query
    (change.fileSystem, change.answer.mapError storeFailure, change.logs)

end QueryDesk.History
