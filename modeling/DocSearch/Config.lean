import DocSearch.Query.Wire

/-!
How much of the work on an answer runs side by side, and how large a page may be.
-/

namespace DocSearch

/-- The settings of an index. -/
structure ExecutionConfig where
  concurrentBatch : UInt64 := 10
  cursorLimit : UInt64 := 10000
  deriving Repr, DecidableEq

namespace ExecutionConfig

/-- Sets the number of chunks, which is at least one. -/
def withConcurrentBatch (c : ExecutionConfig) (n : UInt64) : ExecutionConfig :=
  { c with concurrentBatch := if n = 0 then 1 else n }

/-- Sets the greatest size of a page. -/
def withCursorLimit (c : ExecutionConfig) (n : UInt64) : ExecutionConfig :=
  { c with cursorLimit := n }

def toJson (c : ExecutionConfig) : Json :=
  .object [("concurrent_batch", .ofWord c.concurrentBatch), ("cursor_limit", .ofWord c.cursorLimit)]

def decode (j : Json) : Except DecodeError ExecutionConfig := do
  let r ← Decode.record "ExecutionConfig" ["concurrent_batch", "cursor_limit"] j
  let batch := r.slot "concurrent_batch" Decode.size64
  let limit := r.slot "cursor_limit" Decode.size64
  r.check [batch.fault, limit.fault]
  return ⟨batch.getD 10, limit.getD 10000⟩

end ExecutionConfig

end DocSearch
