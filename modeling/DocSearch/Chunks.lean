/-!
Work on a list in chunks that run side by side. Whatever order the chunks are done in, the results
are put together in the order of the list, and of several failures the one of the earliest chunk
counts. A token that fires stops the work as soon as its coordinator waits again.
-/

namespace DocSearch

/-- A quotient rounded up. -/
def ceilDiv (n d : Nat) : Nat := (n + d - 1) / d

/-- The length of the chunks of a list, the last of which may be shorter. -/
def chunkSize (length batch : Nat) : Nat := ceilDiv length (max 1 batch)

/-- The chunks of a list by their first place and the place after their last: at most `batch` of
them, none empty, all but the last of one length. -/
def chunkRanges (length batch : Nat) : List (Nat × Nat) :=
  if length = 0 then []
  else
    let size := chunkSize length batch
    (List.range (ceilDiv length size)).map fun i => (i * size, min ((i + 1) * size) length)

variable {α β ε : Type}

/-- The items of each chunk, taken from a list one after the other. -/
def takeChunks : List (Nat × Nat) → List α → List (List α)
  | [], _ => []
  | (first, last) :: ranges, items =>
    items.take (last - first) :: takeChunks ranges (items.drop (last - first))

def chunks (batch : Nat) (items : List α) : List (List α) :=
  takeChunks (chunkRanges items.length batch) items

/-- Why work in chunks has no output: the token has fired, a chunk has no outcome, or a chunk has
failed. -/
inductive ChunkFailure (ε : Type) where
  | cancelled
  | missing (chunk : Nat)
  | failed (e : ε)
  deriving Repr, DecidableEq

/-- The outputs of chunks in the order of the list, or the first failure among them. The first slot
is that of the chunk with number `chunk`. -/
def assemble (chunk : Nat) :
    List (Option (Except ε (List β))) → Except (ChunkFailure ε) (List β)
  | [] => .ok []
  | none :: _ => .error (.missing chunk)
  | some (.error e) :: _ => .error (.failed e)
  | some (.ok output) :: slots => (assemble (chunk + 1) slots).map (output ++ ·)

/-- The work as its coordinator sees it: before each chunk is handed in it looks whether the token
has fired, and once more after the last. The chunks are done in the order of `done`. -/
def coordinate (fired : Nat → Bool) (work : Nat → Option (Except ε (List β))) :
    (look : Nat) → (done : List Nat) → List (Option (Except ε (List β))) →
      Except (ChunkFailure ε) (List β)
  | look, [], slots => if fired look then .error .cancelled else assemble 0 slots
  | look, i :: done, slots =>
    if fired look then .error .cancelled
    else coordinate fired work (look + 1) done (slots.set i (work i))

def process (fired : Nat → Bool) (done : List Nat) (batch : Nat)
    (worker : List α → Except ε (List β)) (items : List α) : Except (ChunkFailure ε) (List β) :=
  let parts := chunks batch items
  coordinate fired (fun i => parts[i]?.map worker) 0 done (List.replicate parts.length none)

end DocSearch
