import Groth16.Arena.Basic

/-!
# Sessions with an arena

A session is an arena with the marks taken so far, and its client: each step allocates,
marks, rewinds or opens a scope, and the client fills what it is given to write to.
-/

namespace Groth16
namespace Arena

/-- What a client asks for. -/
inductive Request where
  /-- Bytes to write to. -/
  | bytes (size alignment : Nat)
  /-- Copies of a number of `width` bytes, which also aligns them. -/
  | items (width count value : Nat)
  /-- One word. -/
  | word (value : Nat)
  deriving Repr, DecidableEq

/-- What a client finds in the place it was given. -/
inductive Grant where
  | bytes (count : Nat) (allZero : Bool)
  | items (count sum : Nat)
  | word (value : Nat)
  deriving Repr, DecidableEq

/-- The least significant `width` bytes of a number, least significant first. -/
def littleEndian : (width : Nat) → Nat → List UInt8
  | 0, _ => []
  | width + 1, n => UInt8.ofNat n :: littleEndian width (n / 256)

/-- The number of the bytes, least significant first. -/
def ofLittleEndian (bytes : List UInt8) : Nat :=
  bytes.foldr (fun byte value => byte.toNat + 256 * value) 0

/-- The numbers of `width` bytes found from `start` on. -/
def readItems (arena : Arena) (start width count : Nat) : List Nat :=
  (List.range count).map fun index => ofLittleEndian (arena.read (start + index * width) width)

/-- The byte with which the client fills what it may write to. -/
def clientByte : UInt8 := 0xab

/-- Serves a request: the client reads what it was given and fills plain bytes. -/
def Request.serve : Request → ArenaM Grant
  | bytes size alignment => do
    let start ← allocBytes size alignment
    let found := (← get).read start size
    modify (·.overwrite start size fun _ => clientByte)
    return .bytes found.length (found.all (· == 0))
  | items width count value => do
    let start ← allocItems (littleEndian width value) width count
    return .items count (((← get).readItems start width count).foldl (· + ·) 0 % 2 ^ 64)
  | word value => do
    let start ← allocItems (littleEndian 8 value) 8 1
    return .word (ofLittleEndian ((← get).read start 8))

/-- Serves requests in order, each of which may fail by itself. -/
def serveAll (requests : List Request) : StateM Arena (List (Except ArenaError Grant)) :=
  requests.mapM fun request => request.serve.run

/-- An arena with the marks taken so far, oldest first. -/
structure Session where
  arena : Arena
  marks : List Nat

/-- A step of a session. -/
inductive Step where
  | request (request : Request)
  | checkpoint
  /-- Rewinds to the mark of the given number. -/
  | restore (number : Nat)
  | reset
  | scope (requests : List Request)
  /-- Shows the sizes of the arena. -/
  | describe
  deriving Repr, DecidableEq

/-- What a step gives to the client. -/
inductive StepResult where
  | grant (result : Except ArenaError Grant)
  | mark (offset : Nat)
  | nothing
  | text (description : String)
  | scope (results : List (Except ArenaError Grant)) (used : Nat)

/-- Takes a step. -/
def Step.run : Step → StateM Session StepResult
  | .request wish => fun session =>
    let (result, arena) := wish.serve.run session.arena
    (.grant result, { session with arena })
  | .checkpoint => fun session =>
    let mark := session.arena.checkpoint
    (.mark mark, { session with marks := session.marks ++ [mark] })
  | .restore number => fun session =>
    match session.marks[number]? with
    | some mark => (.nothing, { session with arena := session.arena.restore mark })
    | none => (.nothing, session)
  | .reset => fun session => (.nothing, { session with arena := session.arena.reset })
  | .describe => fun session => (.text session.arena.describe, session)
  | .scope requests => fun session =>
    let body : StateM Arena StepResult := do
      let results ← serveAll requests
      return .scope results (← get).used
    let (result, arena) := Arena.scope body session.arena
    (result, { session with arena })

end Arena
end Groth16
