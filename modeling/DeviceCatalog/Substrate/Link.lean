import DeviceCatalog.Clock
import DeviceCatalog.Substrate.Memory
import DeviceCatalog.Substrate.Script

/-!
# Running scripts

A link stands between the directory and the in-process substrate. It records every call that
passes, and it can be told to break a single call: a number of calls still pass, and the one after
them fails before it reaches the substrate.
-/

namespace DeviceCatalog

/-- A call that was made. -/
inductive Call where
  | ask (query : Query)
  | exec (batch : Batch)
deriving DecidableEq, Repr

/-- A connection that breaks once. -/
structure Breakage where
  /-- Calls that still pass. -/
  after : Nat
  reason : String
deriving DecidableEq, Repr

/-- A recorded connection to the in-process substrate. -/
structure Link where
  memory : Memory
  breakage : Option Breakage
  /-- Calls made, the last one first; failed calls are among them. -/
  calls : List Call

namespace Link

/-- A link to an empty substrate. -/
def empty : Link where
  memory := .empty
  breakage := none
  calls := []

instance : Inhabited Link := ⟨empty⟩

/-- Records a call and says whether it breaks. -/
def pass (link : Link) (call : Call) : Option StorageError × Link :=
  let recorded := { link with calls := call :: link.calls }
  match link.breakage with
  | none => (none, recorded)
  | some ⟨0, reason⟩ => (some (.connection reason), { recorded with breakage := none })
  | some ⟨after + 1, reason⟩ => (none, { recorded with breakage := some ⟨after, reason⟩ })

/-- Passes a query on. -/
def ask (link : Link) (query : Query) : Except StorageError query.Answer × Link :=
  match link.pass (.ask query) with
  | (some failure, after) => (.error failure, after)
  | (none, after) => (after.memory.ask query, after)

/-- Passes a batch on. -/
def exec (link : Link) (batch : Batch) : Except StorageError Unit × Link :=
  match link.pass (.exec batch) with
  | (some failure, after) => (.error failure, after)
  | (none, after) =>
    match after.memory.exec batch with
    | (answer, memory) => (answer, { after with memory := memory })

end Link

namespace Script

variable {result source : Type} [Clock source]

/-- Runs a script over a link and a clock. -/
def run : Script result → Link → source → result × Link × source
  | done value, link, clock => (value, link, clock)
  | ask query next, link, clock =>
    match link.ask query with
    | (answer, after) => (next answer).run after clock
  | exec batch next, link, clock =>
    match link.exec batch with
    | (answer, after) => (next answer).run after clock
  | readClock next, link, clock =>
    match Clock.read clock with
    | (time, after) => (next time).run link after

end Script

end DeviceCatalog
