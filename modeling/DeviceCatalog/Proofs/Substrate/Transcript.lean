import DeviceCatalog.Substrate.Link

/-!
# Transcripts

The calls that a run makes over a link, in their order, each with how it failed. The link itself
records the calls alone; a transcript also tells which of them failed, and with what.
-/

namespace DeviceCatalog

/-- A call that was made, and how it failed if it did. -/
structure Exchange where
  call : Call
  failure : Option StorageError
deriving DecidableEq, Repr

namespace Exchange

/-- A call with its answer. -/
def ofAnswer {answer : Type} (call : Call) : Except StorageError answer → Exchange
  | .ok _ => ⟨call, none⟩
  | .error failure => ⟨call, some failure⟩

/-- The call was a query. -/
def Asks (exchange : Exchange) : Prop := ∃ query, exchange.call = .ask query

@[simp] theorem call_ofAnswer {answer : Type} (call : Call) (outcome : Except StorageError answer) :
    (ofAnswer call outcome).call = call := by
  cases outcome <;> rfl

end Exchange

namespace Link

variable (link : Link)

theorem calls_pass (call : Call) : (link.pass call).2.calls = call :: link.calls := by
  rw [pass]
  split <;> rfl

theorem calls_ask (query : Query) : (link.ask query).2.calls = .ask query :: link.calls := by
  have recorded := link.calls_pass (.ask query)
  rw [ask]
  split
  next passed => rwa [passed] at recorded
  next passed => rwa [passed] at recorded

theorem calls_exec (batch : Batch) : (link.exec batch).2.calls = .exec batch :: link.calls := by
  have recorded := link.calls_pass (.exec batch)
  rw [exec]
  split
  next passed => rwa [passed] at recorded
  next passed => rwa [passed] at recorded

end Link

namespace Script

variable {result source : Type} [Clock source]

/-- The calls that a run makes. -/
def transcript : Script result → Link → source → List Exchange
  | done _, _, _ => []
  | ask query next, link, clock =>
      match link.ask query with
      | (answer, after) =>
          .ofAnswer (.ask query) answer :: (next answer).transcript after clock
  | exec batch next, link, clock =>
      match link.exec batch with
      | (answer, after) =>
          .ofAnswer (.exec batch) answer :: (next answer).transcript after clock
  | readClock next, link, clock =>
      match Clock.read clock with
      | (time, later) => (next time).transcript link later

/-- A transcript has exactly the calls that the link has recorded during the run. -/
theorem calls_run (script : Script result) (link : Link) (clock : source) :
    (script.run link clock).2.1.calls =
      ((script.transcript link clock).map Exchange.call).reverse ++ link.calls := by
  induction script generalizing link clock with
  | done value => rfl
  | ask query next ih => simp [run, transcript, ih, link.calls_ask]
  | exec batch next ih => simp [run, transcript, ih, link.calls_exec]
  | readClock next ih => exact ih (Clock.read clock).1 link (Clock.read clock).2

end Script

end DeviceCatalog
