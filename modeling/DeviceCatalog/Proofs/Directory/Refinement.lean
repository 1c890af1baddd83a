import DeviceCatalog.Proofs.Directory.Listing

/-!
# Calls follow their meaning

One call on the image of a catalog: it leaves the image of the catalog that it means to leave, for
every layout, and it results in what it means. The two exceptions from the latter are stated as they
are: a page needs a listing that fits into memory, and a search for the record of the empty id needs
a separator, since the key of that record is the key of the index of ids otherwise.
-/

namespace DeviceCatalog

namespace Directory.Request

/-- A call that asks for a page of a listing. -/
def isPage : Request → Bool
  | allDevices .. | devicesByService .. | devicesByProfile .. | devicesByLabels .. => true
  | _ => false

/-- A call that looks for the record of an empty id. -/
def looksForEmptyId : Request → Bool
  | deviceById id | deleteById id => id.isEmpty
  | _ => false

end Directory.Request

namespace Mirrors

open Directory Action

variable {layout : Layout} {space : KeySpace} {catalog : Catalog}
variable {source : Type} [Clock source]

/-- Every call leaves the image of the catalog that it means to leave. -/
theorem follows_serve (mirrors : Mirrors layout space catalog) (clock : source)
    (request : Request) :
    ((request.action layout).run.evaluate space clock).2.2 =
        (catalog.serve layout clock request).2.2 ∧
      Mirrors layout ((request.action layout).run.evaluate space clock).2.1
        (catalog.serve layout clock request).2.1 := by
  cases request with
  | create device =>
      have realized := mirrors.realizes_create device clock
      exact ⟨realized.clock, realized.mirrors⟩
  | update device =>
      have realized := mirrors.realizes_update device clock
      exact ⟨realized.clock, realized.mirrors⟩
  | deleteByName name =>
      have realized := mirrors.realizes_deleteByName name clock
      exact ⟨realized.clock, realized.mirrors⟩
  | deleteById id =>
      cases found : catalog[id]? with
      | none =>
          obtain ⟨failure, evaluated⟩ := mirrors.evaluate_deviceById_of_absent found clock
          have failed : (deleteById layout id).run.evaluate space clock =
              (.error failure, space, clock) := evaluate_bind_of_error evaluated
          simp only [Request.action, failed, Catalog.serve, found, Catalog.delete]
          exact ⟨trivial, mirrors⟩
      | some device =>
          obtain ⟨held, rfl⟩ := mirrors.valid.lookup_iff.1 found
          have nonempty := (mirrors.valid.admits device held).nonempty
          have realized := mirrors.realizes_deleteById (.inr nonempty) clock
          exact ⟨realized.clock, realized.mirrors⟩
  | deviceById _ | deviceByName _ | existsId _ | existsName _ | allDevices _ _
  | devicesByService _ _ _ | devicesByProfile _ _ _ | devicesByLabels _ _ _ | count
  | countByService _ | countByProfile _ =>
      rw [(Request.reading_action layout rfl).evaluate space clock]
      exact ⟨rfl, mirrors⟩

/-- Every call results in what it means, when it does not mistake the collection for the record of an
empty id, and when the listing that its page is cut out of fits into memory. -/
theorem outcome_serve (mirrors : Mirrors layout space catalog) (clock : source) (request : Request)
    (separated : request.looksForEmptyId = true → layout.separator ≠ "")
    (small : request.isPage = true → catalog.size < 2 ^ 63) :
    ((request.action layout).run.evaluate space clock).1 =
      (catalog.serve layout clock request).1 := by
  have apart (id : String) (given : id.isEmpty = true → layout.separator ≠ "") :
      layout.separator ≠ "" ∨ id ≠ "" := by
    by_cases empty : id = ""
    · exact .inl (given (by simp [empty]))
    · exact .inr empty
  cases request with
  | create device => exact (mirrors.realizes_create device clock).outcome
  | update device => exact (mirrors.realizes_update device clock).outcome
  | deleteById id => exact (mirrors.realizes_deleteById (apart id separated) clock).outcome
  | deleteByName name => exact (mirrors.realizes_deleteByName name clock).outcome
  | deviceById id => exact congrArg Prod.fst (mirrors.evaluate_deviceById (apart id separated) clock)
  | deviceByName name => exact congrArg Prod.fst (mirrors.evaluate_deviceByName name clock)
  | existsId id => exact congrArg Prod.fst (mirrors.evaluate_existsId id clock)
  | existsName name => exact congrArg Prod.fst (mirrors.evaluate_existsName name clock)
  | allDevices offset limit =>
      exact congrArg Prod.fst (mirrors.evaluate_selection (small rfl) .all offset limit clock)
  | devicesByService offset limit service =>
      exact congrArg Prod.fst
        (mirrors.evaluate_selection (small rfl) (.service service) offset limit clock)
  | devicesByProfile offset limit profile =>
      exact congrArg Prod.fst
        (mirrors.evaluate_selection (small rfl) (.profile profile) offset limit clock)
  | devicesByLabels offset limit labels =>
      exact congrArg Prod.fst
        (mirrors.evaluate_selection (small rfl) (.labelled labels) offset limit clock)
  | count => exact congrArg Prod.fst (evaluate_ask (mirrors.answer_zcard mirrors.ids))
  | countByService service =>
      have ranks := mirrors.groups (.service service)
      exact congrArg Prod.fst (evaluate_ask (mirrors.answer_zcard ranks))
  | countByProfile profile =>
      have ranks := mirrors.groups (.profile profile)
      exact congrArg Prod.fst (evaluate_ask (mirrors.answer_zcard ranks))

end Mirrors

end DeviceCatalog
