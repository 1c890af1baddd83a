import DeviceCatalog.Proofs.Substrate.Collection
import DeviceCatalog.Proofs.Substrate.Confinement

/-!
# Bystanders of a change

A command on a sorted set or a hash is about one member or field. To the others it makes no difference,
not even when the collection comes into being with it or is gone after it, and also when the key holds a
value of another kind, which is then left alone.
-/

namespace DeviceCatalog

namespace Query

/-- A change of the value under a key makes no difference to a query of this key. -/
def Ignores (query : String → Query) (change : Option Entry → Option Entry) : Prop :=
  ∀ (before after : KeySpace) (key : String), after[key]? = change before[key]? →
    after.answer (query key) = before.answer (query key)

variable {query : String → Query} {first second : Option Entry → Option Entry}

theorem Ignores.comp (earlier : Ignores query first) (later : Ignores query second) :
    Ignores query fun entry => second (first entry) := by
  intro before after key changed
  let between := before.alter key first
  have reached : between[key]? = first before[key]? := Std.ExtTreeMap.getElem?_alter_self
  rw [later between after key (by rw [reached, changed]), earlier before between key reached]

theorem Ignores.ite {condition : Prop} [Decidable condition] (positive : Ignores query first)
    (negative : Ignores query second) :
    Ignores query fun entry => if condition then first entry else second entry := by
  by_cases holds : condition
  · simpa only [if_pos holds] using positive
  · simpa only [if_neg holds] using negative

section

variable {command : Command} {member other : String}

/-- A command that changes one member of a sorted set makes no difference to another. -/
theorem ignores_zscore (apart : other ≠ member) {given : Option Score}
    {change : SortedSet → SortedSet} (changes : Collection.ranked.Changes command other given change) :
    Ignores (.zscore · member) command.effect := by
  intro before after key changed
  have same := changes.map_lookup apart changed
  rw [Collection.ranked_read, Collection.ranked_read] at same
  exact same

/-- A command that changes one field of a hash makes no difference to another. -/
theorem ignores_hget (apart : other ≠ member) {given : Option String}
    {change : Text.Map String → Text.Map String}
    (changes : Collection.tabled.Changes command other given change) :
    Ignores (.hget · member) command.effect := by
  intro before after key changed
  have same := changes.map_lookup apart changed
  rw [Collection.tabled_read, Collection.tabled_read] at same
  exact same

end

theorem ignores_zscore_self (member : String) : Ignores (.zscore · member) (·) :=
  fun _ _ _ same => KeySpace.answer_congr (by simpa [keys] using same)

theorem ignores_hget_self (field : String) : Ignores (.hget · field) (·) :=
  fun _ _ _ same => KeySpace.answer_congr (by simpa [keys] using same)

end Query

end DeviceCatalog
