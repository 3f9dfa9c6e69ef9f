import Sleepypods.Idle.Reports
import Sleepypods.Library.OrderedMap

/-! Instance values: what a class version asks of them, and what validation makes of them. -/

set_option autoImplicit false

namespace Sleepypods.Workload

open Library Library.Fallible Idle

structure WorkloadValueFieldRule where
  required : Bool
  default : Option String

structure WorkloadValueSchema where
  fields : OrderedMap String WorkloadValueFieldRule
  allowExtra : Bool

abbrev Values := OrderedMap String String

/-- A class version with the schema of its values, which its validation does not look at. -/
structure ValuedClassVersion extends WorkloadClassVersion where
  valueSchema : WorkloadValueSchema

/-! ### Filled fields -/

variable {fields : List (String × WorkloadValueFieldRule)} {values validated : Values}

def Settles (validated : Values) (entry : String × WorkloadValueFieldRule) : Prop :=
  entry.2.required = true ∨ entry.2.default ≠ none → validated.get? entry.1 ≠ none

/-- What filling does: nothing is lost, only defaults are added, and nothing asked for is left
out. -/
structure Filled (fields : List (String × WorkloadValueFieldRule)) (values validated : Values) :
    Prop where
  kept : ∀ field value, values.get? field = some value → validated.get? field = some value
  origin : ∀ field value, validated.get? field = some value → values.get? field = some value ∨
    ∃ rule, (field, rule) ∈ fields ∧ rule.default = some value
  settled : ∀ entry ∈ fields, Settles validated entry

theorem Filled.unchanged (settled : ∀ entry ∈ fields, Settles values entry) :
    Filled fields values values :=
  ⟨fun _ _ found => found, fun _ _ found => .inl found, settled⟩

variable {entry : String × WorkloadValueFieldRule}

namespace Sample

/-- A class whose instances may leave out their image. -/
def version (image : String) : ValuedClassVersion where
  templateContract := .ok ()
  sleepPolicy := ⟨1000, 1000, 1000, none⟩
  keyContract := .ok ()
  valueSchema := ⟨.ofList [("image", ⟨false, some image⟩)], false⟩

end Sample

end Sleepypods.Workload
