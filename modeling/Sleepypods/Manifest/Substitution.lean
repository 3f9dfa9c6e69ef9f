import Sleepypods.Manifest.Bind

/-! Substituting the values into the placeholder text. Author text that spells no token between two
values is left alone, and every token is replaced by the value it stands for. -/

set_option autoImplicit false

namespace Sleepypods.Manifest

open Library Library.Fallible

def fieldValue (values : InstanceValues) (field : String) : String :=
  (Entries.get? field values).getD ""

def TemplateTextPart.fill (values : InstanceValues) : TemplateTextPart → String
  | .literal text => text
  | .instanceValue field => fieldValue values field

def TemplateText.Supplied (template : TemplateText) (values : InstanceValues) : Prop :=
  ∀ field, .instanceValue field ∈ template.parts → Entries.get? field values ≠ none

/-! ### Tokens -/

variable {marker lead rest tail extra : List Char}

namespace PlaceholderDocument

variable {document : PlaceholderDocument} {values : InstanceValues}

end PlaceholderDocument

/-! ### Rendering -/

section rendering

variable {template : TemplateText} {values : InstanceValues}

/-- The placeholder document with the value of each of its fields. -/
def TemplateText.filled (template : TemplateText) (values : InstanceValues) :
    PlaceholderDocument :=
  { PlaceholderDocument.new template with
    substitutions := (PlaceholderDocument.new template).fields.zipIdx.map fun entry =>
      (token (uniquePrefix template) entry.2, fieldValue values entry.1) }

section found

variable {index : Nat} {field : String} (found : (template.filled values).fields[index]? = some field)

include found

end found

theorem TemplateText.Supplied.render (supplied : template.Supplied values)
    {part : TemplateTextPart} (member : part ∈ template.parts) :
    part.render values = .ok (part.fill values) := by
  cases part with
  | literal => rfl
  | instanceValue field =>
    obtain ⟨value, found⟩ := Option.ne_none_iff_exists'.mp (supplied field member)
    simp [TemplateTextPart.render, TemplateTextPart.fill, fieldValue, requiredValue, orError, found]

end rendering

namespace Sample

def values : InstanceValues := [("image", "sleepypodsInstanceValue0-")]

/-- An author's text that spells the first half of a token, and the rest of it. -/
def split : TemplateText :=
  ⟨[.literal "sleepypodsInstance", .literal "Value0-", .instanceValue "image"]⟩

def joined : TemplateText := ⟨[.literal "sleepypodsInstance: ", .instanceValue "image"]⟩

end Sample

end Sleepypods.Manifest
