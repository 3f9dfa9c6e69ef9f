import Sleepypods.Library.Json
import Sleepypods.Manifest.Template

/-! Raw manifests are parsed with a token in the place of each instance value, and the values are
put into the parsed document. Whether that keeps the structure the author wrote depends on the
keys: substituted keys of one mapping may coincide. -/

set_option autoImplicit false

namespace Sleepypods.Manifest

open Library Library.Fallible

/-! ### Tokens -/

def containsText (needle : List Char) : List Char → Bool
  | [] => needle.isEmpty
  | c :: rest => needle.isPrefixOf (c :: rest) || containsText needle rest

/-- The token that stands in for the instance value at `index`. -/
def token (tokenPrefix : String) (index : Nat) : String := tokenPrefix ++ toString index ++ "-"

def TemplateTextPart.mentions (needle : String) : TemplateTextPart → Bool
  | .literal text => containsText needle.toList text.toList
  | .instanceValue _ => false

def TemplateTextPart.literalSize : TemplateTextPart → Nat
  | .literal text => text.toList.length
  | .instanceValue _ => 0

def TemplateText.literalSize (template : TemplateText) : Nat :=
  (template.parts.map TemplateTextPart.literalSize).sum

def growPrefix (template : TemplateText) : Nat → String → String
  | 0, grown => grown
  | fuel + 1, grown =>
    if template.parts.any (TemplateTextPart.mentions grown) then
      growPrefix template fuel (grown ++ "x")
    else grown

-- A text longer than every literal is in none of them, so the loop ends before its fuel does.
def uniquePrefix (template : TemplateText) : String :=
  growPrefix template (template.literalSize + 1) "sleepypodsInstanceValue"

variable {text : List Char}

theorem length_le_of_containsText {needle : List Char}
    (contained : containsText needle text = true) :
    needle.length ≤ text.length := by
  induction text with
  | nil =>
    rw [containsText, List.isEmpty_iff] at contained
    rw [contained]
  | cons _ _ ih =>
    rw [containsText, Bool.or_eq_true] at contained
    cases contained with
    | inl opens => exact (List.isPrefixOf_iff_prefix.mp opens).length_le
    | inr later => exact Nat.le_succ_of_le (ih later)

theorem TemplateTextPart.length_le_of_mentions {part : TemplateTextPart} {needle : String}
    (mentioned : part.mentions needle = true) : needle.toList.length ≤ part.literalSize := by
  cases part with
  | literal => exact length_le_of_containsText mentioned
  | instanceValue => cases mentioned

theorem growPrefix_unmentioned {template : TemplateText} {fuel : Nat} {grown : String}
    (enough : template.literalSize < grown.toList.length + fuel) :
    template.parts.any (TemplateTextPart.mentions (growPrefix template fuel grown)) = false := by
  induction fuel generalizing grown with
  | zero =>
    rw [List.any_eq_false]
    intro part member mentioned
    have short := TemplateTextPart.length_le_of_mentions mentioned
    have within : part.literalSize ≤ template.literalSize :=
      List.le_sum_of_mem (List.mem_map_of_mem member)
    simp only [growPrefix] at short
    omega
  | succ fuel ih =>
    unfold growPrefix
    split
    · apply ih
      simp only [String.toList_append, List.length_append]
      have single : "x".toList.length = 1 := by decide
      omega
    next unmentioned => exact Bool.eq_false_iff.mpr unmentioned

theorem uniquePrefix_unmentioned (template : TemplateText) :
    template.parts.any (TemplateTextPart.mentions (uniquePrefix template)) = false := by
  apply growPrefix_unmentioned
  omega

/-- A raw manifest whose instance values wait outside the text until it parses. -/
structure PlaceholderDocument where
  text : String
  tokenPrefix : String
  /-- The instance-value field behind each token, in token order. -/
  fields : List String
  /-- Each token paired with the value that replaces it. -/
  substitutions : List (String × String)
  marked : tokenPrefix ≠ ""

/-- The text with its tokens, and the fields behind them, after the first `count` tokens. -/
def placeholders (tokenPrefix : String) : Nat → List TemplateTextPart → String × List String
  | _, [] => ("", [])
  | count, .literal text :: rest =>
    let (later, fields) := placeholders tokenPrefix count rest
    (text ++ later, fields)
  | count, .instanceValue field :: rest =>
    let (later, fields) := placeholders tokenPrefix (count + 1) rest
    (token tokenPrefix count ++ later, field :: fields)

theorem growPrefix_ne_empty {template : TemplateText} {fuel : Nat} {grown : String}
    (nonempty : grown ≠ "") : growPrefix template fuel grown ≠ "" := by
  induction fuel generalizing grown with
  | zero => exact nonempty
  | succ _ ih =>
    unfold growPrefix
    split
    · apply ih
      intro empty
      have sizes := congrArg String.length empty
      simp at sizes
    · exact nonempty

namespace PlaceholderDocument

def new (template : TemplateText) : PlaceholderDocument where
  text := (placeholders (uniquePrefix template) 0 template.parts).1
  tokenPrefix := uniquePrefix template
  fields := (placeholders (uniquePrefix template) 0 template.parts).2
  substitutions := []
  marked := growPrefix_ne_empty (by decide)

def withValues (document : PlaceholderDocument) (values : InstanceValues) :
    RenderResult PlaceholderDocument := do
  let substitutions ← document.fields.zipIdx.mapM fun entry => do
    let value ← requiredValue values entry.1
    return (token document.tokenPrefix entry.2, value)
  return { document with substitutions := substitutions }

/-- The value of the token that a text opens with, and the size of that token. -/
def tokenAt (document : PlaceholderDocument) (text : List Char) : Option (String × Nat) :=
  document.substitutions.findSome? fun substitution =>
    if substitution.1.toList.isPrefixOf text then
      some (substitution.2, substitution.1.toList.length)
    else none

/-- Replace the tokens of a text after its first `skip` characters. Scanning continues past a
value rather than through it. -/
def scan (document : PlaceholderDocument) : Nat → List Char → List Char
  | _, [] => []
  | skip + 1, _ :: rest => scan document skip rest
  | 0, c :: rest =>
    if document.tokenPrefix.toList.isPrefixOf (c :: rest) then
      match document.tokenAt (c :: rest) with
      | some (value, size) => value.toList ++ scan document (size - 1) rest
      | none =>
        document.tokenPrefix.toList ++
          scan document (document.tokenPrefix.toList.length - 1) rest
    else c :: scan document 0 rest

/-- Nothing when the text holds no token and can stay as it is. -/
def substitute (document : PlaceholderDocument) (text : String) : Option String :=
  if containsText document.tokenPrefix.toList text.toList then
    some (String.ofList (document.scan 0 text.toList))
  else none

def boundText (document : PlaceholderDocument) (text : String) : String :=
  (document.substitute text).getD text

mutual

def bindValue (document : PlaceholderDocument) : Value → Value
  | .string text => .string (document.boundText text)
  | .array items => .array (bindItems document items)
  | .object entries => .object (bindEntries document entries [])
  | .null => .null
  | .bool value => .bool value
  | .number digits => .number digits

def bindItems (document : PlaceholderDocument) : List Value → List Value
  | [] => []
  | item :: rest => bindValue document item :: bindItems document rest

/-- The entries are inserted one after the other: a later one replaces an earlier one of the same
substituted key. -/
def bindEntries (document : PlaceholderDocument) :
    List (String × Value) → List (String × Value) → List (String × Value)
  | [], bound => bound
  | (key, item) :: rest, bound =>
    bindEntries document rest
      (Entries.insert (document.boundText key) (bindValue document item) bound)

end

/-- Replace every token in the parsed document with the value it stands for, in map keys as well
as in scalars. -/
def bind (document : PlaceholderDocument) (value : Value) : Value :=
  if document.substitutions.isEmpty then value else document.bindValue value

def HoldsToken (document : PlaceholderDocument) (text : String) : Prop :=
  ∃ substitution ∈ document.substitutions, substitution.1.toList <:+: text.toList

variable {document : PlaceholderDocument}

theorem tokenAt_eq_none
    (free : ∀ substitution ∈ document.substitutions, ¬ substitution.1.toList <+: text) :
    document.tokenAt text = none := by
  rw [tokenAt, List.findSome?_eq_none_iff]
  intro substitution member
  rw [if_neg]
  intro opens
  exact free substitution member (List.isPrefixOf_iff_prefix.mp opens)

theorem scan_eq_drop
    (free : ∀ substitution ∈ document.substitutions, ¬ substitution.1.toList <:+: text)
    (skip : Nat) :
    document.scan skip text = text.drop skip := by
  induction text generalizing skip with
  | nil => simp only [scan, List.drop_nil]
  | cons c rest ih =>
    have later : ∀ skip, document.scan skip rest = rest.drop skip :=
      ih fun substitution member inside =>
        free substitution member (inside.trans (List.suffix_cons c rest).isInfix)
    cases skip with
    | succ skip => exact later skip
    | zero =>
      have none : document.tokenAt (c :: rest) = none :=
        tokenAt_eq_none fun substitution member opens => free substitution member opens.isInfix
      simp only [scan, none, later, List.drop_zero]
      split
      next opens =>
        obtain ⟨tail, whole⟩ := List.isPrefixOf_iff_prefix.mp opens
        cases first : document.tokenPrefix.toList with
        | nil => exact absurd (String.toList_eq_nil_iff.mp first) document.marked
        | cons =>
          rw [first] at whole
          obtain ⟨rfl, rfl⟩ := List.cons.inj whole
          simp
      · rfl

theorem boundText_eq_self {text : String} (free : ¬ document.HoldsToken text) :
    document.boundText text = text := by
  have unchanged : document.scan 0 text.toList = text.toList :=
    scan_eq_drop (fun substitution member inside => free ⟨substitution, member, inside⟩) 0
  unfold boundText substitute
  split
  · rw [unchanged, String.ofList_toList, Option.getD_some]
  · rfl

/-! ### Structure -/

theorem bindItems_eq (items : List Value) :
    document.bindItems items = items.map document.bindValue := by
  induction items with
  | nil => rfl
  | cons _ _ ih => rw [bindItems, ih, List.map_cons]

def boundEntry (document : PlaceholderDocument) (entry : String × Value) : String × Value :=
  (document.boundText entry.1, document.bindValue entry.2)

theorem bindEntries_eq (entries bound : List (String × Value)) :
    document.bindEntries entries bound = Entries.collect (entries.map document.boundEntry) bound := by
  induction entries generalizing bound with
  | nil => rfl
  | cons _ _ ih =>
    rw [bindEntries, ih]
    rfl

variable {value : Value}

theorem bindValue_ordered (ordered : value.Ordered) :
    (document.bindValue value).Ordered := by
  induction ordered with
  | null => exact .null
  | bool value => exact .bool value
  | number digits => exact .number digits
  | string => exact .string _
  | array _ _ ih =>
    rw [bindValue, bindItems_eq]
    apply Value.Ordered.array
    intro bound member
    obtain ⟨item, itemMember, rfl⟩ := List.mem_map.mp member
    exact ih item itemMember
  | object _ _ _ ih =>
    rw [bindValue, bindEntries_eq]
    apply Value.Ordered.object
    · exact Entries.Sorted.collect List.Pairwise.nil
    · intro bound member
      cases Entries.mem_collect member with
      | inl collected =>
        obtain ⟨entry, entryMember, rfl⟩ := List.mem_map.mp collected
        exact ih entry entryMember
      | inr none => cases none

theorem bind_ordered (ordered : value.Ordered) : (document.bind value).Ordered := by
  unfold bind
  split
  · exact ordered
  · exact bindValue_ordered ordered

/-- A bound document has the structure the author wrote: arrays keep their length, mappings keep
their entries, each under its substituted key, and a text changes only where it held a token. -/
inductive SameShape (document : PlaceholderDocument) : Value → Value → Prop where
  | null : SameShape document .null .null
  | bool (value : Bool) : SameShape document (.bool value) (.bool value)
  | number (digits : String) : SameShape document (.number digits) (.number digits)
  | string (text bound : String) (unchanged : ¬ document.HoldsToken text → bound = text) :
      SameShape document (.string text) (.string bound)
  | array (items bound : List Value) (size : bound.length = items.length)
      (each : ∀ (place : Nat) (item boundItem : Value), items[place]? = some item →
        bound[place]? = some boundItem → SameShape document item boundItem) :
      SameShape document (.array items) (.array bound)
  | object (entries bound : List (String × Value)) (size : bound.length = entries.length)
      (unchanged : ∀ entry ∈ entries, ¬ document.HoldsToken entry.1 →
        document.boundText entry.1 = entry.1)
      (present : ∀ entry ∈ entries, (Entries.get? (document.boundText entry.1) bound).isSome)
      (each : ∀ (entry : String × Value) (boundItem : Value), entry ∈ entries →
        Entries.get? (document.boundText entry.1) bound = some boundItem →
        SameShape document entry.2 boundItem) :
      SameShape document (.object entries) (.object bound)

/-- In every mapping of the document the substituted keys are pairwise distinct. -/
def KeysStayDistinct (document : PlaceholderDocument) (value : Value) : Prop :=
  ∀ entries ∈ value.objects, (entries.map fun entry => document.boundText entry.1).Nodup

instance (value : Value) : Decidable (document.KeysStayDistinct value) :=
  inferInstanceAs (Decidable (∀ entries ∈ value.objects, _))

theorem keysStayDistinct_array {items : List Value} :
    document.KeysStayDistinct (.array items) ↔ ∀ item ∈ items, document.KeysStayDistinct item := by
  simp only [KeysStayDistinct, Value.objects, Value.mem_objectsOfItems]
  constructor
  · intro distinct item member entries inside
    exact distinct entries ⟨item, member, inside⟩
  · rintro distinct entries ⟨item, member, inside⟩
    exact distinct item member entries inside

variable {entries : List (String × Value)}

theorem keysStayDistinct_object :
    document.KeysStayDistinct (.object entries) ↔
      (entries.map fun entry => document.boundText entry.1).Nodup ∧
        ∀ entry ∈ entries, document.KeysStayDistinct entry.2 := by
  simp only [KeysStayDistinct, Value.objects, List.mem_cons, Value.mem_objectsOfEntries,
    forall_eq_or_imp]
  apply and_congr_right
  intro _
  constructor
  · intro distinct entry member inner inside
    exact distinct inner ⟨entry, member, inside⟩
  · rintro distinct inner ⟨entry, member, inside⟩
    exact distinct entry member inner inside

/-- A mapping is bound without loss exactly when its substituted keys are distinct. -/
theorem length_bindEntries :
    (document.bindEntries entries []).length = entries.length ↔
      (entries.map fun entry => document.boundText entry.1).Nodup := by
  have keys : (entries.map document.boundEntry).map Prod.fst =
      entries.map fun entry => document.boundText entry.1 := by
    rw [List.map_map]
    rfl
  rw [bindEntries_eq, ← keys, ← Entries.length_collect_eq_iff, List.length_map]

/-- An entry of a mapping that is bound without loss is found under its substituted key. -/
theorem get?_bindEntries {entry : String × Value}
    (distinct : (entries.map fun entry => document.boundText entry.1).Nodup)
    (member : entry ∈ entries) :
    Entries.get? (document.boundText entry.1) (document.bindEntries entries []) =
      some (document.bindValue entry.2) := by
  rw [bindEntries_eq]
  apply Entries.get?_collect
  · rw [List.map_map]
    exact distinct
  · exact List.mem_map_of_mem member

theorem sameShape_bindValue_iff (ordered : value.Ordered) :
    document.SameShape value (document.bindValue value) ↔ document.KeysStayDistinct value := by
  induction ordered with
  | null => exact iff_of_true .null nofun
  | bool value => exact iff_of_true (.bool value) nofun
  | number digits => exact iff_of_true (.number digits) nofun
  | string text => exact iff_of_true (.string text _ boundText_eq_self) nofun
  | array _ _ ih =>
    rw [keysStayDistinct_array, bindValue, bindItems_eq]
    constructor
    · intro shape item member
      cases shape with
      | array _ _ _ each =>
        obtain ⟨place, found⟩ := List.getElem?_of_mem member
        refine (ih item member).mp (each place item _ found ?_)
        rw [List.getElem?_map, found]
        rfl
    · intro distinct
      refine .array _ _ (List.length_map _) ?_
      intro place item boundItem found bound
      rw [List.getElem?_map, found] at bound
      cases bound
      have member := List.mem_of_getElem? found
      exact (ih item member).mpr (distinct item member)
  | object _ _ _ ih =>
    rw [keysStayDistinct_object, bindValue]
    constructor
    · intro shape
      cases shape with
      | object _ _ size _ _ each =>
        have distinct := length_bindEntries.mp size
        refine ⟨distinct, fun entry member => (ih entry member).mp ?_⟩
        exact each entry _ member (get?_bindEntries distinct member)
    · rintro ⟨distinct, deeper⟩
      refine .object _ _ (length_bindEntries.mpr distinct) ?_ ?_ ?_
      · exact fun entry _ => boundText_eq_self
      · intro entry member
        rw [get?_bindEntries distinct member]
        rfl
      · intro entry boundItem member found
        rw [get?_bindEntries distinct member] at found
        cases found
        exact (ih entry member).mpr (deeper entry member)

theorem sameShape_self (ordered : value.Ordered) (free : document.substitutions = []) :
    document.SameShape value value ∧ document.KeysStayDistinct value := by
  have same (text : String) : document.boundText text = text := by
    apply boundText_eq_self
    rintro ⟨substitution, member, _⟩
    rw [free] at member
    cases member
  induction ordered with
  | null => exact ⟨.null, nofun⟩
  | bool value => exact ⟨.bool value, nofun⟩
  | number digits => exact ⟨.number digits, nofun⟩
  | string text => exact ⟨.string text text fun _ => rfl, nofun⟩
  | array _ _ ih =>
    refine ⟨.array _ _ rfl ?_, keysStayDistinct_array.mpr fun item member => (ih item member).2⟩
    intro place item boundItem found bound
    rw [found] at bound
    cases bound
    exact (ih item (List.mem_of_getElem? found)).1
  | object entries sorted _ ih =>
    have found (entry : String × Value) (member : entry ∈ entries) :
        Entries.get? (document.boundText entry.1) entries = some entry.2 := by
      rw [same]
      exact Entries.get?_of_mem sorted.nodup member
    constructor
    · refine .object _ _ rfl (fun entry _ _ => same entry.1) ?_ ?_
      · intro entry member
        rw [found entry member]
        rfl
      · intro entry boundItem member bound
        rw [found entry member] at bound
        cases bound
        exact (ih entry member).1
    · refine keysStayDistinct_object.mpr ⟨?_, fun entry member => (ih entry member).2⟩
      simp only [same]
      exact sorted.nodup

/-- Binding keeps the structure the author wrote exactly when the values make no two keys of one
mapping coincide. -/
theorem bind_preserves_structure_iff (document : PlaceholderDocument) (parsed : Document) :
    document.SameShape parsed.value (document.bind parsed.value) ↔
      document.KeysStayDistinct parsed.value := by
  unfold bind
  split
  next free =>
    obtain ⟨shape, distinct⟩ := sameShape_self parsed.ordered (List.isEmpty_iff.mp free)
    exact iff_of_true shape distinct
  · exact sameShape_bindValue_iff parsed.ordered

end PlaceholderDocument

namespace Sample

def annotated : TemplateText where
  parts :=
    [.literal "apiVersion: v1\nkind: Service\nmetadata:\n  name: raw-svc\n  annotations:\n    team/",
     .instanceValue "tenant",
     .literal ": tenant\n    team/owner: platform\n"]

def annotations : Value :=
  .object [("team/owner", .string "platform"), ("team/sleepypodsInstanceValue0-", .string "tenant")]

theorem annotations_ordered : annotations.Ordered := by
  refine .object _ (by decide) ?_
  intro entry member
  simp only [List.mem_cons, List.not_mem_nil, or_false] at member
  rcases member with rfl | rfl <;> exact .string _

def parsed : Document where
  value := .object [("apiVersion", .string "v1"), ("kind", .string "Service"),
    ("metadata", .object [("annotations", annotations), ("name", .string "raw-svc")])]
  ordered := by
    refine .object _ (by decide) ?_
    intro entry member
    simp only [List.mem_cons, List.not_mem_nil, or_false] at member
    rcases member with rfl | rfl | rfl
    · exact .string _
    · exact .string _
    · refine .object _ (by decide) ?_
      intro entry member
      simp only [List.mem_cons, List.not_mem_nil, or_false] at member
      rcases member with rfl | rfl
      · exact annotations_ordered
      · exact .string _

end Sample

/-- The tenant `owner` takes the place of the author's entry for `owner`. -/
theorem tenant_value_shadows_an_entry :
    ∃ document, (PlaceholderDocument.new Sample.annotated).withValues [("tenant", "owner")] =
        .ok document ∧
      ((document.bind Sample.annotations).index "team/owner").asStr = some "tenant" ∧
      ¬ document.SameShape Sample.parsed.value (document.bind Sample.parsed.value) := by
  refine ⟨_, rfl, ?_⟩
  rw [PlaceholderDocument.bind, PlaceholderDocument.bind, if_neg (by decide), if_neg (by decide),
    PlaceholderDocument.sameShape_bindValue_iff Sample.parsed.ordered]
  decide +kernel

end Sleepypods.Manifest
